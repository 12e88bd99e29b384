import LoxSyntax.Decimal.Shortest

/-! # Positional decimal text

A decimal `digits · 10^exp` written without exponent: the digits with the point
placed by the exponent, zeros added where the point falls outside them, and no
point at all for a whole number.
-/

namespace LoxSyntax.Decimal

/-- The decimal digits of a natural, most significant first. -/
def digitChars (n : Nat) : List Char := (Nat.toDigits 10 n)

/-- A decimal in positional notation. -/
def Dec.positional (d : Dec) : String :=
  let ds := digitChars d.digits
  if d.exp ≥ 0 then String.ofList (ds ++ List.replicate d.exp.toNat '0')
  else
    let fracLen := (-d.exp).toNat
    if fracLen < ds.length then
      String.ofList (ds.take (ds.length - fracLen) ++ '.' :: ds.drop (ds.length - fracLen))
    else String.ofList ('0' :: '.' :: List.replicate (fracLen - ds.length) '0' ++ ds)

end LoxSyntax.Decimal
