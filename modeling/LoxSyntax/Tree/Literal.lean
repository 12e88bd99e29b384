import LoxSyntax.Decimal.Positional

/-! # Literal values

The payload of a literal: nil, a boolean, a number (a double) or a string.

A number is written with the fewest digits that read back as it, in positional
notation without a fraction for whole numbers (`3`, `0.1`, `1e21` as
`1000000000000000000000`); a negative value, zero included, takes a minus sign;
the non-numbers are `NaN`, `inf` and `-inf`.
-/

namespace LoxSyntax.Tree

open LoxSyntax.Decimal

/-- A literal payload. -/
inductive Literal where
  | nil
  | bool (b : Bool)
  | number (x : Float)
  | str (s : String)
deriving Inhabited

/-- Whether the payload is nil. -/
def Literal.isNil : Literal → Bool
  | .nil => true
  | _ => false

/-- The text of a number. -/
def numberText (x : Float) : String :=
  let bits := x.toBits
  let negative := bits >>> 63 == 1
  let exponent := (bits >>> 52) &&& 0x7FF
  let fraction := bits &&& 0xFFFFFFFFFFFFF
  if exponent == 0x7FF then
    if fraction != 0 then "NaN" else if negative then "-inf" else "inf"
  else (if negative then "-" else "") ++ (Binary.ofBits bits).shortest.positional

/-- The text of a payload. -/
def Literal.display : Literal → String
  | .nil => "nil"
  | .bool b => if b then "true" else "false"
  | .number x => numberText x
  | .str s => s

end LoxSyntax.Tree
