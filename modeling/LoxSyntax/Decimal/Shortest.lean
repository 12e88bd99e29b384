/-! # Shortest decimals of binary floating-point values

A finite double is `m · 2^q`. The reals that round to it under round-to-nearest,
ties to even, form an interval reaching halfway to each neighbour, with its ends
included exactly when `m` is even; below a power of two the lower neighbour is
half as far as the upper one.

`Binary.shortest` returns the decimal with the fewest significant digits in that
interval and, among those, the one nearest to the value; when two are equally
near it takes the larger. It searches grids of 1 to 17 significant digits: on
each grid only the two neighbours of the value can be nearest, and they are
tested by exact comparisons of naturals. Seventeen digits always suffice for a
double.
-/

namespace LoxSyntax.Decimal

/-- A finite non-negative binary64 value `m · 2^q`. -/
structure Binary where
  m : Nat
  q : Int
  /-- The gap to the value below is half the gap to the value above. -/
  narrowBelow : Bool
deriving Repr, DecidableEq

/-- The value of the bits of a finite double, sign ignored. -/
def Binary.ofBits (b : UInt64) : Binary :=
  let e := ((b >>> 52) &&& 0x7FF).toNat
  let f := (b &&& 0xFFFFFFFFFFFFF).toNat
  if e == 0 then ⟨f, -1074, false⟩ else ⟨Nat.pow 2 52 + f, (e : Int) - 1075, f == 0 && e > 1⟩

/-- A decimal `digits · 10^exp`. -/
structure Dec where
  digits : Nat
  exp : Int
deriving Repr, DecidableEq

/-- Compares `a · 10^i` with `n · 2^j` exactly. -/
def cmpScaled (a : Nat) (i : Int) (n : Nat) (j : Int) : Ordering :=
  compare (a * Nat.pow 10 i.toNat * Nat.pow 2 (-j).toNat) (n * Nat.pow 2 j.toNat * Nat.pow 10 (-i).toNat)

/-- Whether the decimal lies among the reals that round to the value. -/
def Binary.readsBack (x : Binary) (d : Dec) : Bool :=
  let lo := if x.narrowBelow then 4 * x.m - 1 else 4 * x.m - 2
  let hi := 4 * x.m + 2
  let inclusive := x.m % 2 == 0
  let cl := cmpScaled d.digits d.exp lo (x.q - 2)
  let ch := cmpScaled d.digits d.exp hi (x.q - 2)
  (cl == .gt || (inclusive && cl == .eq)) && (ch == .lt || (inclusive && ch == .eq))

/-- Whether the value is below `10^k`. -/
def Binary.below (x : Binary) (k : Int) : Bool := cmpScaled 1 k x.m x.q == .gt

/-- The least `k` with the value below `10^k`, for a non-zero value: an estimate
from the binary length, corrected by exact comparisons. -/
def Binary.scale (x : Binary) : Int :=
  let bits : Int := (Nat.log2 x.m : Int) + 1 + x.q
  let estimate : Int := bits * 30103 / 100000
  let rec up : Nat → Int → Int
    | 0, k => k
    | fuel + 1, k => if x.below k then k else up fuel (k + 1)
  let rec down : Nat → Int → Int
    | 0, k => k
    | fuel + 1, k => if x.below (k - 1) then down fuel (k - 1) else k
  down 8 (up 8 (estimate - 2))

/-- The value divided by `10^g`, rounded down. -/
def Binary.floorOnGrid (x : Binary) (g : Int) : Nat :=
  (x.m * Nat.pow 2 x.q.toNat * Nat.pow 10 (-g).toNat) / (Nat.pow 2 (-x.q).toNat * Nat.pow 10 g.toNat)

/-- The nearer of two decimals on the grid `10^g` around the value; the larger on
a tie. -/
def Binary.nearer (x : Binary) (lo : Nat) (g : Int) : Nat :=
  -- twice the value against the midpoint (2 lo + 1) · 10^g
  match cmpScaled (2 * lo + 1) g (2 * x.m) x.q with
  | .gt => lo
  | _ => lo + 1

/-- The decimal with the fewest significant digits that reads back, searching
`n` to 17 digits below the scale `k`. -/
def Binary.search (x : Binary) (k : Int) : Nat → Nat → Option Dec
  | 0, _ => none
  | fuel + 1, n =>
    let g := k - n
    let lo := x.floorOnGrid g
    let loOk := x.readsBack ⟨lo, g⟩
    let hiOk := x.readsBack ⟨lo + 1, g⟩
    if loOk && hiOk then some ⟨x.nearer lo g, g⟩
    else if loOk then some ⟨lo, g⟩
    else if hiOk then some ⟨lo + 1, g⟩
    else x.search k fuel (n + 1)

/-- Moves trailing zeros of the digits into the exponent. -/
def Dec.normalize (d : Dec) : Dec :=
  let rec go : Nat → Nat → Int → Dec
    | 0, digits, exp => ⟨digits, exp⟩
    | fuel + 1, digits, exp =>
      if digits != 0 && digits % 10 == 0 then go fuel (digits / 10) (exp + 1) else ⟨digits, exp⟩
  go 20 d.digits d.exp

/-- The exact decimal value of `m · 2^q`. -/
def Binary.exact (x : Binary) : Dec :=
  if x.q ≥ 0 then ⟨x.m * Nat.pow 2 x.q.toNat, 0⟩ else ⟨x.m * Nat.pow 5 (-x.q).toNat, x.q⟩

/-- The shortest decimal that reads back as the value; zero for zero. -/
def Binary.shortest (x : Binary) : Dec :=
  if x.m == 0 then ⟨0, 0⟩
  else ((x.search x.scale 17 1).getD x.exact).normalize

end LoxSyntax.Decimal
