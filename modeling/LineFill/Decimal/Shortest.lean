import LineFill.Decimal.Binary

/-!
The fewest decimal digits that read back as a given float. The numbers that read back as a float
form an interval around it; of the grids of decimals with one digit, two digits and so on, the
first with a point in the interval gives the digits, and the nearer of two points is taken.
-/
namespace LineFill.Decimal

/-- `digits` times a power of ten. -/
structure Numeral where
  digits : Nat
  exponent : Int
  deriving DecidableEq, Repr

/-- A float and the ends of the interval of numbers that read back as it, all in the unit of
`2 ^ exponent`. The ends belong to the interval if `closed`. -/
structure Interval where
  low : Nat
  mid : Nat
  high : Nat
  exponent : Int
  closed : Bool
  deriving DecidableEq, Repr

namespace Interval

/-- The neighbour below the least mantissa of an exponent is half as far as the one above. -/
def around (mantissa : Nat) (exponent : Int) : Interval :=
  let low := if mantissa = Nat.pow 2 52 ∧ -1074 < exponent then 4 * mantissa - 1 else 4 * mantissa - 2
  ⟨low, 4 * mantissa, 4 * mantissa + 2, exponent - 2, mantissa % 2 = 0⟩

/-- How many of the interval's units a number of tens `10 ^ place` has, as a quotient: a number `d`
of them is `d * scale.1` where a number `u` of units is `u * scale.2`. -/
def scale (interval : Interval) (place : Int) : Nat × Nat :=
  (Nat.pow 10 place.toNat * Nat.pow 2 (-interval.exponent).toNat,
    Nat.pow 10 (-place).toNat * Nat.pow 2 interval.exponent.toNat)

/-- The multiple of `10 ^ place` in the interval that is nearest to its float; of two that are as
near the greater one. -/
def nearest? (interval : Interval) (place : Int) : Option Nat :=
  let (ten, unit) := interval.scale place
  let inside (d : Nat) : Bool :=
    if interval.closed then interval.low * unit ≤ d * ten && d * ten ≤ interval.high * unit
    else interval.low * unit < d * ten && d * ten < interval.high * unit
  let below := interval.mid * unit / ten
  match inside below, inside (below + 1) with
  | true, true =>
    if 2 * interval.mid * unit < (2 * below + 1) * ten then some below else some (below + 1)
  | true, false => some below
  | false, true => some (below + 1)
  | false, false => none

/-- The first of the grids from `place` downwards that has a point in the interval. -/
def search (interval : Interval) : Nat → Int → Numeral
  | 0, place => ⟨0, place⟩
  | grids + 1, place =>
    match interval.nearest? place with
    | some d => ⟨d, place⟩
    | none => search interval grids (place - 1)

end Interval

/-- Moves the zeros at the end of the digits, at most `count` of them, into the exponent. -/
def Numeral.dropZeros : Nat → Numeral → Numeral
  | 0, d => d
  | count + 1, d =>
    if d.digits % 10 = 0 ∧ d.digits ≠ 0 then dropZeros count ⟨d.digits / 10, d.exponent + 1⟩ else d

/-- A power of ten above `mantissa * 2 ^ exponent`, at most three places too high; 30103 over 100000
is the logarithm of two, rounded up. -/
def placeAbove (mantissa : Nat) (exponent : Int) : Int :=
  ((mantissa.log2 : Int) + 1 + exponent) * 30103 / 100000 + 2

/-- The shortest decimal of a positive float. Seventeen digits are always enough, so the search
ends after at most twenty grids. -/
def shortest (mantissa : Nat) (exponent : Int) : Numeral :=
  ((Interval.around mantissa exponent).search 20 (placeAbove mantissa exponent)).dropZeros 20

end LineFill.Decimal
