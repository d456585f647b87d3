/-!
Floats as exact numbers: what the bits of a float stand for, and the float nearest to a given
decimal.
-/
namespace LineFill.Decimal

/-- What a float is. A finite one is a mantissa times a power of two. -/
inductive Exact
  | nan
  | infinite (negative : Bool)
  | finite (negative : Bool) (mantissa : Nat) (exponent : Int)
  deriving DecidableEq, Repr

namespace Exact

def ofFloat (x : Float) : Exact :=
  let bits := x.toBits.toNat
  let negative := bits.testBit 63
  let biased : Nat := bits / Nat.pow 2 52 % Nat.pow 2 11
  let fraction : Nat := bits % Nat.pow 2 52
  if biased = 2047 then
    if fraction = 0 then .infinite negative else .nan
  else if biased = 0 then .finite negative fraction (-1074)
  else .finite negative (Nat.pow 2 52 + fraction) ((biased : Int) - 1075)

end Exact

/-- The quotient rounded to the nearest number, a half to the even one. -/
def roundDiv (num den : Nat) : Nat :=
  let q := num / den
  let r := num % den
  if 2 * r < den then q
  else if den < 2 * r then q + 1
  else if q % 2 = 0 then q else q + 1

/-- The largest `k` with `2 ^ k ≤ num / den`, for positive numbers. -/
def binaryOrder (num den : Nat) : Int :=
  let k : Int := (num.log2 : Int) - den.log2
  if num * Nat.pow 2 (-k).toNat < den * Nat.pow 2 k.toNat then k - 1 else k

def infinityBits : Nat := 2047 * Nat.pow 2 52

/-- The bits of the float nearest to a positive quotient. The mantissa has 53 bits unless the
number is so small that the exponent is the least one. -/
def nearestBits (num den : Nat) : Nat :=
  let exponent := max (binaryOrder num den - 52) (-1074)
  let mantissa := roundDiv (num * Nat.pow 2 (-exponent).toNat) (den * Nat.pow 2 exponent.toNat)
  min ((exponent + 1074).toNat * Nat.pow 2 52 + mantissa) infinityBits

/-- The number of decimal digits. -/
def digitCount (n : Nat) : Nat := (Nat.toDigits 10 n).length

/-- The bits of the float nearest to `digits` times a power of ten. Numbers of more than 310 places
are infinite, and numbers below the 330th place after the point are zero, so no huge power has to be
formed. -/
def decimalBits (digits : Nat) (exponent : Int) : Nat :=
  let places := digitCount digits + exponent
  if digits = 0 ∨ places < -330 then 0
  else if 310 < places then infinityBits
  else nearestBits (digits * Nat.pow 10 exponent.toNat) (Nat.pow 10 (-exponent).toNat)

/-- The float nearest to a decimal with a sign. -/
def nearestFloat (negative : Bool) (digits : Nat) (exponent : Int) : Float :=
  Float.ofBits (UInt64.ofNat (decimalBits digits exponent + if negative then Nat.pow 2 63 else 0))

end LineFill.Decimal
