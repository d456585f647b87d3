import LineFill.Decimal.Shortest

/-!
Decimals in writing. Positional notation writes every place; scientific notation writes one digit
before the point and the power of ten after an `e`.
-/
namespace LineFill.Decimal

namespace Numeral

def digitChars (d : Numeral) : List Char := Nat.toDigits 10 d.digits

/-- The power of ten of the leading digit. -/
def order (d : Numeral) : Int := d.digitChars.length + d.exponent - 1

/-- All places, with at least `places` of them after the point. -/
def positional (places : Nat) (d : Numeral) : List Char :=
  let zeros (n : Nat) := List.replicate n '0'
  let whole := d.digitChars.length + d.exponent
  let before := d.digitChars.take whole.toNat ++ zeros d.exponent.toNat
  let after := zeros (-whole).toNat ++ d.digitChars.drop whole.toNat
  let padded := after ++ zeros (places - after.length)
  (if before.isEmpty then ['0'] else before) ++ if padded.isEmpty then [] else '.' :: padded

def scientific (d : Numeral) : List Char :=
  let after := d.digitChars.drop 1
  d.digitChars.take 1 ++ (if after.isEmpty then [] else '.' :: after) ++ 'e' :: (toString d.order).toList

end Numeral

/-- How finite numbers other than zero are written. -/
structure Style where
  zero : String
  write : Numeral → List Char

/-- Every place is written, and no point follows a whole number. -/
def Style.plain : Style := ⟨"0", Numeral.positional 0⟩

/-- A point is always written; numbers from `10 ^ 16` on and below `10 ^ -4` are scientific. -/
def Style.point : Style :=
  ⟨"0.0", fun d => if -4 ≤ d.order ∧ d.order < 16 then d.positional 1 else d.scientific⟩

def sign (negative : Bool) : String := if negative then "-" else ""

def Style.text (style : Style) (x : Float) : String :=
  match Exact.ofFloat x with
  | .nan => "NaN"
  | .infinite negative => sign negative ++ "inf"
  | .finite negative mantissa exponent =>
    sign negative ++
      if mantissa = 0 then style.zero else String.ofList (style.write (shortest mantissa exponent))

end LineFill.Decimal
