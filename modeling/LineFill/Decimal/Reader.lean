import LineFill.Decimal.Binary
import LineFill.Text.Blank

/-!
Numbers as they are typed: whole numbers with an optional sign, and decimals with an optional point
and power of ten, or the names of infinity and of no number.
-/
namespace LineFill.Decimal

/-- The sign of a text, minus or not, and what follows it. -/
def splitSign : Text → Bool × Text
  | '-' :: rest => (true, rest)
  | '+' :: rest => (false, rest)
  | text => (false, text)

def isDigit (c : Char) : Bool := '0' ≤ c && c ≤ '9'

/-- The number whose digits follow those of `n`. -/
def digitsValue (n : Nat) (digits : Text) : Nat :=
  digits.foldl (fun n c => 10 * n + (c.toNat - '0'.toNat)) n

/-- A number without sign: one digit or more, and nothing else. -/
def readNat? (text : Text) : Option Nat :=
  if !text.isEmpty && text.all isDigit then some (digitsValue 0 text) else none

def readInt? (text : Text) : Option Int :=
  let (negative, rest) := splitSign text
  (readNat? rest).map fun n => if negative then -(n : Int) else n

/-- A whole number of 64 bits with sign. -/
def readInt64? (text : Text) : Option Int :=
  let bound : Int := Nat.pow 2 63
  (readInt? text).filter fun n => -bound ≤ n ∧ n < bound

/-- The power of ten after the digits: nothing, or an `e` and a whole number. -/
def readExponent? : Text → Option Int
  | [] => some 0
  | c :: rest => if c = 'e' ∨ c = 'E' then readInt? rest else none

/-- Digits with an optional point among or around them, and a power of ten. -/
def readFinite? (negative : Bool) (text : Text) : Option Float :=
  let whole := text.takeWhile isDigit
  let rest := text.dropWhile isDigit
  let (places, rest) :=
    match rest with
    | '.' :: rest => (rest.takeWhile isDigit, rest.dropWhile isDigit)
    | rest => ([], rest)
  if whole.isEmpty && places.isEmpty then none
  else (readExponent? rest).map fun e =>
    nearestFloat negative (digitsValue 0 (whole ++ places)) (e - places.length)

def readFloat? (text : Text) : Option Float :=
  let (negative, rest) := splitSign text
  match String.ofList rest.lowerAscii with
  | "inf" | "infinity" => some (if negative then -1 / 0 else 1 / 0)
  | "nan" => some (0 / 0)
  | _ => readFinite? negative rest

end LineFill.Decimal
