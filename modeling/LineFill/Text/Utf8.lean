import LineFill.Text.Offset

/-!
The UTF-8 form of a text. Decoding stops at the first byte that no character's form continues, so
it splits a byte string into its longest well-formed part and the rest.
-/
namespace LineFill.Text

def encode (text : Text) : List UInt8 := text.flatMap String.utf8EncodeChar

/-- The character with this code point, if its form has `size` bytes; a longer form is malformed. -/
def scalar? (code size : Nat) : Option Char :=
  let c := Char.ofNat code
  if c.toNat = code ∧ c.utf8Size = size then some c else none

def isContinuation (b : UInt8) : Bool := b.toNat / 64 = 2

def oneByte? (a : UInt8) : Option Char :=
  if a.toNat < 128 then scalar? a.toNat 1 else none

def twoBytes? (a b : UInt8) : Option Char :=
  if a.toNat / 32 = 6 ∧ isContinuation b then
    scalar? (a.toNat % 32 * 64 + b.toNat % 64) 2
  else none

def threeBytes? (a b c : UInt8) : Option Char :=
  if a.toNat / 16 = 14 ∧ isContinuation b ∧ isContinuation c then
    scalar? ((a.toNat % 16 * 64 + b.toNat % 64) * 64 + c.toNat % 64) 3
  else none

def fourBytes? (a b c d : UInt8) : Option Char :=
  if a.toNat / 8 = 30 ∧ isContinuation b ∧ isContinuation c ∧ isContinuation d then
    scalar? (((a.toNat % 8 * 64 + b.toNat % 64) * 64 + c.toNat % 64) * 64 + d.toNat % 64) 4
  else none

/-- The longest well-formed part of the bytes, decoded, and the bytes from the first malformed
sequence on. -/
def decode : List UInt8 → Text × List UInt8
  | [] => ([], [])
  | a :: r =>
    match oneByte? a with
    | some x => (decode r).map (x :: ·) id
    | none =>
      match r with
      | [] => ([], [a])
      | b :: r =>
        match twoBytes? a b with
        | some x => (decode r).map (x :: ·) id
        | none =>
          match r with
          | [] => ([], [a, b])
          | c :: r =>
            match threeBytes? a b c with
            | some x => (decode r).map (x :: ·) id
            | none =>
              match r with
              | [] => ([], [a, b, c])
              | d :: r =>
                match fourBytes? a b c d with
                | some x => (decode r).map (x :: ·) id
                | none => ([], a :: b :: c :: d :: r)

/-- The text whose form the bytes are, if they are well formed to the end. -/
def ofUtf8? (bytes : List UInt8) : Option Text :=
  match decode bytes with
  | (text, []) => some text
  | _ => none

end LineFill.Text
