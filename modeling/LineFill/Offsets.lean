import LineFill.Text.Offset

/-!
Break offsets as a segmenter reports them, and their canonical form: from the start of the text to
its end, strictly increasing, on edges only.
-/
namespace LineFill.Offsets

/-- Whether an offset may follow `last` in a canonical list. -/
def continues (text : Text) (last offset : Nat) : Bool := last < offset && text.isEdge offset

/-- Keeps the offsets that continue the canonical list which ends in `last`, and closes it with the
end of the text. -/
def keep (text : Text) (last : Nat) : List Nat → List Nat
  | [] => if last = text.byteLength then [] else [text.byteLength]
  | offset :: rest =>
    if continues text last offset then offset :: keep text offset rest else keep text last rest

/-- How many offsets other than zero are not kept. -/
def dropped (text : Text) (last : Nat) : List Nat → Nat
  | [] => 0
  | offset :: rest =>
    if continues text last offset then dropped text offset rest
    else (if offset = 0 then 0 else 1) + dropped text last rest

/-- The canonical form; a list of fewer than two offsets marks no part of the text and stays. -/
def canonical (text : Text) (raw : List Nat) : List Nat :=
  if raw.length < 2 then raw else 0 :: keep text 0 raw

def droppedCount (text : Text) (raw : List Nat) : Nat :=
  if raw.length < 2 then 0 else dropped text 0 raw

/-- From the start of the text to its end, strictly increasing, on edges only. -/
structure Canonical (text : Text) (offsets : List Nat) : Prop where
  first : offsets.head? = some 0
  last : offsets.getLast? = some text.byteLength
  increasing : offsets.Pairwise (· < ·)
  edges : ∀ o ∈ offsets, text.isEdge o

end LineFill.Offsets
