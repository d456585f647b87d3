import LineFill.Metric
import LineFill.Offsets

/-!
Chunks: the parts of a text between consecutive break offsets, each with the width of the whole
and of its ink, which is what remains when the blanks at its end are dropped.
-/
namespace LineFill

structure Chunk where
  start : Nat
  stop : Nat
  inkStop : Nat
  width : Nat
  inkWidth : Nat
  deriving DecidableEq, Repr

/-- A hard line break and where it stands. -/
structure HardBreak where
  offset : Nat
  char : Char
  deriving DecidableEq, Repr

namespace Chunk

def emptyAt (start : Nat) : Chunk := ⟨start, start, start, 0, 0⟩

/-- The chunk with one more character, which ends at `stop`. -/
def push (classes : CharClasses) (metric : Metric) (chunk : Chunk) (stop : Nat) (c : Char) : Chunk :=
  let width := chunk.width + metric.widthOf c
  if classes.isBlank c then ⟨chunk.start, stop, chunk.inkStop, width, chunk.inkWidth⟩
  else ⟨chunk.start, stop, stop, width, width⟩

/-- Reads the characters from `offset` on into chunks. The open chunk is closed at the first
character that reaches the next stop, or with the text; once no stop is left, the rest of the text
is only searched for hard breaks. -/
def scan (classes : CharClasses) (metric : Metric) (stops : List Nat) (chunk : Chunk)
    (offset : Nat) : Text → Except HardBreak (List Chunk)
  | [] => .ok []
  | c :: cs =>
    if classes.isHardBreak c then .error ⟨offset, c⟩
    else
      let next := offset + c.utf8Size
      let grown := chunk.push classes metric next c
      match stops with
      | [] => scan classes metric [] grown next cs
      | stop :: later =>
        if cs.isEmpty || stop ≤ next then
          (scan classes metric later (emptyAt next) next cs).map (grown :: ·)
        else scan classes metric stops grown next cs

/-- The chunks of a text at the given offsets, or its first hard break. -/
def ofOffsets (classes : CharClasses) (metric : Metric) (text : Text) :
    List Nat → Except HardBreak (List Chunk)
  | start :: stop :: later => scan classes metric (stop :: later) (emptyAt start) 0 text
  | _ => .ok []

/-- The chunk that a part of a text forms by itself. -/
def ofSlice (classes : CharClasses) (metric : Metric) (start : Nat) (part : Text) : Chunk :=
  let ink : Text := (part.reverse.dropWhile classes.isBlank).reverse
  ⟨start, start + part.byteLength, start + ink.byteLength, metric.width part, metric.width ink⟩

/-- The width of chunks with all their blanks. -/
def totalWidth : List Chunk → Nat
  | [] => 0
  | c :: cs => c.width + totalWidth cs

/-- The width of a line that holds the chunks `first` to `last`: blanks count, except at its end. -/
def lineWidth (chunks : List Chunk) (first last : Nat) : Nat :=
  totalWidth ((chunks.drop first).take (last - first)) + (chunks[last]?.map inkWidth).getD 0

/-- No chunk is narrower than its ink. -/
def Measured (chunks : List Chunk) : Prop := ∀ c ∈ chunks, c.inkWidth ≤ c.width

end Chunk

end LineFill
