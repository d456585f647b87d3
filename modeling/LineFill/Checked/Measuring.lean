import LineFill.Checked.Word
import LineFill.Chunk

/-!
Measuring on words: break offsets in canonical form, and the scan that cuts a text into chunks at
them. The scan counts the chunks it has closed to find the offset at which the next one ends.
-/
namespace LineFill.Checked

/-- The offsets that are kept, and how many were dropped. -/
def keep (text : Text) (last dropped : Nat) : List Nat → Checked (List Nat × Nat)
  | [] => return (if last = text.byteLength then [] else [text.byteLength], dropped)
  | offset :: rest => do
    if Offsets.continues text last offset then
      let (kept, dropped) ← keep text offset dropped rest
      return (offset :: kept, dropped)
    else if offset = 0 then keep text last dropped rest
    else
      let dropped ← Word.add dropped 1
      keep text last dropped rest

/-- The canonical form of break offsets, and how many were dropped. Room is made for two more. -/
def canonical (text : Text) (raw : List Nat) : Checked (List Nat × Nat) :=
  if raw.length < 2 then return (raw, 0)
  else do
    let _ ← Word.add raw.length 2
    let (kept, dropped) ← keep text 0 0 raw
    return (0 :: kept, dropped)

/-- A chunk that is being read: its width so far, and how much of it the blanks at its end take. -/
structure OpenChunk where
  start : Nat
  inkStop : Nat
  width : Nat
  blankWidth : Nat

namespace OpenChunk

def emptyAt (start : Nat) : OpenChunk := ⟨start, start, 0, 0⟩

/-- The chunk with one more character, which ends at `stop`. -/
def push (classes : CharClasses) (metric : Metric) (chunk : OpenChunk) (stop : Nat) (c : Char) :
    Checked OpenChunk := do
  let width ← Word.add chunk.width (metric.widthOf c)
  if classes.isBlank c then
    let blankWidth ← Word.add chunk.blankWidth (metric.widthOf c)
    return ⟨chunk.start, chunk.inkStop, width, blankWidth⟩
  else return ⟨chunk.start, stop, width, 0⟩

def close (chunk : OpenChunk) (stop : Nat) : Checked Chunk := do
  let inkWidth ← Word.sub chunk.width chunk.blankWidth
  return ⟨chunk.start, stop, chunk.inkStop, chunk.width, inkWidth⟩

end OpenChunk

/-- Whether chunk number `closed`, of `count` chunks, ends at `next` in a text of `size` bytes. -/
def closes (offsets : List Nat) (count size closed next : Nat) : Checked Bool :=
  if closed < count then
    if size ≤ next then return true
    else do
      let index ← Word.add closed 1
      let stop ← fetch offsets index
      return stop ≤ next
  else return false

/-- Reads the characters from `offset` on, when the chunks `closed` have been read. -/
def scan (classes : CharClasses) (metric : Metric) (offsets : List Nat) (count size : Nat)
    (closed : List Chunk) (chunk : OpenChunk) (offset : Nat) :
    Text → Checked (Except HardBreak (List Chunk))
  | [] => return .ok closed
  | c :: cs =>
    if classes.isHardBreak c then return .error ⟨offset, c⟩
    else do
      let next ← Word.add offset c.utf8Size
      let grown ← chunk.push classes metric next c
      if ← closes offsets count size closed.length next then
        let done ← grown.close next
        scan classes metric offsets count size (closed ++ [done]) (.emptyAt next) next cs
      else scan classes metric offsets count size closed grown next cs

/-- The chunks of a text at the given offsets, or its first hard break. -/
def measure (classes : CharClasses) (metric : Metric) (text : Text) (offsets : List Nat) :
    Checked (Except HardBreak (List Chunk)) :=
  if offsets.length < 2 then return .ok []
  else do
    let count ← Word.sub offsets.length 1
    let start ← fetch offsets 0
    scan classes metric offsets count text.byteLength [] (.emptyAt start) 0 text

end LineFill.Checked
