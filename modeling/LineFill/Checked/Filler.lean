import LineFill.Checked.Measuring
import LineFill.Checked.Method
import LineFill.Filler.Basic

/-!
The filler on words: layouts, lines, breaks and batches. Only the segmenter is taken as it is.
-/
namespace LineFill.Checked

variable {K : Type} [Score K]

/-- The lines that end with the given chunks, the first from `start` on. -/
def linesFrom (text : Text) (chunks : List Chunk) (start : Nat) : List Nat → Checked (List Text)
  | [] => return []
  | last :: points => do
    let chunk ← fetch chunks last
    let stop := max chunk.inkStop start
    if text.hasSlice start stop then
      let index ← Word.add last 1
      let next := (chunks[index]?.map Chunk.start).getD start
      let later ← linesFrom text chunks next points
      return text.slice start stop :: later
    else .error .noPart

/-- The lines of a text. Every point must be before the last chunk. -/
def cutLines (text : Text) (chunks : List Chunk) (points : List Nat) : Checked (List Text) :=
  if chunks.isEmpty then return [text]
  else do
    let last ← Word.sub chunks.length 1
    if points.all (· < last) then
      let _ ← Word.add points.length 1
      let first ← fetch chunks 0
      linesFrom text chunks first.start (points ++ [last])
    else .error .latePoint

/-- The width of chunks with all their blanks, added to `used`. -/
def totalWidth (used : Nat) : List Chunk → Checked Nat
  | [] => return used
  | chunk :: chunks => do
    let used ← Word.add used chunk.width
    totalWidth used chunks

def penaltiesFrom (chunks : List Chunk) (width : Nat) (exponent : K) (first : Nat) :
    List Nat → Checked (List (Option K))
  | [] => return []
  | last :: points =>
    if first ≤ last ∧ last < chunks.length then do
      let before ← totalWidth 0 ((chunks.drop first).take (last - first))
      let chunk ← fetch chunks last
      let used ← Word.add before chunk.inkWidth
      let p ← penalty used width (first = last) exponent
      let next ← Word.add last 1
      let later ← penaltiesFrom chunks width exponent next points
      return p :: later
    else return [none]

def penalties (chunks : List Chunk) (points : List Nat) (width : Nat) (exponent : K) :
    Checked (List (Option K)) :=
  if chunks.isEmpty then return []
  else do
    let last ← Word.sub chunks.length 1
    let _ ← Word.add points.length 1
    penaltiesFrom chunks width exponent 0 (points ++ [last])

def layout (filler : Filler K) (text : Text) : Checked (Layout K) :=
  if (filler.segmenter text).length < 2 then return .unbreakable
  else do
    let (offsets, _) ← canonical text (filler.segmenter text)
    match ← measure filler.classes filler.metric text offsets with
    | .ok chunks =>
      let solution ← solve chunks filler.width filler.method
      return .chunked chunks solution
    | .error found => return .broken found

def linesOf (text : Text) : Layout K → Checked (List Text)
  | .chunked chunks solution => cutLines text chunks solution.points
  | _ => return [text]

/-- The lines of a text. -/
def fill (filler : Filler K) (text : Text) : Checked (Except Failure (List Text)) := do
  match filler.accept 0 (← layout filler text) with
  | .error failure => return .error failure
  | .ok layout =>
    let lines ← linesOf text layout
    return .ok lines

def breaksOf (filler : Filler K) : Layout K → Checked (Option (Breaks K))
  | .chunked chunks solution => do
    let penalties ← penalties chunks solution.points filler.width filler.method.penaltyExponent
    return some ⟨solution.points, penalties, totalPenalty penalties⟩
  | _ => return none

/-- Where the lines of a text end and how they are judged. -/
def breaks (filler : Filler K) (text : Text) : Checked (Except Failure (Option (Breaks K))) := do
  match filler.accept 0 (← layout filler text) with
  | .error failure => return .error failure
  | .ok layout =>
    let breaks ← breaksOf filler layout
    return .ok breaks

def fillItem (filler : Filler K) (number : Nat) :
    Option (List UInt8) → Checked (Except Failure Filled)
  | none => return .ok .absent
  | some bytes =>
    match Text.decode bytes with
    | (text, []) => do
      match filler.accept number (← layout filler text) with
      | .error failure => return .error failure
      | .ok (.broken _) => return .ok (.verbatim bytes)
      | .ok layout =>
        let lines ← linesOf text layout
        return .ok (.lines lines)
    | _ => return .ok (.verbatim bytes)

def fillBytes (filler : Filler K) (bytes : List UInt8) : Checked (Except Failure Filled) :=
  fillItem filler 0 (some bytes)

/-- Fills items from number `number` on; the first failure ends the batch. -/
def fillItems (filler : Filler K) (number : Nat) :
    List (Option (List UInt8)) → Checked (Except Failure (List Filled))
  | [] => return .ok []
  | item :: items => do
    let next ← Word.add number 1
    match ← fillItem filler number item with
    | .error failure => return .error failure
    | .ok filled =>
      let later ← fillItems filler next items
      return later.map (filled :: ·)

/-- Fills the items of a batch, each on its own. -/
def fillBatch (filler : Filler K) (items : List (Option (List UInt8))) :
    Checked (Except Failure (List Filled)) :=
  fillItems filler 0 items

end LineFill.Checked
