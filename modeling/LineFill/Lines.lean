import LineFill.Chunk

/-!
Cutting the lines out of a text: a line runs from the start of its first chunk to the end of the
ink of its last one.
-/
namespace LineFill

/-- The starts and ends of the lines that end with the given chunks, the first from `start` on. A
line never ends before it starts. -/
def lineSpans (chunks : List Chunk) (start : Nat) : List Nat → List (Nat × Nat)
  | [] => []
  | last :: points =>
    match chunks[last]? with
    | none => []
    | some chunk =>
      let next := (chunks[last + 1]?.map Chunk.start).getD start
      (start, max chunk.inkStop start) :: lineSpans chunks next points

/-- Where the lines of the chunks start and end, given the chunks that end all lines but the last. -/
def spans (chunks : List Chunk) (points : List Nat) : List (Nat × Nat) :=
  match chunks with
  | [] => []
  | first :: _ => lineSpans chunks first.start (points ++ [chunks.length - 1])

/-- The lines of a text. A text without chunks is a line of its own. -/
def cutLines (text : Text) (chunks : List Chunk) (points : List Nat) : List Text :=
  if chunks.isEmpty then [text]
  else (spans chunks points).map fun (start, stop) => text.slice start stop

/-- Whether the points end lines before the last one and every line is a part of the text. -/
def canCut (text : Text) (chunks : List Chunk) (points : List Nat) : Bool :=
  points.all (· + 1 < chunks.length) &&
    (spans chunks points).all fun (start, stop) => text.hasSlice start stop

/-- The lines of a text for chunks and points from any source. -/
def cutLines? (text : Text) (chunks : List Chunk) (points : List Nat) : Option (List Text) :=
  if chunks.isEmpty || canCut text chunks points then some (cutLines text chunks points) else none

end LineFill
