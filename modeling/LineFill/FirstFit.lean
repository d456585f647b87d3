import LineFill.Chunk

/-!
First-fit filling: each chunk goes on the current line if its ink fits there, and starts a new line
otherwise.
-/
namespace LineFill

namespace FirstFit

/-- The points at which the lines of the remaining chunks end, when `last` is the last chunk placed
and `used` the width of the current line with its blanks. -/
def points (width used last : Nat) : List Chunk → List Nat
  | [] => []
  | chunk :: rest =>
    if width < used + chunk.inkWidth then last :: points width chunk.width (last + 1) rest
    else points width (used + chunk.width) (last + 1) rest

end FirstFit

/-- The chunks after which a line ends, in one pass. -/
def firstFit (width : Nat) : List Chunk → List Nat
  | [] => []
  | chunk :: rest => FirstFit.points width chunk.width 0 rest

end LineFill
