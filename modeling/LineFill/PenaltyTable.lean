import LineFill.Score

/-!
The table of the penalties of all lines that can be set. A row ends at its first line that is too
wide, since every longer line is too wide as well.
-/
namespace LineFill

variable {K : Type} [Score K]

/-- Row `i` holds the penalties of the lines from chunk `i` on, the shortest first. -/
structure PenaltyTable (K : Type) where
  rows : List (List K)

namespace PenaltyTable

/-- Penalties of a line as the chunks are added to it one by one. `used` is the width of the line
so far with its blanks, and `single` says that it is still empty. -/
def growing (width : Nat) (exponent : K) (used : Nat) (single : Bool) : List Chunk → List K
  | [] => []
  | chunk :: rest =>
    let inked := used + chunk.inkWidth
    match penalty inked width single exponent with
    | some p => p :: growing width exponent (inked + (chunk.width - chunk.inkWidth)) false rest
    | none => []

def rowsOf (width : Nat) (exponent : K) : List Chunk → List (List K)
  | [] => []
  | chunk :: rest => growing width exponent 0 true (chunk :: rest) :: rowsOf width exponent rest

def build (chunks : List Chunk) (width : Nat) (exponent : K) : PenaltyTable K :=
  ⟨rowsOf width exponent chunks⟩

def size (table : PenaltyTable K) : Nat := table.rows.length

/-- The penalty of the line from chunk `first` to chunk `last`, if it can be set. -/
def get? (table : PenaltyTable K) (first last : Nat) : Option K :=
  if first ≤ last then table.rows[first]? >>= (·[last - first]?) else none

end PenaltyTable

end LineFill
