import LineFill.Score

/-!
Judging any list of points, whatever produced it: the penalty of each line that the points make of
the chunks, and their sum. A list that is not strictly increasing or runs past the chunks has a
line that cannot be set.
-/
namespace LineFill

variable {K : Type} [Score K]

/-- Penalties of the lines that end at the given points, from chunk `first` on. The first point
that ends no line has no penalty, and nothing follows it. -/
def penaltiesFrom (chunks : List Chunk) (width : Nat) (exponent : K) (first : Nat) :
    List Nat → List (Option K)
  | [] => []
  | last :: points =>
    if first ≤ last ∧ last < chunks.length then
      linePenalty chunks width exponent first last ::
        penaltiesFrom chunks width exponent (last + 1) points
    else [none]

/-- The penalties of the lines that the points make of the chunks. -/
def penalties (chunks : List Chunk) (points : List Nat) (width : Nat) (exponent : K) :
    List (Option K) :=
  if chunks.isEmpty then []
  else penaltiesFrom chunks width exponent 0 (points ++ [chunks.length - 1])

/-- The sum of penalties, where a line that cannot be set counts as infinity. -/
def totalPenalty (penalties : List (Option K)) : K :=
  Score.sum (penalties.map (·.getD Score.infinity))

end LineFill
