import LineFill.Chunk

/-!
Penalties of lines: the unused width of a line, raised to an exponent. A line that holds one chunk
alone is never too wide, since nothing can be moved off it. Scores are numbers of any kind that can
be added, compared and raised to a power; programs use `Float`.
-/
namespace LineFill

/-- The arithmetic of scores. `sumStart` is the number that sums of penalties start from. -/
class Score (K : Type) where
  ofNat : Nat → K
  add : K → K → K
  less : K → K → Bool
  pow : K → K → K
  infinity : K
  sumStart : K

/-- Sums of floats start from negative zero, which is neutral for both zeros. -/
instance : Score Float := ⟨Float.ofNat, Float.add, Float.lt, Float.pow, 1 / 0, -0.0⟩

variable {K : Type} [Score K]

namespace Score

def zero : K := ofNat 0

/-- The sum from left to right. -/
def sum (scores : List K) : K := scores.foldl add sumStart

end Score

/-- The penalty of a line of width `used`, or none if the line is too wide. `single` says that it
holds one chunk. -/
def penalty (used width : Nat) (single : Bool) (exponent : K) : Option K :=
  if width < used then
    if single then some Score.zero else none
  else some (Score.pow (Score.ofNat (width - used)) exponent)

/-- The penalty of the line that holds the chunks `first` to `last`. -/
def linePenalty (chunks : List Chunk) (width : Nat) (exponent : K) (first last : Nat) : Option K :=
  penalty (Chunk.lineWidth chunks first last) width (first = last) exponent

end LineFill
