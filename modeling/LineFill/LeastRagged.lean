import LineFill.PenaltyTable

/-!
Least ragged filling: of all ways to set the chunks in lines, one whose penalties have the smallest
sum. The chunks are taken one by one; each keeps the best plan for the lines up to it, found among
the lines that can end there. Of plans with equal sums the one whose last line starts first is
kept, and some plan is always kept, however large the sums become.
-/
namespace LineFill

variable {K : Type} [Score K]

/-- A way to set the first chunks in lines: the sum of the penalties and where the lines end, the
latest first. -/
structure Plan (K : Type) where
  total : K
  ends : List Nat

/-- A line that may still grow: the plan for the chunks before it and the penalties of the line
that ends with the next chunk, with the one after it, and so on. -/
structure OpenLine (K : Type) where
  before : Plan K
  penalties : List K

namespace Plan

def empty : Plan K := ⟨Score.zero, []⟩

def better (best next : Plan K) : Plan K := if Score.less next.total best.total then next else best

/-- The first of the plans with the smallest total. -/
def best? : List (Plan K) → Option (Plan K)
  | [] => none
  | plan :: plans => some (plans.foldl better plan)

/-- The ends of all lines but the last, in order. -/
def points (plan : Plan K) : List Nat := plan.ends.tail.reverse

end Plan

namespace OpenLine

/-- The plan in which the line ends with the next chunk, which has the number `index`. -/
def close? (index : Nat) (line : OpenLine K) : Option (Plan K) :=
  line.penalties.head?.map fun p => ⟨Score.add line.before.total p, index :: line.before.ends⟩

def grow (line : OpenLine K) : OpenLine K := ⟨line.before, line.penalties.tail⟩

def canEnd (line : OpenLine K) : Bool := !line.penalties.isEmpty

end OpenLine

namespace LeastRagged

/-- The plan for all chunks, given the rows of their penalties from number `index` on, the plan for
the chunks before it, and the open lines that start before it, in order. -/
def extend (index : Nat) (before : Plan K) (lines : List (OpenLine K)) : List (List K) → Plan K
  | [] => before
  | row :: rows =>
    let candidates := lines ++ [⟨before, row⟩]
    let best := (Plan.best? (candidates.filterMap (·.close? index))).getD ⟨Score.infinity, [index]⟩
    extend (index + 1) best ((candidates.map OpenLine.grow).filter OpenLine.canEnd) rows

end LeastRagged

/-- The best plan for the chunks. -/
def leastRaggedPlan (chunks : List Chunk) (width : Nat) (exponent : K) : Plan K :=
  LeastRagged.extend 0 Plan.empty [] (PenaltyTable.build chunks width exponent).rows

/-- The chunks after which a line ends in the best plan. -/
def leastRagged (chunks : List Chunk) (width : Nat) (exponent : K) : List Nat :=
  (leastRaggedPlan chunks width exponent).points

end LineFill
