import Mathlib.Data.List.Basic
import LineFill.LeastRagged
import LineFill.Proofs.LineWidth

/-!
The recurrence behind least ragged filling. The best plan for the chunks before `stop` is the first
cheapest of those that put one line after the best plan for fewer chunks. The fill, which keeps the
lines that may still grow instead of looking back, ends with this plan.
-/
namespace LineFill

theorem range_eq_map_finRange (count : Nat) :
    List.range count = (List.finRange count).map Fin.val := by
  apply List.ext_getElem <;> simp

variable {K : Type}

theorem OpenLine.filter_map_grow_filter (lines : List (OpenLine K)) :
    ((lines.filter canEnd).map grow).filter canEnd =
      (lines.map grow).filter canEnd := by
  rw [List.filter_map, List.filter_map, List.filter_filter]
  congr 1
  apply List.filter_congr
  intro line _
  -- a line with no penalties left has none after it has grown
  cases h : line.penalties <;> simp [canEnd, grow, h]

variable [Score K]

namespace Plan

/-- The plan with one more line, which ends with chunk `last`. -/
def addLine (plan : Plan K) (last : Nat) (penalty : K) : Plan K :=
  ⟨Score.add plan.total penalty, last :: plan.ends⟩

/-- The best plan for the chunks before a number. -/
def best (chunks : List Chunk) (width : Nat) (exponent : K) : Nat → Plan K
  | 0 => empty
  | last + 1 =>
    let candidates := (List.finRange (last + 1)).filterMap fun first : Fin (last + 1) =>
      (linePenalty chunks width exponent first last).map
        ((best chunks width exponent first).addLine last)
    (best? candidates).getD ⟨Score.infinity, [last]⟩
termination_by stop => stop
decreasing_by exact first.isLt

/-- The plans whose last line ends with chunk `last`, by the start of that line. -/
def candidates (chunks : List Chunk) (width : Nat) (exponent : K) (last : Nat) : List (Plan K) :=
  (List.range (last + 1)).filterMap fun first =>
    (linePenalty chunks width exponent first last).map
      ((best chunks width exponent first).addLine last)

@[simp] theorem best_zero (chunks : List Chunk) (width : Nat) (exponent : K) :
    best chunks width exponent 0 = empty := by
  rw [best]

theorem best_succ (chunks : List Chunk) (width : Nat) (exponent : K) (last : Nat) :
    best chunks width exponent (last + 1) =
      (best? (candidates chunks width exponent last)).getD ⟨Score.infinity, [last]⟩ := by
  rw [best, candidates, range_eq_map_finRange, List.filterMap_map]
  rfl

end Plan

namespace LeastRagged

theorem close?_eq_none {line : OpenLine K} (h : ¬ line.canEnd) (index : Nat) :
    line.close? index = none := by
  have hnil : line.penalties = [] := by simpa [OpenLine.canEnd] using h
  simp [OpenLine.close?, hnil]

/-- Lines that cannot end make no plan, so none is lost with them. -/
theorem filterMap_close?_filter (index : Nat) (lines : List (OpenLine K)) :
    (lines.filter OpenLine.canEnd).filterMap (·.close? index) =
      lines.filterMap (·.close? index) := by
  rw [List.filterMap_filter]
  apply List.filterMap_congr
  intro line _
  split
  · rfl
  · exact (close?_eq_none ‹_› index).symm

variable (chunks : List Chunk) (width : Nat) (exponent : K)

/-- The line from chunk `first` on when the chunks before `index` have been taken. -/
def lineFrom (index first : Nat) : OpenLine K :=
  ⟨Plan.best chunks width exponent first,
    ((PenaltyTable.build chunks width exponent).rows[first]?.getD []).drop (index - first)⟩

theorem grow_lineFrom {index first : Nat} (h : first ≤ index) :
    (lineFrom chunks width exponent index first).grow =
      lineFrom chunks width exponent (index + 1) first := by
  simp [lineFrom, OpenLine.grow, Nat.sub_add_comm h]

theorem close?_lineFrom (measured : Chunk.Measured chunks) {index first : Nat} (h : first ≤ index)
    (hi : index < chunks.length) :
    (lineFrom chunks width exponent index first).close? index =
      (linePenalty chunks width exponent first index).map
        ((Plan.best chunks width exponent first).addLine index) := by
  rw [← PenaltyTable.get?_build measured width exponent h hi]
  cases hrow : (PenaltyTable.build chunks width exponent).rows[first]? with
  | none => simp [lineFrom, OpenLine.close?, PenaltyTable.get?, h, hrow]
  | some row =>
    simp only [lineFrom, OpenLine.close?, PenaltyTable.get?, h, hrow, Option.getD_some,
      List.head?_drop, if_true, bind, Option.bind_some]
    rfl

/-- The lines that may still grow when the chunks before `index` have been taken. -/
def linesAt (index : Nat) : List (OpenLine K) :=
  ((List.range index).map (lineFrom chunks width exponent index)).filter OpenLine.canEnd

theorem close?_linesAt (measured : Chunk.Measured chunks) {index : Nat}
    (hi : index < chunks.length) :
    (linesAt chunks width exponent index ++ [lineFrom chunks width exponent index index]).filterMap
      (·.close? index) = Plan.candidates chunks width exponent index := by
  rw [List.filterMap_append, linesAt, filterMap_close?_filter, ← List.filterMap_append,
    ← List.map_singleton, ← List.map_append, ← List.range_succ, List.filterMap_map,
    Plan.candidates]
  apply List.filterMap_congr
  intro first hfirst
  have hle : first ≤ index := Nat.lt_succ_iff.mp (List.mem_range.mp hfirst)
  exact close?_lineFrom chunks width exponent measured hle hi

theorem grow_linesAt (index : Nat) :
    ((linesAt chunks width exponent index ++ [lineFrom chunks width exponent index index]).map
      OpenLine.grow).filter OpenLine.canEnd = linesAt chunks width exponent (index + 1) := by
  rw [List.map_append, List.filter_append, linesAt, OpenLine.filter_map_grow_filter, ← List.filter_append,
    ← List.map_append, ← List.map_singleton, ← List.map_append, ← List.range_succ, linesAt,
    List.map_map]
  congr 1
  apply List.map_congr_left
  intro first hfirst
  exact grow_lineFrom chunks width exponent (Nat.lt_succ_iff.mp (List.mem_range.mp hfirst))

/-- From every chunk on, with the best plan for the chunks before it, the fill ends with the best
plan for all chunks. -/
theorem extend_eq_best (measured : Chunk.Measured chunks) (index : Nat) (rows : List (List K))
    (hrows : (PenaltyTable.build chunks width exponent).rows.drop index = rows)
    (hi : index + rows.length = chunks.length) :
    extend index (Plan.best chunks width exponent index) (linesAt chunks width exponent index)
      rows = Plan.best chunks width exponent chunks.length := by
  induction rows generalizing index with
  | nil =>
    have : index = chunks.length := by simpa using hi
    rw [extend, this]
  | cons row rows ih =>
    have hlt : index < chunks.length := by rw [List.length_cons] at hi; omega
    have hrow : (PenaltyTable.build chunks width exponent).rows[index]? = some row := by
      rw [← List.head?_drop, hrows, List.head?_cons]
    have hline : (⟨Plan.best chunks width exponent index, row⟩ : OpenLine K) =
        lineFrom chunks width exponent index index := by
      simp [lineFrom, hrow]
    have hrest : (PenaltyTable.build chunks width exponent).rows.drop (index + 1) = rows := by
      rw [← List.tail_drop, hrows, List.tail_cons]
    rw [extend, hline, close?_linesAt chunks width exponent measured hlt, grow_linesAt,
      ← Plan.best_succ]
    apply ih (index + 1) hrest
    rw [List.length_cons] at hi
    omega

end LeastRagged

theorem leastRaggedPlan_eq_best {chunks : List Chunk} (measured : Chunk.Measured chunks)
    (width : Nat) (exponent : K) :
    leastRaggedPlan chunks width exponent = Plan.best chunks width exponent chunks.length := by
  have h := LeastRagged.extend_eq_best chunks width exponent measured 0
    (PenaltyTable.build chunks width exponent).rows List.drop_zero (by simp [PenaltyTable.build])
  simpa [leastRaggedPlan, LeastRagged.linesAt] using h

end LineFill
