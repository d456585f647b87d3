import LineFill.Checked.Method
import LineFill.Proofs.LineEnds

/-!
Filling lines raises no fault for chunks whose widths add up to a word. The columns of least ragged
filling hold the totals and points of the best plans, so the points lead back to the first chunk.
-/
namespace LineFill

variable {K : Type} [Score K] {chunks : List Chunk} {width : Nat} {exponent : K}

namespace Checked

theorem FirstFit.points_eq {rest : List Chunk} (measured : Chunk.Measured rest) {used : Nat}
    (hwidth : used + Chunk.totalWidth rest < Word.limit) {last : Nat}
    (hlen : last + 1 + rest.length < Word.limit) :
    points width used (last + 1) rest = .ok (LineFill.FirstFit.points width used last rest) := by
  induction rest generalizing used last with
  | nil => rfl
  | cons chunk rest ih =>
    have hink := measured chunk List.mem_cons_self
    rw [Chunk.totalWidth_cons] at hwidth
    rw [List.length_cons] at hlen
    rw [points, LineFill.FirstFit.points, Word.add_eq_ok (by omega), ok_bind,
      Word.add_eq_ok (by omega), ok_bind]
    split
    · rw [Word.sub_eq_ok (by omega), ok_bind, ih measured.tail (by omega) (by omega)]
      rfl
    · rw [Word.add_eq_ok (by omega), ok_bind, ih measured.tail (by omega) (by omega)]

theorem firstFit_eq (measured : Chunk.Measured chunks)
    (hwidth : Chunk.totalWidth chunks < Word.limit) (hlen : chunks.length < Word.limit) :
    firstFit width chunks = .ok (LineFill.firstFit width chunks) := by
  cases chunks with
  | nil => rfl
  | cons chunk rest =>
    rw [List.length_cons, Nat.add_comm] at hlen
    exact FirstFit.points_eq measured.tail hwidth (by omega)

theorem penalty_eq (used width : Nat) (single : Bool) (exponent : K) :
    penalty used width single exponent = .ok (LineFill.penalty used width single exponent) := by
  unfold penalty LineFill.penalty
  split
  · rfl
  · rw [Word.sub_eq_ok (by omega)]
    rfl

namespace PenaltyTable

theorem widen_succ {first last : Nat} (h : first ≤ last) {chunk : Chunk}
    (hchunk : chunks[last]? = some chunk) (hink : chunk.inkWidth ≤ chunk.width) {used : Nat}
    (hwidth : used + (chunk.width - chunk.inkWidth) < Word.limit) :
    widen chunks first (last + 1) used = .ok (used + (chunk.width - chunk.inkWidth)) := by
  unfold widen
  rw [if_pos (by omega), Word.sub_eq_ok (by omega), ok_bind, Nat.add_sub_cancel, fetch_eq_ok hchunk,
    ok_bind, Word.sub_eq_ok hink, ok_bind, Word.add_eq_ok hwidth]

theorem row_eq (measured : Chunk.Measured chunks) {first last count : Nat} (hf : first ≤ last)
    (hlen : last + count = chunks.length) {used before : Nat}
    (hbefore : widen chunks first last used = .ok before)
    (hwidth : before + Chunk.totalWidth (chunks.drop last) < Word.limit) :
    row chunks width exponent first used (List.range' last count) =
      .ok (PenaltyTable.growing width exponent before (first = last) (chunks.drop last)) := by
  induction count generalizing last used before with
  | zero =>
    rw [List.drop_of_length_le (by omega)]
    rfl
  | succ count ih =>
    have hlt : last < chunks.length := by omega
    have hget : chunks[last]? = some chunks[last] := List.getElem?_eq_getElem hlt
    have hink := measured chunks[last] (List.getElem_mem hlt)
    have hsingle : decide (first = last + 1) = false := decide_eq_false (by omega)
    rw [List.drop_eq_getElem_cons hlt, Chunk.totalWidth_cons] at hwidth
    have hwiden : widen chunks first (last + 1) (before + chunks[last].inkWidth) =
        .ok (before + chunks[last].inkWidth + (chunks[last].width - chunks[last].inkWidth)) :=
      widen_succ hf hget hink (by omega)
    have hrest := ih (by omega) (by omega) hwiden (by omega)
    rw [List.range'_succ, row, hbefore, ok_bind, fetch_eq_ok hget, ok_bind,
      Word.add_eq_ok (by omega), ok_bind, penalty_eq, ok_bind, List.drop_eq_getElem_cons hlt,
      PenaltyTable.growing]
    cases hp : LineFill.penalty (before + chunks[last].inkWidth) width (first = last) exponent with
    | none => rfl
    | some p =>
      dsimp only
      rw [hrest, hsingle]
      rfl

theorem build_eq (measured : Chunk.Measured chunks) (hwidth : Chunk.totalWidth chunks < Word.limit) :
    build chunks width exponent = .ok (LineFill.PenaltyTable.build chunks width exponent).rows := by
  have hrow : ∀ first ∈ List.range chunks.length,
      row chunks width exponent first 0 (List.range' first (chunks.length - first)) =
        .ok (PenaltyTable.growing width exponent 0 true (chunks.drop first)) := by
    intro first hfirst
    have hlt := List.mem_range.mp hfirst
    have hwiden : widen chunks first first 0 = .ok 0 := if_neg (Nat.lt_irrefl first)
    have htotal := congrArg Chunk.totalWidth (List.take_append_drop first chunks)
    rw [Chunk.totalWidth_append] at htotal
    have hlen : first + (chunks.length - first) = chunks.length := by omega
    rw [row_eq measured (Nat.le_refl first) hlen hwiden (by omega), decide_eq_true rfl]
  unfold build
  rw [mapM_eq_ok hrow, ← PenaltyTable.rowsOf_eq_map]
  rfl

theorem get?_eq {K : Type} (rows : List (List K)) (first last : Nat) :
    get? rows first last = .ok ((⟨rows⟩ : LineFill.PenaltyTable K).get? first last) := by
  unfold get? LineFill.PenaltyTable.get?
  by_cases h : first ≤ last
  · rw [if_neg (by omega), if_pos h, Word.sub_eq_ok h]
    rfl
  · rw [if_pos (by omega), if_neg h]
    rfl

end PenaltyTable

namespace LeastRagged

/-- What is kept of a plan. -/
def choiceOf (plan : Plan K) : Choice K := ⟨plan.total, plan.ends.tail.head?⟩

theorem better?_choiceOf (plans : List (Plan K)) (next : Plan K) :
    better? ((Plan.best? plans).map choiceOf) (choiceOf next) =
      (Plan.best? (plans ++ [next])).map choiceOf := by
  rw [Plan.map_best?_concat]
  cases Plan.best? plans with
  | none => rfl
  | some plan => rfl

/-- The choice for the chunks up to `last` is that of the best of the plans that end there, when the
totals before `last` are those of the best plans. -/
theorem choose_eq (measured : Chunk.Measured chunks) {last : Nat} (hl : last < chunks.length)
    {totals : List K}
    (htotals : ∀ i < last, totals[i]? = some (Plan.best chunks width exponent (i + 1)).total)
    (plans : List (Plan K)) {starts : List Nat} (hstarts : ∀ first ∈ starts, first ≤ last) :
    choose (LineFill.PenaltyTable.build chunks width exponent).rows totals last
        ((Plan.best? plans).map choiceOf) starts =
      .ok ((Plan.best? (plans ++ starts.filterMap fun first =>
        (linePenalty chunks width exponent first last).map
          ((Plan.best chunks width exponent first).addLine last))).map choiceOf) := by
  induction starts generalizing plans with
  | nil =>
    rw [List.filterMap_nil, List.append_nil]
    rfl
  | cons first starts ih =>
    have hf := hstarts first List.mem_cons_self
    have hlater : ∀ later ∈ starts, later ≤ last := by
      intro later hlater
      exact hstarts later (List.mem_cons_of_mem first hlater)
    have hentry := LineFill.PenaltyTable.get?_build measured width exponent hf hl
    have hget :
        PenaltyTable.get? (LineFill.PenaltyTable.build chunks width exponent).rows first last =
          .ok (linePenalty chunks width exponent first last) := by
      rw [← hentry]
      exact PenaltyTable.get?_eq _ first last
    rw [choose, hget, ok_bind, List.filterMap_cons]
    cases hp : linePenalty chunks width exponent first last with
    | none => exact ih plans hlater
    | some p =>
      have hnext := ih (plans ++ [(Plan.best chunks width exponent first).addLine last p]) hlater
      rw [← better?_choiceOf, List.append_assoc] at hnext
      rw [Option.map_some]
      refine Eq.trans ?_ hnext
      cases first with
      | zero =>
        rw [Plan.best_zero]
        rfl
      | succ first =>
        have hpoint := Plan.head?_ends_best chunks width exponent first
        dsimp only
        rw [fetch_eq_ok (htotals first hf), ok_bind]
        unfold choiceOf Plan.addLine
        rw [List.tail_cons, hpoint]

/-- The first `count` entries of the columns are those of the best plans. -/
structure Columns.Holds (columns : Columns K) (chunks : List Chunk) (width : Nat) (exponent : K)
    (count : Nat) : Prop where
  length_totals : columns.totals.length = chunks.length
  length_points : columns.points.length = chunks.length
  totals : ∀ i < count, columns.totals[i]? = some (Plan.best chunks width exponent (i + 1)).total
  points : ∀ i < count,
    columns.points[i]? = some (Plan.best chunks width exponent (i + 1)).ends.tail.head?

theorem Columns.holds_empty (chunks : List Chunk) (width : Nat) (exponent : K) :
    Columns.Holds
      ⟨List.replicate chunks.length Score.infinity, List.replicate chunks.length none⟩
      chunks width exponent 0 := by
  constructor
  · exact List.length_replicate
  · exact List.length_replicate
  · intro i hi
    cases hi
  · intro i hi
    cases hi

theorem getElem?_set_of_forall {α : Type} {items : List α} {f : Nat → α} {last : Nat}
    (hl : last < items.length) (h : ∀ i < last, items[i]? = some (f i)) :
    ∀ i < last + 1, (items.set last (f last))[i]? = some (f i) := by
  intro i hi
  rcases Nat.lt_succ_iff_lt_or_eq.mp hi with hlt | rfl
  · rw [List.getElem?_set_ne (by omega)]
    exact h i hlt
  · exact List.getElem?_set_self hl

theorem Columns.Holds.set {columns : Columns K} {last : Nat}
    (h : columns.Holds chunks width exponent last) (hl : last < chunks.length) :
    Columns.Holds
      ⟨columns.totals.set last (Plan.best chunks width exponent (last + 1)).total,
        columns.points.set last (Plan.best chunks width exponent (last + 1)).ends.tail.head?⟩
      chunks width exponent (last + 1) := by
  constructor
  · rw [List.length_set, h.length_totals]
  · rw [List.length_set, h.length_points]
  · exact getElem?_set_of_forall (by rwa [h.length_totals]) h.totals
  · exact getElem?_set_of_forall (by rwa [h.length_points]) h.points

theorem fillColumns_holds (measured : Chunk.Measured chunks) {columns : Columns K} {last count : Nat}
    (h : columns.Holds chunks width exponent last) (hlen : last + count = chunks.length) :
    ∃ filled, fillColumns (LineFill.PenaltyTable.build chunks width exponent).rows columns
        (List.range' last count) = .ok filled ∧
      filled.Holds chunks width exponent chunks.length := by
  induction count generalizing columns last with
  | zero =>
    obtain rfl : last = chunks.length := by omega
    exact ⟨columns, rfl, h⟩
  | succ count ih =>
    have hl : last < chunks.length := by omega
    have hstarts : ∀ first ∈ List.range (last + 1), first ≤ last := by
      intro first hfirst
      exact Nat.lt_succ_iff.mp (List.mem_range.mp hfirst)
    have hbest := Plan.best?_candidates chunks width exponent last
    unfold Plan.candidates at hbest
    have hchoose : choose (LineFill.PenaltyTable.build chunks width exponent).rows columns.totals last
        none (List.range (last + 1)) =
          .ok (some (choiceOf (Plan.best chunks width exponent (last + 1)))) := by
      have h := choose_eq measured hl h.totals [] hstarts
      rw [List.nil_append, hbest] at h
      exact h
    obtain ⟨filled, hfill, hholds⟩ := ih (h.set hl) (by omega)
    refine ⟨filled, ?_, hholds⟩
    rw [List.range'_succ, fillColumns, hchoose, ok_bind]
    dsimp only
    rw [store_eq_ok (by rw [h.length_totals]; exact hl), ok_bind,
      store_eq_ok (by rw [h.length_points]; exact hl), ok_bind]
    exact hfill

/-- The points lead back along the best plan. -/
theorem back_eq {columns : Columns K} (h : columns.Holds chunks width exponent chunks.length)
    {stop steps : Nat} (hstop : stop ≤ chunks.length) (hsteps : stop ≤ steps) :
    back columns.points steps (Plan.best chunks width exponent stop).ends.head? =
      .ok (Plan.best chunks width exponent stop).ends := by
  induction stop using Nat.strongRecOn generalizing steps with
  | ind stop ih =>
    cases stop with
    | zero =>
      rw [Plan.best_zero]
      cases steps <;> rfl
    | succ last =>
      obtain ⟨first, hf, p, -, hbest⟩ := Plan.exists_best_succ chunks width exponent last
      obtain ⟨steps, rfl⟩ : ∃ steps', steps = steps' + 1 := ⟨steps - 1, by omega⟩
      have hpoint := h.points last (by omega)
      rw [hbest] at hpoint ⊢
      unfold Plan.addLine at hpoint ⊢
      rw [List.tail_cons] at hpoint
      rw [List.head?_cons, back, fetch_eq_ok hpoint, ok_bind,
        ih first (by omega) (by omega) (by omega)]
      rfl

end LeastRagged

theorem leastRagged_eq (measured : Chunk.Measured chunks)
    (hwidth : Chunk.totalWidth chunks < Word.limit) :
    leastRagged chunks width exponent =
      .ok (LineFill.leastRagged chunks width exponent,
        (leastRaggedPlan chunks width exponent).total) := by
  unfold leastRagged LineFill.leastRagged
  cases hlen : chunks.length with
  | zero =>
    obtain rfl := List.length_eq_zero_iff.mp hlen
    rfl
  | succ last =>
    have hempty : chunks.isEmpty = false := by
      rw [List.isEmpty_eq_false_iff]
      rintro rfl
      cases hlen
    obtain ⟨columns, hfill, hholds⟩ := LeastRagged.fillColumns_holds measured
      (LeastRagged.Columns.holds_empty chunks width exponent) (Nat.zero_add _)
    -- the last line of the best plan starts with chunk `first`, so the points lead on from there
    obtain ⟨first, hf, p, -, hbest⟩ := Plan.exists_best_succ chunks width exponent last
    have hplan :
        leastRaggedPlan chunks width exponent = Plan.best chunks width exponent (last + 1) := by
      rw [leastRaggedPlan_eq_best measured, hlen]
    have hpoint := hholds.points last (by omega)
    have htotal := hholds.totals last (by omega)
    rw [hbest] at hpoint
    unfold Plan.addLine at hpoint
    rw [List.tail_cons] at hpoint
    have hback : LeastRagged.back columns.points (last + 1)
        (Plan.best chunks width exponent first).ends.head? =
          .ok (Plan.best chunks width exponent first).ends :=
      LeastRagged.back_eq hholds (by omega) (by omega)
    rw [hempty, if_neg Bool.false_ne_true, PenaltyTable.build_eq measured hwidth, ok_bind,
      List.range_eq_range', ← hlen, hfill, ok_bind, hlen, Word.sub_eq_ok (by omega), ok_bind,
      Nat.add_sub_cancel, fetch_eq_ok hpoint, ok_bind, hback, ok_bind, fetch_eq_ok htotal, ok_bind,
      hplan, Plan.points, hbest]
    rfl

theorem solve_eq (measured : Chunk.Measured chunks) (hwidth : Chunk.totalWidth chunks < Word.limit)
    (hlen : chunks.length < Word.limit) (method : Method K) :
    solve chunks width method = .ok (method.solve chunks width) := by
  cases method with
  | firstFit =>
    rw [solve, firstFit_eq measured hwidth hlen]
    rfl
  | leastRagged exponent =>
    rw [solve, leastRagged_eq measured hwidth]
    rfl

end Checked

end LineFill
