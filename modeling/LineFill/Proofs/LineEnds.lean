import LineFill.Method
import LineFill.Penalties
import LineFill.Proofs.BestPlan

/-!
Ends of lines that can be set. Both methods end their lines one after the other, leave out no
chunk, and put two chunks on one line only if it is not too wide; nothing is asked of the scores.
-/
namespace LineFill

/-- A line fits unless it holds more than one chunk and is too wide. -/
def Fits (chunks : List Chunk) (width first last : Nat) : Prop :=
  first = last ∨ Chunk.lineWidth chunks first last ≤ width

/-- The lines that end with the given chunks hold the chunks from `first` up to `stop`, in order,
and each of them fits. -/
inductive Sets (chunks : List Chunk) (width : Nat) : Nat → List Nat → Nat → Prop
  | done (first : Nat) : Sets chunks width first [] first
  | line {first last stop : Nat} {ends : List Nat} (hf : first ≤ last) (hl : last < chunks.length)
      (fits : Fits chunks width first last) (rest : Sets chunks width (last + 1) ends stop) :
      Sets chunks width first (last :: ends) stop

namespace Sets

variable {chunks : List Chunk} {width first mid stop last : Nat} {ends more : List Nat}

theorem of_cons (h : Sets chunks width first (last :: ends) stop) :
    first ≤ last ∧ last < chunks.length ∧ Fits chunks width first last ∧
      Sets chunks width (last + 1) ends stop := by
  cases h with
  | line hf hl fits rest => exact ⟨hf, hl, fits, rest⟩

theorem append (h : Sets chunks width first ends mid) (hm : Sets chunks width mid more stop) :
    Sets chunks width first (ends ++ more) stop := by
  induction h with
  | done first => exact hm
  | line hf hl fits rest ih => exact line hf hl fits (ih hm)

theorem concat (h : Sets chunks width first ends mid) (hm : mid ≤ last) (hl : last < chunks.length)
    (fits : Fits chunks width mid last) : Sets chunks width first (ends ++ [last]) (last + 1) :=
  h.append (line hm hl fits (done (last + 1)))

theorem lt_length_of_mem (h : Sets chunks width first ends stop) {point : Nat}
    (hpoint : point ∈ ends) : point < chunks.length := by
  induction h with
  | done first => cases hpoint
  | line hf hl fits rest ih =>
    rcases List.mem_cons.mp hpoint with rfl | hlater
    · exact hl
    · exact ih hlater

theorem le_of_mem (h : Sets chunks width first ends stop) {point : Nat} (hpoint : point ∈ ends) :
    first ≤ point := by
  induction h with
  | done first => cases hpoint
  | line hf hl fits rest ih =>
    rcases List.mem_cons.mp hpoint with rfl | hlater
    · exact hf
    · have hle := ih hlater
      omega

theorem pairwise (h : Sets chunks width first ends stop) : ends.Pairwise (· < ·) := by
  induction h with
  | done first => exact List.Pairwise.nil
  | line hf hl fits rest ih => exact List.Pairwise.cons (fun _ hlater => rest.le_of_mem hlater) ih

/-- Every line ends before the last one does. -/
theorem lt_of_mem_append (h : Sets chunks width first (ends ++ [last]) stop) {point : Nat}
    (hpoint : point ∈ ends) : point < last :=
  (List.pairwise_append.mp h.pairwise).2.2 point hpoint last (List.mem_singleton_self last)

/-- Every line takes a chunk. -/
theorem length_le (h : Sets chunks width first ends stop) : first + ends.length ≤ stop := by
  induction h with
  | done first => exact Nat.le_refl first
  | line hf hl fits rest ih =>
    rw [List.length_cons]
    omega

end Sets

section FirstFit

variable {chunks : List Chunk} {width : Nat}

/-- The points that first fit still makes when the current line holds the chunks `first` to `last`.
The line takes the next chunk exactly if it is not too wide with it. -/
inductive FirstFit.Run (chunks : List Chunk) (width : Nat) : Nat → Nat → List Nat → Prop
  | done {first last : Nat} (hend : chunks.length = last + 1) : Run chunks width first last []
  | next {first last : Nat} {points : List Nat} (hlt : last + 1 < chunks.length)
      (wide : width < Chunk.lineWidth chunks first (last + 1))
      (rest : Run chunks width (last + 1) (last + 1) points) :
      Run chunks width first last (last :: points)
  | stay {first last : Nat} {points : List Nat} (hlt : last + 1 < chunks.length)
      (fits : Chunk.lineWidth chunks first (last + 1) ≤ width)
      (rest : Run chunks width first (last + 1) points) : Run chunks width first last points

/-- The fill is such a run, as the width it sums up is that of the current line with its blanks. -/
theorem FirstFit.run_points {first last : Nat} (hf : first ≤ last) (hl : last < chunks.length)
    (rest : List Chunk) (hrest : chunks.drop (last + 1) = rest) :
    Run chunks width first last
      (points width (Chunk.fullWidth chunks first (last + 1)) last rest) := by
  induction rest generalizing first last with
  | nil =>
    have hend := List.drop_eq_nil_iff.mp hrest
    exact Run.done (by omega)
  | cons chunk rest ih =>
    have hget : chunks[last + 1]? = some chunk := by
      rw [← List.head?_drop, hrest, List.head?_cons]
    obtain ⟨hlt, hchunk⟩ := List.getElem?_eq_some_iff.mp hget
    have hdrop : chunks.drop (last + 1 + 1) = rest := by
      rw [← List.tail_drop, hrest, List.tail_cons]
    have hline : Chunk.lineWidth chunks first (last + 1) = _ := Chunk.lineWidth_eq_add hlt
    rw [hchunk] at hline
    rw [points]
    split
    · -- the line ends here and the chunk starts the next one
      have hwidth := Chunk.fullWidth_succ (Nat.le_refl (last + 1)) hlt
      rw [Chunk.fullWidth_self, Nat.zero_add, hchunk] at hwidth
      rw [← hwidth]
      exact Run.next hlt (by omega) (ih (Nat.le_refl _) hlt hdrop)
    · have hwidth := Chunk.fullWidth_succ (Nat.le_succ_of_le hf) hlt
      rw [hchunk] at hwidth
      rw [← hwidth]
      exact Run.stay hlt (by omega) (ih (Nat.le_succ_of_le hf) hlt hdrop)

theorem FirstFit.run_firstFit (hne : chunks ≠ []) :
    Run chunks width 0 0 (firstFit width chunks) := by
  cases chunks with
  | nil => exact absurd rfl hne
  | cons chunk rest =>
    have hwidth : Chunk.fullWidth (chunk :: rest) 0 1 = chunk.width := by simp [Chunk.fullWidth]
    rw [firstFit, ← hwidth]
    exact run_points (Nat.le_refl 0) (by simp) rest rfl

theorem FirstFit.Run.sets {first last : Nat} {points : List Nat}
    (h : Run chunks width first last points) (hf : first ≤ last)
    (fits : Fits chunks width first last) :
    Sets chunks width first (points ++ [chunks.length - 1]) chunks.length := by
  induction h with
  | @done first last hend =>
    have hlast : chunks.length - 1 = last := by omega
    rw [hlast, hend]
    exact (Sets.done first).concat hf (by omega) fits
  | next hlt wide rest ih =>
    exact Sets.line hf (by omega) fits (ih (Nat.le_refl _) (Or.inl rfl))
  | stay hlt hwidth rest ih => exact ih (Nat.le_succ_of_le hf) (Or.inr hwidth)

/-- Chunks stay on the line as long as it fits with all its blanks. -/
theorem FirstFit.points_append {width used last : Nat} {line : List Chunk} (h : Chunk.Measured line)
    (fits : used + Chunk.totalWidth line ≤ width) (rest : List Chunk) :
    points width used last (line ++ rest) =
      points width (used + Chunk.totalWidth line) (last + line.length) rest := by
  induction line generalizing used last with
  | nil => simp
  | cons c line ih =>
    have hc := h c List.mem_cons_self
    rw [Chunk.totalWidth_cons] at fits ⊢
    have hfits : ¬ width < used + c.inkWidth := by omega
    have hlast : last + 1 + line.length = last + (c :: line).length := by
      rw [List.length_cons]
      omega
    rw [List.cons_append, points, if_neg hfits, ih h.tail (by omega), hlast, Nat.add_assoc]

theorem sets_firstFit (hne : chunks ≠ []) :
    Sets chunks width 0 (firstFit width chunks ++ [chunks.length - 1]) chunks.length :=
  (FirstFit.run_firstFit hne).sets (Nat.le_refl 0) (Or.inl rfl)

end FirstFit

variable {K : Type} [Score K]

theorem isSome_linePenalty_iff {chunks : List Chunk} {width first last : Nat} {exponent : K} :
    (linePenalty chunks width exponent first last).isSome ↔ Fits chunks width first last := by
  rw [Option.isSome_iff_ne_none, Ne, linePenalty, penalty_eq_none_iff, Fits]
  simp [imp_iff_not_or, or_comm]

theorem penalties_of_ne_nil {chunks : List Chunk} (hne : chunks ≠ []) (points : List Nat) (width : Nat)
    (exponent : K) : penalties chunks points width exponent =
      penaltiesFrom chunks width exponent 0 (points ++ [chunks.length - 1]) := by
  have hempty : chunks.isEmpty = false := by simpa using hne
  unfold penalties
  rw [hempty, if_neg Bool.false_ne_true]

namespace Plan

variable {chunks : List Chunk} {width : Nat} {exponent : K}

theorem foldl_better_mem (plan : Plan K) (plans : List (Plan K)) :
    plans.foldl better plan ∈ plan :: plans := by
  induction plans generalizing plan with
  | nil => simp
  | cons next plans ih =>
    rw [List.foldl_cons]
    have h := ih (better plan next)
    rcases List.mem_cons.mp h with h | h
    · rw [h, better]
      split <;> simp
    · exact List.mem_cons_of_mem _ (List.mem_cons_of_mem _ h)

theorem mem_of_best? {plans : List (Plan K)} {plan : Plan K} (h : best? plans = some plan) :
    plan ∈ plans := by
  cases plans with
  | nil => simp [best?] at h
  | cons first plans =>
    obtain rfl := Option.some.inj h
    exact foldl_better_mem first plans

theorem mem_candidates {last : Nat} {plan : Plan K} :
    plan ∈ candidates chunks width exponent last ↔
      ∃ first ≤ last, ∃ p, linePenalty chunks width exponent first last = some p ∧
        plan = (best chunks width exponent first).addLine last p := by
  simp only [candidates, List.mem_filterMap, List.mem_range, Nat.lt_succ_iff,
    Option.map_eq_some_iff, @eq_comm _ plan]

/-- Some plan is always found, since a line of one chunk can be set. -/
theorem best?_candidates (chunks : List Chunk) (width : Nat) (exponent : K) (last : Nat) :
    best? (candidates chunks width exponent last) =
      some (best chunks width exponent (last + 1)) := by
  obtain ⟨p, hp⟩ := Option.isSome_iff_exists.mp
    (isSome_linePenalty_iff.mpr (Or.inl rfl : Fits chunks width last last) :
      (linePenalty chunks width exponent last last).isSome)
  have hmem : (best chunks width exponent last).addLine last p ∈
      candidates chunks width exponent last :=
    mem_candidates.mpr ⟨last, Nat.le_refl last, p, hp, rfl⟩
  cases hc : candidates chunks width exponent last with
  | nil => simp [hc] at hmem
  | cons plan plans => rw [best_succ, hc]; rfl

theorem exists_best_succ (chunks : List Chunk) (width : Nat) (exponent : K) (last : Nat) :
    ∃ first ≤ last, ∃ p, linePenalty chunks width exponent first last = some p ∧
      best chunks width exponent (last + 1) =
        (best chunks width exponent first).addLine last p :=
  mem_candidates.mp (mem_of_best? (best?_candidates chunks width exponent last))

/-- One more plan is compared with the best of those before it; `view` is what is kept of plans. -/
theorem map_best?_concat {α : Type} (view : Plan K → α) (plans : List (Plan K)) (next : Plan K) :
    (best? (plans ++ [next])).map view =
      match best? plans with
      | none => some (view next)
      | some plan =>
        if Score.less next.total plan.total then some (view next) else some (view plan) := by
  cases plans with
  | nil => rfl
  | cons plan plans =>
    rw [best?, List.cons_append, best?, List.foldl_append, List.foldl_cons, List.foldl_nil,
      Option.map_some, better, apply_ite view, apply_ite some]

theorem head?_ends_best (chunks : List Chunk) (width : Nat) (exponent : K) (last : Nat) :
    (best chunks width exponent (last + 1)).ends.head? = some last := by
  obtain ⟨first, -, p, -, hbest⟩ := exists_best_succ chunks width exponent last
  rw [hbest]
  rfl

/-- The lines of the best plan for the chunks before `stop` can be set. -/
theorem sets_best (chunks : List Chunk) (width : Nat) (exponent : K) {stop : Nat}
    (h : stop ≤ chunks.length) :
    Sets chunks width 0 (best chunks width exponent stop).ends.reverse stop := by
  induction stop using Nat.strongRecOn with
  | ind stop ih =>
    cases stop with
    | zero =>
      rw [best_zero]
      exact Sets.done 0
    | succ last =>
      obtain ⟨first, hf, p, hp, hbest⟩ := exists_best_succ chunks width exponent last
      rw [hbest, addLine, List.reverse_cons]
      have hfits := isSome_linePenalty_iff.mp (Option.isSome_of_eq_some hp)
      exact (ih first (by omega) (by omega)).concat hf (by omega) hfits

theorem points_best_append {last : Nat} :
    (best chunks width exponent (last + 1)).points ++ [last] =
      (best chunks width exponent (last + 1)).ends.reverse := by
  obtain ⟨first, -, p, -, hbest⟩ := exists_best_succ chunks width exponent last
  simp [hbest, addLine, points]

end Plan

/-- The points and the last chunk are the ends of the lines of the best plan. -/
theorem leastRagged_append_last {chunks : List Chunk} (measured : Chunk.Measured chunks)
    (hne : chunks ≠ []) (width : Nat) (exponent : K) :
    leastRagged chunks width exponent ++ [chunks.length - 1] =
      (Plan.best chunks width exponent chunks.length).ends.reverse := by
  obtain ⟨last, hlast⟩ : ∃ last, chunks.length = last + 1 :=
    Nat.exists_eq_add_one.mpr (List.length_pos_iff.mpr hne)
  unfold leastRagged
  rw [leastRaggedPlan_eq_best measured, hlast, Nat.add_sub_cancel, Plan.points_best_append]

theorem sets_leastRagged {chunks : List Chunk} (measured : Chunk.Measured chunks)
    (hne : chunks ≠ []) (width : Nat) (exponent : K) :
    Sets chunks width 0 (leastRagged chunks width exponent ++ [chunks.length - 1])
      chunks.length := by
  rw [leastRagged_append_last measured hne]
  exact Plan.sets_best chunks width exponent (Nat.le_refl _)

theorem Method.points_nil (method : Method K) (width : Nat) : method.points [] width = [] := by
  cases method <;> rfl

/-- Whatever the method, the lines can be set. -/
theorem Method.sets_points {chunks : List Chunk} (measured : Chunk.Measured chunks)
    (hne : chunks ≠ []) (width : Nat) (method : Method K) :
    Sets chunks width 0 (method.points chunks width ++ [chunks.length - 1]) chunks.length := by
  cases method with
  | firstFit => exact sets_firstFit hne
  | leastRagged exponent => exact sets_leastRagged measured hne width exponent

end LineFill
