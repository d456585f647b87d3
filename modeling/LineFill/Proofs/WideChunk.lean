import LineFill.Proofs.Optimality

/-!
A chunk that is too wide parts the chunks around it. No line can hold it together with another, so
both methods fill the chunks before it and those after it as if they were alone. First fit does so
without more ado. Least ragged filling chooses the lines after the chunk by sums that include those
before it; such sums must be exact, or the part before it could hide small differences after it.
-/
namespace LineFill

section Parts

variable {K : Type} [Score K] {width : Nat} {exponent : K} {front rest : List Chunk}

theorem linePenalty_append_left {first last : Nat} (hf : first ≤ last) (hl : last < front.length) :
    linePenalty (front ++ rest) width exponent first last =
      linePenalty front width exponent first last := by
  unfold linePenalty
  rw [Chunk.lineWidth_append_left front rest hf hl]

theorem linePenalty_append_right (front rest : List Chunk) (first last : Nat) :
    linePenalty (front ++ rest) width exponent (front.length + first) (front.length + last) =
      linePenalty rest width exponent first last := by
  unfold linePenalty
  rw [Chunk.lineWidth_append_right, decide_eq_decide.mpr (Nat.add_left_cancel_iff)]

/-- The best plan does not depend on the chunks that follow. -/
theorem Plan.best_append {stop : Nat} (h : stop ≤ front.length) :
    best (front ++ rest) width exponent stop = best front width exponent stop := by
  induction stop using Nat.strongRecOn with
  | ind stop ih =>
    cases stop with
    | zero => rw [best_zero, best_zero]
    | succ last =>
      have hcandidates : candidates (front ++ rest) width exponent last =
          candidates front width exponent last := by
        apply List.filterMap_congr
        intro first hfirst
        have hf : first ≤ last := Nat.lt_succ_iff.mp (List.mem_range.mp hfirst)
        rw [linePenalty_append_left hf h, ih first (Nat.lt_succ_iff.mpr hf) (by omega)]
      rw [best_succ, best_succ, hcandidates]

end Parts

section WideLines

variable {width : Nat} {before after : List Chunk} {chunk : Chunk}

/-- No line of several chunks holds a chunk that is too wide. -/
theorem not_fits_of_wide_chunk (measured : Chunk.Measured (before ++ chunk :: after))
    (wide : width < chunk.inkWidth) {first last : Nat} (hf : first ≤ before.length)
    (hl : before.length ≤ last) (hlen : last < (before ++ chunk :: after).length)
    (hseveral : first ≠ last) : ¬ Fits (before ++ chunk :: after) width first last := by
  rintro (hsingle | hwidth)
  · exact hseveral hsingle
  · have halone : Chunk.lineWidth (before ++ chunk :: after) before.length before.length =
        chunk.inkWidth :=
      (Chunk.lineWidth_append_right before (chunk :: after) 0 0).trans
        (Chunk.lineWidth_cons_zero chunk after)
    have hstart := Chunk.lineWidth_anti_first (before ++ chunk :: after) hf hl
    have hstop := Chunk.lineWidth_mono_last measured (Nat.le_refl _) hl hlen
    omega

end WideLines

namespace FirstFit

variable {width : Nat} {chunk : Chunk}

theorem points_add (used last offset : Nat) (rest : List Chunk) :
    points width used (last + offset) rest = (points width used last rest).map (· + offset) := by
  induction rest generalizing used last with
  | nil => rfl
  | cons c rest ih =>
    rw [points, points, Nat.add_right_comm, ih, ih]
    split
    · rw [List.map_cons]
    · rfl

/-- A chunk that is too wide ends the line before it. -/
theorem points_append_cons_of_wide (wide : width < chunk.inkWidth) (used last : Nat)
    (line rest : List Chunk) :
    points width used last (line ++ chunk :: rest) = points width used last line ++
      (last + line.length) :: points width chunk.width (last + line.length + 1) rest := by
  induction line generalizing used last with
  | nil =>
    have hends : width < used + chunk.inkWidth := by omega
    simp [points, hends]
  | cons c line ih =>
    have hlast : last + (c :: line).length = last + 1 + line.length := by
      rw [List.length_cons]
      omega
    rw [List.cons_append, points, points, ih, ih, hlast]
    split
    · rw [List.cons_append]
    · rfl

/-- On a line that is full already no chunk finds room, so the others are filled by themselves. -/
theorem points_of_full {used : Nat} (full : width < used) (last : Nat) (rest : List Chunk) :
    points width used last rest =
      (if rest = [] then [] else [last]) ++ (firstFit width rest).map (· + (last + 1)) := by
  cases rest with
  | nil => rfl
  | cons c rest =>
    have hadd : points width c.width (last + 1) rest =
        (points width c.width 0 rest).map (· + (last + 1)) := by
      rw [← points_add, Nat.zero_add]
    rw [points, if_pos (by omega), if_neg (List.cons_ne_nil c rest), firstFit, hadd]
    rfl

end FirstFit

/-- First fit fills the chunks on both sides of one that is too wide as if they were alone. -/
theorem firstFit_append_wide {width : Nat} {chunk : Chunk} (wide : width < chunk.inkWidth)
    (hink : chunk.inkWidth ≤ chunk.width) (before after : List Chunk) :
    firstFit width (before ++ chunk :: after) =
      firstFit width before ++ (if before = [] then [] else [before.length - 1]) ++
        (if after = [] then [] else [before.length]) ++
        (firstFit width after).map (· + (before.length + 1)) := by
  have hafter := FirstFit.points_of_full (Nat.lt_of_lt_of_le wide hink) before.length after
  cases before with
  | nil => exact hafter
  | cons c line =>
    rw [List.cons_append, firstFit, FirstFit.points_append_cons_of_wide wide, Nat.zero_add,
      if_neg (List.cons_ne_nil c line), List.append_assoc, List.append_assoc, ← hafter, firstFit]
    rfl

section ExactSums

variable {K : Type} [Score K]

/-- Sums of some scores are exact: they may be grouped in any way, zero is neutral, and the sums with
a score are in the order of what is added to it. Of floats this is true if they and their sums are
whole numbers below 2 ^ 53, and infinite or rounded sums are excluded. -/
structure Score.Exact (Occurs : K → Prop) : Prop where
  add_zero {x : K} : Occurs x → Score.add x Score.zero = x
  add_assoc {x y z : K} : Occurs x → Occurs y → Occurs z →
    Score.add (Score.add x y) z = Score.add x (Score.add y z)
  add_less {x y z : K} : Occurs x → Occurs y → Occurs z →
    Score.less (Score.add x y) (Score.add x z) = Score.less y z

theorem Score.Exact.mono {Occurs Total : K → Prop} (exact : Exact Total)
    (h : ∀ x, Occurs x → Total x) : Exact Occurs where
  add_zero hx := exact.add_zero (h _ hx)
  add_assoc hx hy hz := exact.add_assoc (h _ hx) (h _ hy) (h _ hz)
  add_less hx hy hz := exact.add_less (h _ hx) (h _ hy) (h _ hz)

/-- The scores that occur when chunks are filled least ragged: zero, the penalties of lines, and the
totals of the plans that are compared. -/
inductive Occurs (chunks : List Chunk) (width : Nat) (exponent : K) : K → Prop
  | zero : Occurs chunks width exponent Score.zero
  | penalty {first last : Nat} {p : K} (hf : first ≤ last) (hl : last < chunks.length)
      (hp : linePenalty chunks width exponent first last = some p) : Occurs chunks width exponent p
  | total {last : Nat} {plan : Plan K} (hl : last < chunks.length)
      (hplan : plan ∈ Plan.candidates chunks width exponent last) :
      Occurs chunks width exponent plan.total

namespace Occurs

variable {chunks : List Chunk} {width : Nat} {exponent : K}

theorem best {stop : Nat} (h : stop ≤ chunks.length) :
    Occurs chunks width exponent (Plan.best chunks width exponent stop).total := by
  cases stop with
  | zero =>
    rw [Plan.best_zero]
    exact zero
  | succ last => exact total h (Plan.mem_of_best? (Plan.best?_candidates chunks width exponent last))

theorem magnitude {Magnitude : K → Prop} (closed : Score.Closed Magnitude exponent) {x : K}
    (h : Occurs chunks width exponent x) : Magnitude x := by
  cases h with
  | zero => exact closed.ofNat 0
  | penalty hf hl hp => exact closed.penalty hp
  | total hl hplan =>
    obtain ⟨first, -, p, hp, rfl⟩ := Plan.mem_candidates.mp hplan
    exact closed.add (Plan.magnitude_best closed chunks width first) (closed.penalty hp)

end Occurs

end ExactSums

section Cut

/-- No line crosses from the first part of the chunks to the rest. -/
def Cut (width : Nat) (front rest : List Chunk) : Prop :=
  ∀ first < front.length, ∀ last < rest.length,
    ¬ Fits (front ++ rest) width first (front.length + last)

variable {K : Type} [Score K] {width : Nat} {exponent : K} {front rest : List Chunk}

namespace Plan

/-- The lines of a plan with those that another one makes of the chunks from number `offset` on. -/
def followedBy (before : Plan K) (offset : Nat) (plan : Plan K) : Plan K :=
  ⟨Score.add before.total plan.total, plan.ends.map (· + offset) ++ before.ends⟩

theorem points_followedBy {plan : Plan K} (h : plan.ends ≠ []) (before : Plan K) (offset : Nat) :
    (before.followedBy offset plan).points =
      before.ends.reverse ++ plan.points.map (· + offset) := by
  have hmap : plan.ends.map (· + offset) ≠ [] := mt List.map_eq_nil_iff.mp h
  unfold points followedBy
  rw [List.tail_append_of_ne_nil hmap, List.reverse_append, ← List.map_tail, List.map_reverse]

theorem foldl_better_map {f : Plan K → Plan K} {plan : Plan K} {plans : List (Plan K)}
    (h : ∀ kept ∈ plan :: plans, ∀ next ∈ plan :: plans,
      Score.less (f next).total (f kept).total = Score.less next.total kept.total) :
    (plans.map f).foldl better (f plan) = f (plans.foldl better plan) := by
  induction plans generalizing plan with
  | nil => rfl
  | cons next plans ih =>
    have hbetter : better (f plan) (f next) = f (better plan next) := by
      have hless := h plan (by simp) next (by simp)
      unfold better
      rw [hless, apply_ite f]
    have hmem : ∀ other ∈ better plan next :: plans, other ∈ plan :: next :: plans := by
      have hkept : better plan next ∈ [plan, next] := by
        unfold better
        split <;> simp
      intro other hother
      rcases List.mem_cons.mp hother with rfl | hother
      · exact List.mem_append_left plans hkept
      · exact List.mem_append_right [plan, next] hother
    rw [List.map_cons, List.foldl_cons, List.foldl_cons, hbetter]
    apply ih
    intro kept hkept other hother
    exact h kept (hmem kept hkept) other (hmem other hother)

/-- What keeps the order of totals keeps the first plan with the smallest one. -/
theorem best?_map {f : Plan K → Plan K} {plans : List (Plan K)}
    (h : ∀ kept ∈ plans, ∀ next ∈ plans,
      Score.less (f next).total (f kept).total = Score.less next.total kept.total) :
    best? (plans.map f) = (best? plans).map f := by
  cases plans with
  | nil => rfl
  | cons plan plans => exact congrArg some (foldl_better_map h)

/-- Every plan that is tried past a cut is one for the rest, after the best plan for the front. -/
theorem candidates_of_cut (cut : Cut width front rest) {Total : K → Prop}
    (exact : Score.Exact Total) (hfront : Total (best front width exponent front.length).total)
    (hrest : ∀ x, Occurs rest width exponent x → Total x) {last : Nat} (hl : last < rest.length)
    (ih : ∀ first ≤ last, best (front ++ rest) width exponent (front.length + first) =
      (best front width exponent front.length).followedBy front.length
        (best rest width exponent first)) :
    candidates (front ++ rest) width exponent (front.length + last) =
      (candidates rest width exponent last).map
        ((best front width exponent front.length).followedBy front.length) := by
  unfold candidates
  rw [Nat.add_assoc, List.range_add, List.filterMap_append, List.filterMap_map,
    List.map_filterMap]
  have hcross : (List.range front.length).filterMap (fun first =>
      (linePenalty (front ++ rest) width exponent first (front.length + last)).map
        ((best (front ++ rest) width exponent first).addLine (front.length + last))) = [] := by
    rw [List.filterMap_eq_nil_iff]
    intro first hfirst
    have hnone : linePenalty (front ++ rest) width exponent first (front.length + last) = none := by
      rw [← Option.not_isSome_iff_eq_none, isSome_linePenalty_iff]
      exact cut first (List.mem_range.mp hfirst) last hl
    rw [hnone, Option.map_none]
  rw [hcross, List.nil_append]
  apply List.filterMap_congr
  intro first hfirst
  have hf : first ≤ last := Nat.lt_succ_iff.mp (List.mem_range.mp hfirst)
  rw [Function.comp_apply, linePenalty_append_right, ih first hf, Option.map_map]
  cases hp : linePenalty rest width exponent first last with
  | none => rfl
  | some p =>
    have hbest : Total (best rest width exponent first).total := hrest _ (Occurs.best (by omega))
    have hassoc := exact.add_assoc hfront hbest (hrest _ (Occurs.penalty hf hl hp))
    simp [followedBy, addLine, hassoc, Nat.add_comm]

/-- Past a cut the best plan is that for the rest, after the best plan for the front. -/
theorem best_of_cut (cut : Cut width front rest) {Total : K → Prop} (exact : Score.Exact Total)
    (hfront : Total (best front width exponent front.length).total)
    (hrest : ∀ x, Occurs rest width exponent x → Total x) {stop : Nat} (hs : stop ≤ rest.length) :
    best (front ++ rest) width exponent (front.length + stop) =
      (best front width exponent front.length).followedBy front.length
        (best rest width exponent stop) := by
  induction stop using Nat.strongRecOn with
  | ind stop ih =>
    cases stop with
    | zero =>
      rw [Nat.add_zero, best_append (Nat.le_refl _), best_zero, followedBy]
      simp [empty, exact.add_zero hfront]
    | succ last =>
      have hcandidates := candidates_of_cut cut exact hfront hrest hs fun first hf =>
        ih first (by omega) (by omega)
      have horder : best? ((candidates rest width exponent last).map
          ((best front width exponent front.length).followedBy front.length)) =
            (best? (candidates rest width exponent last)).map
              ((best front width exponent front.length).followedBy front.length) := by
        apply best?_map
        intro plan hplan next hnext
        exact exact.add_less hfront (hrest _ (Occurs.total hs hnext))
          (hrest _ (Occurs.total hs hplan))
      rw [← hcandidates, best?_candidates, best?_candidates, Option.map_some] at horder
      exact Option.some.inj horder

end Plan

end Cut

section Parting

variable {K : Type} [Score K] {width : Nat} {exponent : K} {before after : List Chunk}
  {chunk : Chunk}

theorem cut_of_wide (measured : Chunk.Measured (before ++ chunk :: after))
    (wide : width < chunk.inkWidth) : Cut width (before ++ [chunk]) after := by
  intro first hfirst last hlast
  have hlen : (before ++ [chunk]).length = before.length + 1 := List.length_append
  have happend : before ++ [chunk] ++ after = before ++ chunk :: after := List.append_assoc _ _ _
  rw [hlen] at hfirst ⊢
  rw [happend]
  refine not_fits_of_wide_chunk measured wide (by omega) (by omega) ?_ (by omega)
  rw [List.length_append, List.length_cons]
  omega

/-- The chunk that is too wide has a line of its own, which costs nothing. -/
theorem Plan.best_of_wide (measured : Chunk.Measured (before ++ [chunk]))
    (wide : width < chunk.inkWidth) :
    best (before ++ [chunk]) width exponent (before.length + 1) =
      (best before width exponent before.length).addLine before.length Score.zero := by
  obtain ⟨first, hf, p, hp, hbest⟩ :=
    exists_best_succ (before ++ [chunk]) width exponent before.length
  have hfits := isSome_linePenalty_iff.mp (Option.isSome_of_eq_some hp)
  obtain rfl : first = before.length := by
    by_contra hseveral
    exact not_fits_of_wide_chunk measured wide hf (Nat.le_refl _) (by simp) hseveral hfits
  have hfree : linePenalty (before ++ [chunk]) width exponent before.length before.length =
      some Score.zero := by
    have halone : linePenalty (before ++ [chunk]) width exponent before.length before.length =
        linePenalty [chunk] width exponent 0 0 :=
      linePenalty_append_right before [chunk] 0 0
    rw [halone]
    simp [linePenalty, penalty, wide]
  rw [hfree] at hp
  rw [hbest, best_append (Nat.le_refl _), Option.some.inj hp]

theorem Plan.reverse_ends_best (measured : Chunk.Measured before) :
    (best before width exponent before.length).ends.reverse =
      leastRagged before width exponent ++ (if before = [] then [] else [before.length - 1]) := by
  by_cases hne : before = []
  · subst hne
    rw [List.length_nil, best_zero]
    rfl
  · rw [if_neg hne, leastRagged_append_last measured hne]

/-- Only the chunks on one side of the chunk that is too wide decide on the lines there. -/
theorem Plan.best_append_wide
    (exact : Score.Exact fun score =>
      Occurs before width exponent score ∨ Occurs after width exponent score)
    (measured : Chunk.Measured (before ++ chunk :: after)) (wide : width < chunk.inkWidth) :
    best (before ++ chunk :: after) width exponent (before ++ chunk :: after).length =
      ((best before width exponent before.length).addLine before.length Score.zero).followedBy
        (before.length + 1) (best after width exponent after.length) := by
  have happend : before ++ chunk :: after = before ++ [chunk] ++ after := List.append_cons _ _ _
  have hlen : (before ++ [chunk]).length = before.length + 1 := List.length_append
  have hchunk : Chunk.Measured (before ++ [chunk]) := by
    rw [happend] at measured
    exact (Chunk.measured_append.mp measured).1
  have hfront : best (before ++ [chunk]) width exponent (before.length + 1) = _ :=
    best_of_wide hchunk wide
  have htotal : Occurs before width exponent (best before width exponent before.length).total :=
    Occurs.best (Nat.le_refl _)
  have hplan := by
    refine best_of_cut (cut_of_wide measured wide) exact ?_ (fun x hx => Or.inr hx)
      (Nat.le_refl after.length)
    rw [hlen, hfront, addLine, exact.add_zero (Or.inl htotal)]
    exact Or.inl htotal
  rw [happend, List.length_append, hplan, hlen, hfront]

/-- Least ragged filling does so too if its sums are exact. -/
theorem leastRagged_append_wide
    (exact : Score.Exact fun score =>
      Occurs before width exponent score ∨ Occurs after width exponent score)
    (measured : Chunk.Measured (before ++ chunk :: after)) (wide : width < chunk.inkWidth) :
    leastRagged (before ++ chunk :: after) width exponent =
      leastRagged before width exponent ++ (if before = [] then [] else [before.length - 1]) ++
        (if after = [] then [] else [before.length]) ++
        (leastRagged after width exponent).map (· + (before.length + 1)) := by
  obtain ⟨hbefore, hrest⟩ := Chunk.measured_append.mp measured
  have hafter : Chunk.Measured after := hrest.tail
  rw [leastRagged, leastRaggedPlan_eq_best measured, Plan.best_append_wide exact measured wide,
    ← Plan.reverse_ends_best hbefore]
  by_cases hne : after = []
  · subst hne
    have hnil : leastRagged [] width exponent = [] := rfl
    rw [List.length_nil, Plan.best_zero, if_pos rfl, hnil, List.append_nil, List.map_nil,
      List.append_nil]
    rfl
  · have hlast := leastRagged_append_last hafter hne width exponent
    have hends : (Plan.best after width exponent after.length).ends ≠ [] := by
      intro hnil
      simp [hnil] at hlast
    rw [Plan.points_followedBy hends, if_neg hne, leastRagged, leastRaggedPlan_eq_best hafter]
    simp [Plan.addLine]

/-- A chunk that is too wide parts the points: those for the chunks before it, the ends of its own line
and of the line before, and those for the chunks after it. First fit adds no scores; of least ragged
filling it is asked that the sums for the two parts are exact. -/
theorem Method.points_append_wide (method : Method K)
    (exact : ∀ exponent, method = .leastRagged exponent → Score.Exact fun score =>
      Occurs before width exponent score ∨ Occurs after width exponent score)
    (measured : Chunk.Measured (before ++ chunk :: after)) (wide : width < chunk.inkWidth) :
    method.points (before ++ chunk :: after) width =
      method.points before width ++ (if before = [] then [] else [before.length - 1]) ++
        (if after = [] then [] else [before.length]) ++
        (method.points after width).map (· + (before.length + 1)) := by
  cases method with
  | firstFit => exact firstFit_append_wide wide (measured chunk (by simp)) before after
  | leastRagged exponent => exact leastRagged_append_wide (exact exponent rfl) measured wide

end Parting

theorem Score.exact_enat : Score.Exact fun x : ℕ∞ => x ≠ ⊤ := by
  constructor
  case add_zero => simp [Score.add, Score.zero, Score.ofNat]
  case add_assoc =>
    intro x y z _ _ _
    exact add_assoc x y z
  case add_less =>
    intro x y z hx _ _
    exact decide_eq_decide.mpr (ENat.add_lt_add_iff_left hx)

theorem Score.closed_enat {exponent : ℕ∞} (h : exponent ≠ ⊤) :
    Score.Closed (fun x : ℕ∞ => x ≠ ⊤) exponent where
  ofNat n := ENat.natCast_ne_top n
  add hx hy := WithTop.add_ne_top.mpr ⟨hx, hy⟩
  pow {x} hx := by
    obtain ⟨m, rfl⟩ := ENat.ne_top_iff_exists.mp hx
    obtain ⟨n, rfl⟩ := ENat.ne_top_iff_exists.mp h
    exact ENat.natCast_ne_top (m ^ n)

/-- The words of `raggedWords` on both sides of one that is too wide. -/
theorem Method.points_append_wide_raggedWords :
    (Score.Exact fun score => Occurs raggedWords 6 (2 : ℕ∞) score ∨
        Occurs raggedWords 6 (2 : ℕ∞) score) ∧
      Chunk.Measured (raggedWords ++ ⟨15, 24, 23, 9, 8⟩ :: raggedWords) ∧
      (Method.leastRagged (2 : ℕ∞)).points (raggedWords ++ ⟨15, 24, 23, 9, 8⟩ :: raggedWords) 6 =
        [0, 2, 3, 4, 5, 7] ∧
      (Method.firstFit : Method Float).points
        (raggedWords ++ ⟨15, 24, 23, 9, 8⟩ :: raggedWords) 6 = [1, 2, 3, 4, 6, 7] := by
  have exact : Score.Exact fun score => Occurs raggedWords 6 (2 : ℕ∞) score ∨
      Occurs raggedWords 6 (2 : ℕ∞) score := by
    apply Score.exact_enat.mono
    intro score hscore
    exact hscore.elim (Occurs.magnitude (Score.closed_enat (by decide)))
      (Occurs.magnitude (Score.closed_enat (by decide)))
  have measured : Chunk.Measured (raggedWords ++ ⟨15, 24, 23, 9, 8⟩ :: raggedWords) := by decide
  refine ⟨exact, measured, ?_, ?_⟩
  · rw [points_append_wide (.leastRagged (2 : ℕ∞)) (fun _ hmethod => by cases hmethod; exact exact)
      measured (by decide)]
    decide
  · rw [points_append_wide (.firstFit : Method Float) (fun _ hmethod => by cases hmethod) measured
      (by decide)]
    decide

end LineFill
