import LineFill.Proofs.LineEnds
import LineFill.Proofs.ScoreLaws

/-!
Least ragged filling is optimal among all lists of points, those that no method makes included. Sums
run from left to right, so a list of points is compared with the best plans end by end: at each of
its ends the sum so far is not below the total of the best plan for the chunks up to there.
-/
namespace LineFill

variable {K : Type} [Score K]

/-- The sum of the penalties of the lines that the points make of the chunks. -/
def penaltyOf (chunks : List Chunk) (points : List Nat) (width : Nat) (exponent : K) : K :=
  totalPenalty (penalties chunks points width exponent)

/-- The sum from left to right that goes on from a number. -/
def addPenalties (sum : K) (penalties : List (Option K)) : K :=
  (penalties.map (·.getD Score.infinity)).foldl Score.add sum

theorem addPenalties_append (sum : K) (ps qs : List (Option K)) :
    addPenalties sum (ps ++ qs) = addPenalties (addPenalties sum ps) qs := by
  simp [addPenalties]

section Plans

variable {chunks : List Chunk} {width : Nat} {exponent : K}

theorem Sets.penaltiesFrom_append {first stop : Nat} {ends : List Nat}
    (h : Sets chunks width first ends stop) (more : List Nat) :
    penaltiesFrom chunks width exponent first (ends ++ more) =
      penaltiesFrom chunks width exponent first ends ++
        penaltiesFrom chunks width exponent stop more := by
  induction h with
  | done first => simp [penaltiesFrom]
  | line hf hl fits rest ih => simp [penaltiesFrom, hf, hl, ih]

/-- The total of the best plan is the sum of the penalties of its lines. -/
theorem Plan.total_best (chunks : List Chunk) (width : Nat) (exponent : K) {stop : Nat}
    (h : stop ≤ chunks.length) :
    (best chunks width exponent stop).total = addPenalties Score.zero
      (penaltiesFrom chunks width exponent 0 (best chunks width exponent stop).ends.reverse) := by
  induction stop using Nat.strongRecOn with
  | ind stop ih =>
    cases stop with
    | zero => simp [empty, addPenalties, penaltiesFrom]
    | succ last =>
      obtain ⟨first, hf, p, hp, hbest⟩ := exists_best_succ chunks width exponent last
      have hsets := sets_best chunks width exponent (show first ≤ chunks.length by omega)
      have hvalid : first ≤ last ∧ last < chunks.length := ⟨hf, by omega⟩
      rw [hbest, addLine, List.reverse_cons, hsets.penaltiesFrom_append, addPenalties_append,
        ← ih first (by omega) (by omega)]
      simp [penaltiesFrom, hvalid, hp, addPenalties]

end Plans

section Laws

variable {Magnitude : K → Prop} {chunks : List Chunk} {width : Nat} {exponent : K}

namespace Plan

theorem better_atMost (laws : Score.Laws Magnitude) {plan next : Plan K}
    (hp : Magnitude plan.total) (hn : Magnitude next.total) :
    Score.AtMost (better plan next).total plan.total ∧
      Score.AtMost (better plan next).total next.total := by
  unfold better
  split
  · next hless => exact ⟨Or.inr hless, Or.inl rfl⟩
  · next hless => exact ⟨Or.inl rfl, laws.atMost_of_not_less hp hn hless⟩

theorem foldl_better_atMost (laws : Score.Laws Magnitude) {plan : Plan K} {plans : List (Plan K)}
    (hm : ∀ q ∈ plan :: plans, Magnitude q.total) :
    ∀ q ∈ plan :: plans, Score.AtMost (plans.foldl better plan).total q.total := by
  induction plans generalizing plan with
  | nil =>
    intro q hq
    rw [List.mem_singleton.mp hq]
    exact Or.inl rfl
  | cons next plans ih =>
    have hplan : Magnitude plan.total := hm plan (by simp)
    have hnext : Magnitude next.total := hm next (by simp)
    have hbetter : Magnitude (better plan next).total := by
      unfold better
      split <;> assumption
    have hrest : ∀ q ∈ better plan next :: plans, Magnitude q.total := by
      intro q hq
      rcases List.mem_cons.mp hq with rfl | hq
      · exact hbetter
      · exact hm q (by simp [hq])
    have hmin := ih hrest
    have hfold : Magnitude (plans.foldl better (better plan next)).total :=
      hrest _ (foldl_better_mem _ _)
    have hle := hmin (better plan next) List.mem_cons_self
    obtain ⟨hle₁, hle₂⟩ := better_atMost laws hplan hnext
    rw [List.foldl_cons]
    intro q hq
    rcases List.mem_cons.mp hq with rfl | hq
    · exact laws.trans hfold hbetter hplan hle hle₁
    rcases List.mem_cons.mp hq with rfl | hq
    · exact laws.trans hfold hbetter hnext hle hle₂
    · exact hmin q (List.mem_cons_of_mem _ hq)

theorem magnitude_best (closed : Score.Closed Magnitude exponent) (chunks : List Chunk)
    (width stop : Nat) : Magnitude (best chunks width exponent stop).total := by
  induction stop using Nat.strongRecOn with
  | ind stop ih =>
    cases stop with
    | zero =>
      rw [best_zero]
      exact closed.ofNat 0
    | succ last =>
      obtain ⟨first, hf, p, hp, hbest⟩ := exists_best_succ chunks width exponent last
      rw [hbest]
      exact closed.add (ih first (by omega)) (closed.penalty hp)

/-- No plan whose last line can be set and whose other lines are best is better than the best. -/
theorem best_succ_atMost (laws : Score.Laws Magnitude)
    (hpos : Score.less Score.zero exponent = true) {first last : Nat} (hf : first ≤ last) {p : K}
    (hp : linePenalty chunks width exponent first last = some p) :
    Score.AtMost (best chunks width exponent (last + 1)).total
      (Score.add (best chunks width exponent first).total p) := by
  have hmem := mem_candidates.mpr ⟨first, hf, p, hp, rfl⟩
  have hbest := best?_candidates chunks width exponent last
  have hm : ∀ q ∈ candidates chunks width exponent last, Magnitude q.total := by
    intro q hq
    obtain ⟨start, _, p', hp', rfl⟩ := mem_candidates.mp hq
    exact laws.add (magnitude_best (laws.closed hpos) chunks width start) (laws.penalty hpos hp')
  cases hc : candidates chunks width exponent last with
  | nil => simp [hc] at hmem
  | cons plan plans =>
    rw [hc] at hmem hbest hm
    rw [← Option.some.inj hbest]
    exact foldl_better_atMost laws hm _ hmem

end Plan

/-- One line more keeps the sum of a list of points above the total of the best plan. -/
theorem atMost_add_line (laws : Score.Laws Magnitude)
    (hpos : Score.less Score.zero exponent = true) {first last : Nat} (hf : first ≤ last) {sum : K}
    (hsum : Magnitude sum)
    (hle : Score.AtMost (Plan.best chunks width exponent first).total sum) :
    Magnitude (Score.add sum ((linePenalty chunks width exponent first last).getD Score.infinity)) ∧
      Score.AtMost (Plan.best chunks width exponent (last + 1)).total
        (Score.add sum ((linePenalty chunks width exponent first last).getD Score.infinity)) := by
  have hfirst := Plan.magnitude_best (laws.closed hpos) chunks width first
  have hlast := Plan.magnitude_best (laws.closed hpos) chunks width (last + 1)
  cases hp : linePenalty chunks width exponent first last with
  | none =>
    rw [Option.getD_none, laws.add_infinity hsum]
    exact ⟨laws.infinity, laws.atMost_infinity hlast⟩
  | some p =>
    have hpm : Magnitude p := laws.penalty hpos hp
    have hstep := laws.add_atMost hfirst hsum hpm hpm hle (Or.inl rfl)
    rw [Option.getD_some]
    exact ⟨laws.add hsum hpm, laws.trans hlast (laws.add hfirst hpm) (laws.add hsum hpm)
      (Plan.best_succ_atMost laws hpos hf hp) hstep⟩

/-- A point that ends no line adds infinity, and nothing follows it. -/
theorem best_atMost_none (laws : Score.Laws Magnitude)
    (hpos : Score.less Score.zero exponent = true) {sum : K} (hsum : Magnitude sum) (stop : Nat) :
    Score.AtMost (Plan.best chunks width exponent stop).total (addPenalties sum [none]) := by
  have h : addPenalties sum [none] = Score.infinity := laws.add_infinity hsum
  rw [h]
  exact laws.atMost_infinity (Plan.magnitude_best (laws.closed hpos) chunks width stop)

/-- The sum of any list of points is not below the total of the best plan for all chunks. -/
theorem best_atMost_addPenalties (laws : Score.Laws Magnitude)
    (hpos : Score.less Score.zero exponent = true) (hne : chunks ≠ []) (points : List Nat)
    {first : Nat} {sum : K} (hsum : Magnitude sum)
    (hle : Score.AtMost (Plan.best chunks width exponent first).total sum) :
    Score.AtMost (Plan.best chunks width exponent chunks.length).total
      (addPenalties sum
        (penaltiesFrom chunks width exponent first (points ++ [chunks.length - 1]))) := by
  have hlen : 0 < chunks.length := List.length_pos_iff.mpr hne
  induction points generalizing first sum with
  | nil =>
    rw [List.nil_append, penaltiesFrom]
    split
    · next hvalid =>
      have h := (atMost_add_line laws hpos hvalid.1 hsum hle).2
      rw [Nat.sub_add_cancel hlen] at h
      exact h
    · exact best_atMost_none laws hpos hsum chunks.length
  | cons last points ih =>
    rw [List.cons_append, penaltiesFrom]
    split
    · next hvalid =>
      obtain ⟨hm, h⟩ := atMost_add_line laws hpos hvalid.1 hsum hle
      exact ih hm h
    · exact best_atMost_none laws hpos hsum chunks.length

/-- Sums start from a number that is neutral for the first penalty, whichever it is. -/
theorem penaltyOf_eq_addPenalties (laws : Score.Laws Magnitude)
    (hpos : Score.less Score.zero exponent = true) (hne : chunks ≠ []) (points : List Nat) :
    penaltyOf chunks points width exponent = addPenalties Score.zero
      (penaltiesFrom chunks width exponent 0 (points ++ [chunks.length - 1])) := by
  have hstart {x : K} (hx : Magnitude x) :
      Score.add Score.sumStart x = Score.add Score.zero x := by
    rw [laws.sumStart_add hx, laws.zero_add hx]
  have hfirst (ps : List (Option K)) (p : Option K) (hp : Magnitude (p.getD Score.infinity)) :
      totalPenalty (p :: ps) = addPenalties Score.zero (p :: ps) := by
    simp [totalPenalty, addPenalties, Score.sum, hstart hp]
  have hline (last : Nat) :
      Magnitude ((linePenalty chunks width exponent 0 last).getD Score.infinity) := by
    cases hp : linePenalty chunks width exponent 0 last with
    | none => exact laws.infinity
    | some p => exact laws.penalty hpos hp
  obtain ⟨last, ends, hends⟩ : ∃ last ends, points ++ [chunks.length - 1] = last :: ends :=
    List.exists_cons_of_ne_nil (by simp)
  unfold penaltyOf
  rw [penalties_of_ne_nil hne, hends, penaltiesFrom]
  split
  · exact hfirst _ _ (hline last)
  · exact hfirst [] none laws.infinity

theorem total_leastRaggedPlan (laws : Score.Laws Magnitude)
    (hpos : Score.less Score.zero exponent = true) (measured : Chunk.Measured chunks)
    (hne : chunks ≠ []) :
    (leastRaggedPlan chunks width exponent).total =
      penaltyOf chunks (leastRagged chunks width exponent) width exponent := by
  rw [penaltyOf_eq_addPenalties laws hpos hne, leastRagged_append_last measured hne,
    leastRaggedPlan_eq_best measured]
  exact Plan.total_best chunks width exponent (Nat.le_refl _)

end Laws

/-- No list of points has a smaller sum of penalties than the least ragged one, which is the total
that the fill ends with. -/
theorem leastRagged_optimal {Magnitude : K → Prop} (laws : Score.Laws Magnitude)
    {chunks : List Chunk} (measured : Chunk.Measured chunks) (width : Nat) {exponent : K}
    (hpos : Score.less Score.zero exponent = true) :
    (∀ points : List Nat,
      Score.AtMost (penaltyOf chunks (leastRagged chunks width exponent) width exponent)
        (penaltyOf chunks points width exponent)) ∧
      (chunks ≠ [] → Magnitude (leastRaggedPlan chunks width exponent).total ∧
        (leastRaggedPlan chunks width exponent).total =
          penaltyOf chunks (leastRagged chunks width exponent) width exponent) ∧
      Score.AtMost (penaltyOf chunks (leastRagged chunks width exponent) width exponent)
        (penaltyOf chunks (firstFit width chunks) width exponent) := by
  have hmin (points : List Nat) :
      Score.AtMost (penaltyOf chunks (leastRagged chunks width exponent) width exponent)
        (penaltyOf chunks points width exponent) := by
    by_cases hne : chunks = []
    · subst hne
      exact Or.inl rfl
    · have hstart : Score.AtMost (Plan.best chunks width exponent 0).total Score.zero := by
        rw [Plan.best_zero]
        exact Or.inl rfl
      have h := best_atMost_addPenalties laws hpos hne points laws.zero hstart
      rwa [← penaltyOf_eq_addPenalties laws hpos hne, ← leastRaggedPlan_eq_best measured,
        total_leastRaggedPlan laws hpos measured hne] at h
  refine ⟨hmin, ?_, hmin (firstFit width chunks)⟩
  intro hne
  refine ⟨?_, total_leastRaggedPlan laws hpos measured hne⟩
  rw [leastRaggedPlan_eq_best measured]
  exact Plan.magnitude_best (laws.closed hpos) chunks width chunks.length

/-- The chunks of `aaa bb cc ddddd`, of which first fit leaves `cc` alone on its line. -/
def raggedWords : List Chunk :=
  [⟨0, 4, 3, 4, 3⟩, ⟨4, 7, 6, 3, 2⟩, ⟨7, 10, 9, 3, 2⟩, ⟨10, 15, 15, 5, 5⟩]

theorem leastRagged_optimal_raggedWords :
    Score.Laws (fun _ : ℕ∞ => True) ∧ Chunk.Measured raggedWords ∧
      Score.less Score.zero (2 : ℕ∞) = true ∧
      leastRagged raggedWords 6 (2 : ℕ∞) = [0, 2] ∧
      Score.AtMost (penaltyOf raggedWords (leastRagged raggedWords 6 (2 : ℕ∞)) 6 (2 : ℕ∞))
        (penaltyOf raggedWords [1, 2] 6 2) ∧
      Score.AtMost (penaltyOf raggedWords (leastRagged raggedWords 6 (2 : ℕ∞)) 6 (2 : ℕ∞))
        (penaltyOf raggedWords [7, 3, 3] 6 2) := by
  have hpos : Score.less Score.zero (2 : ℕ∞) = true := by decide
  have measured : Chunk.Measured raggedWords := by simp [Chunk.Measured, raggedWords]
  have h := leastRagged_optimal Score.laws_enat measured 6 hpos
  exact ⟨Score.laws_enat, measured, hpos, by decide, h.1 [1, 2], h.1 [7, 3, 3]⟩

end LineFill
