import LineFill.Proofs.Optimality
import LineFill.Proofs.SettablePoints

/-!
When a break is needed. Both methods keep chunks on one line if they fit there and break them
otherwise; least ragged filling does so because no sum of penalties is less than that of the single
line, which is tried first and so is kept if others cost as much.
-/
namespace LineFill

variable {K : Type} [Score K] {Magnitude : K → Prop} {exponent : K} {chunks : List Chunk}
  {width : Nat}

namespace Plan

theorem foldl_better_eq_self {plan : Plan K} {plans : List (Plan K)}
    (h : ∀ next ∈ plans, Score.less next.total plan.total = false) :
    plans.foldl better plan = plan := by
  induction plans with
  | nil => rfl
  | cons next plans ih =>
    have hnext : better plan next = plan := by
      unfold better
      rw [h next List.mem_cons_self, if_neg Bool.false_ne_true]
    rw [List.foldl_cons, hnext]
    apply ih
    intro later hlater
    exact h later (List.mem_cons_of_mem next hlater)

/-- No plan is better than a single line that fits. -/
theorem not_less_single (laws : Score.Monotone Magnitude exponent) {last : Nat}
    (hwidth : Chunk.lineWidth chunks 0 last ≤ width) {p : K}
    (hp : linePenalty chunks width exponent 0 last = some p) {plan : Plan K}
    (hplan : plan ∈ candidates chunks width exponent last) :
    Score.less plan.total ((best chunks width exponent 0).addLine last p).total = false := by
  obtain ⟨first, hf, p', hp', rfl⟩ := mem_candidates.mp hplan
  have hle := Chunk.lineWidth_anti_first chunks (Nat.zero_le first) hf
  have hm : Magnitude p := laws.penalty hp
  have hm' : Magnitude p' := laws.penalty hp'
  have htotal := magnitude_best laws.toClosed chunks width first
  have hless : Score.less p' p = false := by
    unfold linePenalty penalty at hp hp'
    rw [if_neg (by omega)] at hp hp'
    rw [← Option.some.inj hp, ← Option.some.inj hp']
    exact laws.pow_mono (laws.ofNat _) (laws.ofNat _) (laws.ofNat_mono (by omega))
  have hzero : ((best chunks width exponent 0).addLine last p).total = p := by
    rw [best_zero]
    exact laws.zero_add hm
  rw [hzero]
  exact laws.trans hm hm' (laws.add htotal hm') hless (laws.summand htotal hm')

theorem exists_candidates_eq_cons {last : Nat} {p : K}
    (hp : linePenalty chunks width exponent 0 last = some p) :
    ∃ later, candidates chunks width exponent last =
      (best chunks width exponent 0).addLine last p :: later := by
  unfold candidates
  rw [List.range_succ_eq_map, List.filterMap_cons, hp]
  exact ⟨_, rfl⟩

theorem ends_best_of_fits (laws : Score.Monotone Magnitude exponent) {last : Nat}
    (fits : Fits chunks width 0 last) : (best chunks width exponent (last + 1)).ends = [last] := by
  rcases fits with rfl | hwidth
  · obtain ⟨first, hf, p, -, hbest⟩ := exists_best_succ chunks width exponent 0
    obtain rfl : first = 0 := Nat.le_zero.mp hf
    rw [hbest, best_zero]
    rfl
  · obtain ⟨p, hp⟩ := Option.isSome_iff_exists.mp
      (isSome_linePenalty_iff.mpr (Or.inr hwidth) : (linePenalty chunks width exponent 0 last).isSome)
    -- the single line is the first candidate, and a later one would have to be better
    obtain ⟨later, hlater⟩ := exists_candidates_eq_cons hp
    have hbest := best?_candidates chunks width exponent last
    have hkeep : later.foldl better ((best chunks width exponent 0).addLine last p) =
        (best chunks width exponent 0).addLine last p := by
      apply foldl_better_eq_self
      intro next hnext
      apply not_less_single laws hwidth hp
      rw [hlater]
      exact List.mem_cons_of_mem _ hnext
    rw [hlater, best?, hkeep] at hbest
    rw [← Option.some.inj hbest, best_zero]
    rfl

end Plan

theorem leastRagged_eq_nil (laws : Score.Monotone Magnitude exponent)
    (measured : Chunk.Measured chunks) (fits : Fits chunks width 0 (chunks.length - 1)) :
    leastRagged chunks width exponent = [] := by
  unfold leastRagged
  rw [leastRaggedPlan_eq_best measured]
  cases hlen : chunks.length with
  | zero =>
    rw [Plan.best_zero]
    rfl
  | succ last =>
    rw [hlen, Nat.add_sub_cancel] at fits
    unfold Plan.points
    rw [Plan.ends_best_of_fits laws fits]
    rfl

theorem firstFit_eq_nil (measured : Chunk.Measured chunks)
    (fits : Fits chunks width 0 (chunks.length - 1)) : firstFit width chunks = [] := by
  rcases List.eq_nil_or_concat chunks with rfl | ⟨front, last, rfl⟩
  · rfl
  rw [List.concat_eq_append] at measured fits ⊢
  cases front with
  | nil => rfl
  | cons chunk line =>
    have hwidth : chunk.width + Chunk.totalWidth line + last.inkWidth ≤ width := by
      rcases fits with hsingle | hwidth
      · simp at hsingle
      · simpa [Chunk.lineWidth] using hwidth
    have hline : Chunk.Measured line := by
      intro c hc
      exact measured c (by simp [hc])
    rw [List.cons_append, firstFit, FirstFit.points_append hline (by omega), FirstFit.points,
      if_neg (by omega)]
    rfl

namespace Method

/-- Chunks that fit on one line are put on one line. -/
theorem points_eq_nil (method : Method K)
    (laws : ∀ exponent, method = .leastRagged exponent → Score.Monotone Magnitude exponent)
    (measured : Chunk.Measured chunks) (fits : Fits chunks width 0 (chunks.length - 1)) :
    method.points chunks width = [] := by
  cases method with
  | firstFit => exact firstFit_eq_nil measured fits
  | leastRagged exponent => exact leastRagged_eq_nil (laws exponent rfl) measured fits

/-- A method that makes no point has put all chunks on a line that can be set, whatever the scores
are. -/
theorem fits_of_points_eq_nil (measured : Chunk.Measured chunks) {method : Method K}
    (h : method.points chunks width = []) : Fits chunks width 0 (chunks.length - 1) := by
  have hsettable := method.settable_points measured width
  rw [h] at hsettable
  exact hsettable.fits (0, chunks.length - 1) List.mem_cons_self

/-- The method of an exponent makes no point if and only if there is at most one chunk or all chunks
fit on one line. The laws are asked of positive exponents only, since first fit adds no scores. -/
theorem points_ofExponent_eq_nil_iff
    (laws : Score.less Score.zero exponent = true → Score.Monotone Magnitude exponent)
    (measured : Chunk.Measured chunks) (width : Nat) :
    (ofExponent exponent).points chunks width = [] ↔
      chunks.length ≤ 1 ∨ Chunk.lineWidth chunks 0 (chunks.length - 1) ≤ width := by
  have hfits : Fits chunks width 0 (chunks.length - 1) ↔
      chunks.length ≤ 1 ∨ Chunk.lineWidth chunks 0 (chunks.length - 1) ≤ width :=
    or_congr_left (by omega)
  have hlaws : ∀ exponent', ofExponent exponent = .leastRagged exponent' →
      Score.Monotone Magnitude exponent' := by
    intro exponent' hmethod
    unfold ofExponent at hmethod
    split at hmethod
    · next hpos =>
      cases hmethod
      exact laws hpos
    · cases hmethod
  rw [← hfits]
  exact ⟨fits_of_points_eq_nil measured, points_eq_nil _ hlaws measured⟩

/-- All sums of positive penalties are infinite with the exponent `⊤`, and an exponent that is not a
number selects first fit. -/
theorem points_ofExponent_eq_nil_iff_raggedWords :
    Chunk.Measured raggedWords ∧ Score.Monotone (fun _ : ℕ∞ => True) (⊤ : ℕ∞) ∧
      ((ofExponent (⊤ : ℕ∞)).points raggedWords 15 = [] ∧
        (ofExponent (⊤ : ℕ∞)).points raggedWords 14 ≠ []) ∧
      Score.less Score.zero (0 / 0 : Float) = false ∧
      ((ofExponent (0 / 0 : Float)).points raggedWords 15 = [] ∧
        (ofExponent (0 / 0 : Float)).points raggedWords 14 ≠ []) := by
  have measured : Chunk.Measured raggedWords := by decide
  have laws : Score.less Score.zero (⊤ : ℕ∞) = true →
      Score.Monotone (fun _ : ℕ∞ => True) (⊤ : ℕ∞) := fun _ => Score.monotone_enat ⊤
  have hfloat : Score.less Score.zero (0 / 0 : Float) = true →
      Score.Monotone (fun _ : Float => True) (0 / 0 : Float) := by
    intro hpos
    cases hpos
  exact ⟨measured, Score.monotone_enat ⊤,
    ⟨(points_ofExponent_eq_nil_iff laws measured 15).mpr (by decide),
      mt (points_ofExponent_eq_nil_iff laws measured 14).mp (by decide)⟩,
    rfl,
    ⟨(points_ofExponent_eq_nil_iff hfloat measured 15).mpr (by decide),
      mt (points_ofExponent_eq_nil_iff hfloat measured 14).mp (by decide)⟩⟩

end Method

end LineFill
