import LineFill.Proofs.CheckedFiller
import LineFill.Proofs.Optimality
import LineFill.Proofs.SettablePoints

/-!
Judging points from any source. Lines are judged in order up to the first that ends before it starts
or past the last chunk; it has no penalty, and neither has a line that is too wide, so that the
penalties of either add up to infinity. The chunks may be narrower than their ink.
-/
namespace LineFill

/-- A line holds chunks, none of them past the last one. -/
def HoldsChunks (chunks : List Chunk) (line : Nat × Nat) : Prop :=
  line.1 ≤ line.2 ∧ line.2 < chunks.length

instance (chunks : List Chunk) (line : Nat × Nat) : Decidable (HoldsChunks chunks line) :=
  inferInstanceAs (Decidable (_ ∧ _))

theorem not_holdsChunks_iff {chunks : List Chunk} {line : Nat × Nat} :
    ¬ HoldsChunks chunks line ↔ chunks.length ≤ line.2 ∨ line.2 < line.1 := by
  unfold HoldsChunks
  omega

section Order

variable {chunks : List Chunk} {points : List Nat}

/-- Lines that follow each other end in order if none of them ends before it starts. -/
theorem forall_extentsFrom_le_iff (first : Nat) (ends : List Nat) :
    (∀ line ∈ extentsFrom first ends, line.1 ≤ line.2) ↔
      ends.Pairwise (· < ·) ∧ ∀ last ∈ ends, first ≤ last := by
  induction ends generalizing first with
  | nil => simp [extentsFrom]
  | cons last ends ih =>
    rw [extentsFrom, List.forall_mem_cons, ih, List.pairwise_cons, List.forall_mem_cons]
    constructor
    · rintro ⟨hf, ascending, hlater⟩
      exact ⟨⟨hlater, ascending⟩, hf, fun later h => by have := hlater later h; omega⟩
    · rintro ⟨⟨hlater, ascending⟩, hf, -⟩
      exact ⟨hf, ascending, hlater⟩

theorem mem_of_mem_extentsFrom {first : Nat} {ends : List Nat} {line : Nat × Nat}
    (h : line ∈ extentsFrom first ends) : line.2 ∈ ends := by
  induction ends generalizing first with
  | nil => cases h
  | cons last ends ih =>
    rcases List.mem_cons.mp h with rfl | h
    · exact List.mem_cons_self
    · exact List.mem_cons_of_mem _ (ih h)

/-- The points make lines of chunks exactly if they are in order and before the last chunk. -/
theorem holdsChunks_extents_iff (hne : chunks ≠ []) :
    (∀ line ∈ extents chunks points, HoldsChunks chunks line) ↔
      points.Pairwise (· < ·) ∧ ∀ point ∈ points, point < chunks.length - 1 := by
  have hlen := List.length_pos_iff.mpr hne
  have horder := forall_extentsFrom_le_iff 0 (points ++ [chunks.length - 1])
  rw [List.pairwise_append] at horder
  constructor
  · intro h
    obtain ⟨⟨ascending, -, hlast⟩, -⟩ := horder.mp fun line hline => (h line hline).1
    exact ⟨ascending, fun point hpoint => hlast point hpoint _ (List.mem_singleton_self _)⟩
  · rintro ⟨ascending, early⟩ line hline
    have hbefore : ∀ point ∈ points, ∀ last ∈ [chunks.length - 1], point < last := by
      intro point hpoint last hlast
      rw [List.mem_singleton.mp hlast]
      exact early point hpoint
    have hle := horder.mpr
      ⟨⟨ascending, List.pairwise_singleton _ _, hbefore⟩, fun last _ => Nat.zero_le last⟩
      line hline
    refine ⟨hle, ?_⟩
    rcases List.mem_append.mp (mem_of_mem_extentsFrom hline) with hpoint | hlast
    · have := early _ hpoint
      omega
    · rw [List.mem_singleton.mp hlast]
      omega

end Order

variable {K : Type} [Score K]

section Judged

variable (chunks : List Chunk) (width : Nat) (exponent : K)

/-- The penalties of lines up to the first that does not hold chunks. -/
def judged : List (Nat × Nat) → List (Option K)
  | [] => []
  | line :: lines =>
    if HoldsChunks chunks line then
      linePenalty chunks width exponent line.1 line.2 :: judged lines
    else [none]

theorem penaltiesFrom_eq_judged (first : Nat) (ends : List Nat) :
    penaltiesFrom chunks width exponent first ends =
      judged chunks width exponent (extentsFrom first ends) := by
  induction ends generalizing first with
  | nil => rfl
  | cons last ends ih =>
    rw [penaltiesFrom, extentsFrom, judged, ih]
    rfl

theorem penalties_eq_judged {chunks : List Chunk} (hne : chunks ≠ []) (points : List Nat) :
    penalties chunks points width exponent =
      judged chunks width exponent (extents chunks points) := by
  rw [penalties_of_ne_nil hne, penaltiesFrom_eq_judged]
  rfl

variable {chunks width exponent} {lines : List (Nat × Nat)}

theorem judged_append (h : ∀ line ∈ lines, HoldsChunks chunks line) (later : List (Nat × Nat)) :
    judged chunks width exponent (lines ++ later) =
      (lines.map fun line => linePenalty chunks width exponent line.1 line.2) ++
        judged chunks width exponent later := by
  induction lines with
  | nil => rfl
  | cons line lines ih =>
    obtain ⟨hline, hlines⟩ := List.forall_mem_cons.mp h
    rw [List.cons_append, judged, if_pos hline, ih hlines, List.map_cons, List.cons_append]

theorem judged_eq_map (h : ∀ line ∈ lines, HoldsChunks chunks line) :
    judged chunks width exponent lines =
      lines.map fun line => linePenalty chunks width exponent line.1 line.2 := by
  have happend : judged chunks width exponent (lines ++ []) = _ := judged_append h []
  simpa [judged] using happend

theorem judged_cons_of_not {line : Nat × Nat} (h : ¬ HoldsChunks chunks line)
    (later : List (Nat × Nat)) : judged chunks width exponent (line :: later) = [none] := by
  rw [judged, if_neg h]

/-- A line without chunks or one that is too wide leaves its mark, if not an earlier one has. -/
theorem none_mem_judged {line : Nat × Nat} (hline : line ∈ lines)
    (h : ¬ HoldsChunks chunks line ∨ linePenalty chunks width exponent line.1 line.2 = none) :
    none ∈ judged chunks width exponent lines := by
  induction lines with
  | nil => cases hline
  | cons first lines ih =>
    rw [judged]
    split
    · next hfirst =>
      rcases List.mem_cons.mp hline with rfl | hline
      · rw [h.resolve_left (not_not_intro hfirst)]
        exact List.mem_cons_self
      · exact List.mem_cons_of_mem _ (ih hline)
    · exact List.mem_cons_self

theorem exists_of_some_mem_judged {p : K} (h : some p ∈ judged chunks width exponent lines) :
    ∃ first last, linePenalty chunks width exponent first last = some p := by
  induction lines with
  | nil => cases h
  | cons line lines ih =>
    rw [judged] at h
    split at h
    · rcases List.mem_cons.mp h with h | h
      · exact ⟨line.1, line.2, h.symm⟩
      · exact ih h
    · cases List.mem_singleton.mp h

end Judged

namespace Score

/-- Infinity takes up every magnitude that is added to it or that it is added to. Of floats this is
true of the numbers whose sign is plus, and powers are such numbers unless the exponent is none. -/
structure Absorbing (Magnitude : K → Prop) (exponent : K) : Prop
    extends Closed Magnitude exponent where
  infinity : Magnitude Score.infinity
  infinity_add {x : K} : Magnitude x → Score.add Score.infinity x = Score.infinity
  add_infinity {x : K} : Magnitude x → Score.add x Score.infinity = Score.infinity
  sumStart_add {x : K} : Magnitude x → Score.add sumStart x = x

namespace Absorbing

variable {Magnitude : K → Prop} {exponent : K} {scores : List K}

theorem foldl_infinity (laws : Absorbing Magnitude exponent) (hm : ∀ x ∈ scores, Magnitude x) :
    scores.foldl Score.add Score.infinity = Score.infinity := by
  induction scores with
  | nil => rfl
  | cons x scores ih =>
    obtain ⟨hx, hscores⟩ := List.forall_mem_cons.mp hm
    rw [List.foldl_cons, laws.infinity_add hx, ih hscores]

theorem foldl_eq_infinity (laws : Absorbing Magnitude exponent) {sum : K} (hsum : Magnitude sum)
    (hm : ∀ x ∈ scores, Magnitude x) (h : Score.infinity ∈ scores) :
    scores.foldl Score.add sum = Score.infinity := by
  induction scores generalizing sum with
  | nil => cases h
  | cons x scores ih =>
    obtain ⟨hx, hscores⟩ := List.forall_mem_cons.mp hm
    rw [List.foldl_cons]
    rcases List.mem_cons.mp h with rfl | h
    · rw [laws.add_infinity hsum, laws.foldl_infinity hscores]
    · exact ih (laws.add hsum hx) hscores h

theorem sum_eq_infinity (laws : Absorbing Magnitude exponent) (hm : ∀ x ∈ scores, Magnitude x)
    (h : Score.infinity ∈ scores) : Score.sum scores = Score.infinity := by
  cases scores with
  | nil => cases h
  | cons x scores =>
    obtain ⟨hx, hscores⟩ := List.forall_mem_cons.mp hm
    rw [Score.sum, List.foldl_cons, laws.sumStart_add hx]
    rcases List.mem_cons.mp h with rfl | h
    · exact laws.foldl_infinity hscores
    · exact laws.foldl_eq_infinity hx hscores h

theorem totalPenalty_eq_infinity (laws : Absorbing Magnitude exponent)
    {penalties : List (Option K)} (hm : ∀ p, some p ∈ penalties → Magnitude p)
    (h : none ∈ penalties) : totalPenalty penalties = Score.infinity := by
  apply laws.sum_eq_infinity
  · intro x hx
    obtain ⟨option, hoption, rfl⟩ := List.mem_map.mp hx
    cases option with
    | none => exact laws.infinity
    | some p => exact hm p hoption
  · exact List.mem_map.mpr ⟨none, h, rfl⟩

end Absorbing

theorem absorbing_enat (exponent : ℕ∞) : Absorbing (fun _ : ℕ∞ => True) exponent where
  toClosed := (monotone_enat exponent).toClosed
  infinity := trivial
  infinity_add := laws_enat.infinity_add
  add_infinity := laws_enat.add_infinity
  sumStart_add := laws_enat.sumStart_add

end Score

/-- Any points are judged up to the first line that does not hold chunks. All lines do so exactly if
the points are in order and before the last chunk. The sum is infinite if a line does not hold
chunks, or holds two or more and is too wide. On words it is the same, without a fault. -/
theorem penalties_of_points {chunks : List Chunk} (hne : chunks ≠ []) (points : List Nat)
    (width : Nat) (exponent : K) :
    ((∀ line ∈ extents chunks points, HoldsChunks chunks line) ↔
        points.Pairwise (· < ·) ∧ ∀ point ∈ points, point < chunks.length - 1) ∧
      ((∀ line ∈ extents chunks points, HoldsChunks chunks line) →
        penalties chunks points width exponent = (extents chunks points).map (fun line =>
            penalty (Chunk.lineWidth chunks line.1 line.2) width (line.1 = line.2) exponent) ∧
          (penalties chunks points width exponent).length = points.length + 1) ∧
      (∀ lines line later, extents chunks points = lines ++ line :: later →
        (∀ before ∈ lines, HoldsChunks chunks before) →
        chunks.length ≤ line.2 ∨ line.2 < line.1 →
        penalties chunks points width exponent = lines.map (fun line =>
          penalty (Chunk.lineWidth chunks line.1 line.2) width (line.1 = line.2) exponent) ++
            [none]) ∧
      (∀ Magnitude : K → Prop, Score.Absorbing Magnitude exponent →
        ¬ (points.Pairwise (· < ·) ∧ ∀ point ∈ points, point < chunks.length - 1) ∨
          (∃ line ∈ extents chunks points,
            line.1 < line.2 ∧ width < Chunk.lineWidth chunks line.1 line.2) →
        penaltyOf chunks points width exponent = Score.infinity) ∧
      ((∀ first last, first ≤ last → last < chunks.length →
          Chunk.lineWidth chunks first last < Word.limit) →
        chunks.length < Word.limit → points.length + 1 < Word.limit →
        Checked.penalties chunks points width exponent =
          .ok (penalties chunks points width exponent)) := by
  have hjudged := penalties_eq_judged width exponent hne points
  refine ⟨holdsChunks_extents_iff hne, ?_, ?_, ?_, ?_⟩
  · intro h
    have hmap : penalties chunks points width exponent = _ := hjudged.trans (judged_eq_map h)
    exact ⟨hmap, by simp [hmap, extents]⟩
  · intro lines line later hlines h hline
    rw [hjudged, hlines, judged_append h, judged_cons_of_not (not_holdsChunks_iff.mpr hline)]
    rfl
  · intro Magnitude laws h
    have hnone : none ∈ judged chunks width exponent (extents chunks points) := by
      rcases h with hdisorder | ⟨line, hline, hseveral, wide⟩
      · rw [← holdsChunks_extents_iff hne] at hdisorder
        simp only [not_forall] at hdisorder
        obtain ⟨line, hline, hempty⟩ := hdisorder
        exact none_mem_judged hline (Or.inl hempty)
      · have hpenalty : linePenalty chunks width exponent line.1 line.2 = none :=
          penalty_eq_none_iff.mpr ⟨wide, decide_eq_false (by omega)⟩
        exact none_mem_judged hline (Or.inr hpenalty)
    unfold penaltyOf
    rw [hjudged]
    refine laws.totalPenalty_eq_infinity ?_ hnone
    intro p hp
    obtain ⟨first, last, hline⟩ := exists_of_some_mem_judged hp
    exact laws.penalty hline
  · intro hwidths hlen hpoints
    exact Checked.penalties_eq hwidths hlen hpoints width exponent

/-- The end of the last chunk as a point of its own, a point far past the chunks, and a line that is
too wide. -/
theorem penalties_of_points_raggedWords :
    raggedWords ≠ [] ∧ Score.Absorbing (fun _ : ℕ∞ => True) (1 : ℕ∞) ∧
      penalties raggedWords [0, 2, 3] 6 (1 : ℕ∞) = [some 3, some 1, some 1, none] ∧
      penaltyOf raggedWords [0, 2, 3] 6 (1 : ℕ∞) = ⊤ ∧
      Checked.penalties raggedWords [0, Word.limit - 1, 2] 6 (1 : ℕ∞) = .ok [some 3, none] ∧
      penalties raggedWords [2] 6 (1 : ℕ∞) = [none, some 1] ∧
      penaltyOf raggedWords [2] 6 (1 : ℕ∞) = ⊤ := by
  have hne : raggedWords ≠ [] := by decide
  obtain ⟨-, -, hstop, htotal, -⟩ := penalties_of_points hne [0, 2, 3] 6 (1 : ℕ∞)
  obtain ⟨-, -, hfar, -, hword⟩ := penalties_of_points hne [0, Word.limit - 1, 2] 6 (1 : ℕ∞)
  obtain ⟨-, hall, -, hwide, -⟩ := penalties_of_points hne [2] 6 (1 : ℕ∞)
  have hwidths : ∀ first last, first ≤ last → last < raggedWords.length →
      Chunk.lineWidth raggedWords first last < Word.limit := by
    intro first last hf hl
    exact Nat.lt_of_le_of_lt (Chunk.lineWidth_le_totalWidth (by decide) hf hl) (by decide)
  refine ⟨hne, Score.absorbing_enat 1, ?_, ?_, ?_, ?_, ?_⟩
  · exact hstop [(0, 0), (1, 2), (3, 3)] (4, 3) [] rfl (by decide) (by decide)
  · exact htotal _ (Score.absorbing_enat 1) (Or.inl (by decide))
  · rw [hword hwidths (by decide) (by decide)]
    exact congrArg _ (hfar [(0, 0)] (1, Word.limit - 1) _ rfl (by decide) (by decide))
  · exact (hall (by decide)).1
  · exact hwide _ (Score.absorbing_enat 1) (Or.inr ⟨(0, 2), by decide, by decide, by decide⟩)

end LineFill
