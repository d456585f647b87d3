import LineFill.Proofs.SettablePoints

/-!
The lines of first fit. Among the points that can be set they are the only ones where each line ends
by need, since it would be too wide with one chunk more. Such points stay ahead of all others, which
makes the lines of first fit the fewest.
-/
namespace LineFill

/-- Lines that end with the given chunks, the first from chunk `first` on, would each be too wide
with the chunk that follows. -/
def Forced (chunks : List Chunk) (width first : Nat) (ends : List Nat) : Prop :=
  ∀ line ∈ extentsFrom first ends, width < Chunk.lineWidth chunks line.1 (line.2 + 1)

instance (chunks : List Chunk) (width first : Nat) (ends : List Nat) :
    Decidable (Forced chunks width first ends) :=
  inferInstanceAs (Decidable (∀ line ∈ _, _))

variable {chunks : List Chunk} {width : Nat} {points others : List Nat}

theorem forced_nil (chunks : List Chunk) (width first : Nat) : Forced chunks width first [] := by
  intro line hline
  cases hline

theorem forced_cons {first last : Nat} {ends : List Nat} :
    Forced chunks width first (last :: ends) ↔
      width < Chunk.lineWidth chunks first (last + 1) ∧ Forced chunks width (last + 1) ends :=
  List.forall_mem_cons

section Existence

theorem FirstFit.Run.forced {first last : Nat} (h : Run chunks width first last points) :
    Forced chunks width first points := by
  induction h with
  | done hend => exact forced_nil chunks width _
  | next hlt wide rest ih => exact forced_cons.mpr ⟨wide, ih⟩
  | stay hlt fits rest ih => exact ih

theorem forced_firstFit (chunks : List Chunk) (width : Nat) :
    Forced chunks width 0 (firstFit width chunks) := by
  by_cases hne : chunks = []
  · subst hne
    exact forced_nil [] width 0
  · exact (FirstFit.run_firstFit hne).forced

theorem settable_firstFit (chunks : List Chunk) (width : Nat) :
    Settable chunks width (firstFit width chunks) := by
  by_cases hne : chunks = []
  · subst hne
    exact settable_nil width
  · exact (settable_iff_sets hne).mpr (sets_firstFit hne)

end Existence

section Comparison

/-- Point by point the first list is not behind the second, which does not end earlier. -/
def Ahead (points others : List Nat) : Prop :=
  ∀ (i point : Nat), points[i]? = some point → ∃ other ≤ point, others[i]? = some other

theorem ahead_nil (others : List Nat) : Ahead [] others := by
  intro i point hpoint
  cases hpoint

theorem Ahead.cons {point other : Nat} (hle : other ≤ point) (h : Ahead points others) :
    Ahead (point :: points) (other :: others) := by
  intro i later hlater
  cases i with
  | zero =>
    obtain rfl := Option.some.inj hlater
    exact ⟨other, hle, rfl⟩
  | succ i => exact h i later hlater

theorem Ahead.length_le (h : Ahead points others) : points.length ≤ others.length := by
  by_contra hlt
  obtain ⟨other, -, hother⟩ := h others.length _ (List.getElem?_eq_getElem (by omega))
  rw [List.getElem?_eq_none (Nat.le_refl _)] at hother
  cases hother

theorem Ahead.antisymm (h : Ahead points others) (h' : Ahead others points) : points = others := by
  apply List.ext_getElem?
  intro i
  cases hpoint : points[i]? with
  | none =>
    have hlen := List.getElem?_eq_none_iff.mp hpoint
    have hle := h'.length_le
    exact (List.getElem?_eq_none (by omega)).symm
  | some point =>
    obtain ⟨other, hle, hother⟩ := h i point hpoint
    obtain ⟨point', hle', hpoint'⟩ := h' i other hother
    rw [hpoint] at hpoint'
    obtain rfl := Option.some.inj hpoint'
    rw [hother, Nat.le_antisymm hle' hle]

/-- Past the end of a line that ended by need, no line fits that starts with it or before. -/
theorem not_fits_of_wide (measured : Chunk.Measured chunks) {start first last stop : Nat}
    (hs : start ≤ first) (hf : first ≤ last) (hl : last < stop) (hstop : stop < chunks.length)
    (wide : width < Chunk.lineWidth chunks first (last + 1)) : ¬ Fits chunks width start stop := by
  rintro (rfl | hwidth)
  · omega
  · have hstart := Chunk.lineWidth_anti_first chunks hs (show first ≤ stop by omega)
    have hlast := Chunk.lineWidth_mono_last measured (show first ≤ last + 1 by omega) hl hstop
    omega

/-- Lines that end by need stay ahead of all others that do not start after them. -/
theorem Forced.ahead (measured : Chunk.Measured chunks) {start first : Nat} (hs : start ≤ first)
    (forced : Forced chunks width first points)
    (hpoints : Sets chunks width first (points ++ [chunks.length - 1]) chunks.length)
    (hothers : Sets chunks width start (others ++ [chunks.length - 1]) chunks.length) :
    Ahead points others := by
  induction points generalizing start first others with
  | nil => exact ahead_nil others
  | cons point points ih =>
    obtain ⟨wide, forced⟩ := forced_cons.mp forced
    have hearly : point < chunks.length - 1 := hpoints.lt_of_mem_append List.mem_cons_self
    obtain ⟨hf, -, -, rest⟩ := Sets.of_cons hpoints
    cases others with
    | nil =>
      -- the last line of the others would start before this one and end after it
      obtain ⟨-, hl, fits, -⟩ := Sets.of_cons hothers
      exact absurd fits (not_fits_of_wide measured hs hf hearly hl wide)
    | cons other others =>
      obtain ⟨-, hl, fits, rest'⟩ := Sets.of_cons hothers
      have hother : other ≤ point := by
        by_contra hlt
        exact not_fits_of_wide measured hs hf (by omega) hl wide fits
      exact Ahead.cons hother (ih (by omega) forced rest rest')

theorem Settable.ahead (measured : Chunk.Measured chunks) (hpoints : Settable chunks width points)
    (forced : Forced chunks width 0 points) (hothers : Settable chunks width others) :
    Ahead points others := by
  by_cases hne : chunks = []
  · intro i point hpoint
    have hearly := hpoints.early point (List.mem_of_getElem? hpoint)
    rw [hne] at hearly
    cases hearly
  · exact forced.ahead measured (Nat.le_refl 0) ((settable_iff_sets hne).mp hpoints)
      ((settable_iff_sets hne).mp hothers)

end Comparison

/-- First fit makes the only points that can be set and end each line by need. -/
theorem eq_firstFit_iff (measured : Chunk.Measured chunks) (width : Nat) (points : List Nat) :
    points = firstFit width chunks ↔
      Settable chunks width points ∧
        ∀ line ∈ extentsFrom 0 points, width < Chunk.lineWidth chunks line.1 (line.2 + 1) := by
  have hfirst := settable_firstFit chunks width
  have hforced := forced_firstFit chunks width
  constructor
  · rintro rfl
    exact ⟨hfirst, hforced⟩
  · rintro ⟨hpoints, forced⟩
    exact (hpoints.ahead measured forced hfirst).antisymm (hfirst.ahead measured hforced hpoints)

theorem eq_firstFit_iff_wideWords :
    Chunk.Measured wideWords ∧ [0, 1] = firstFit 5 wideWords ∧
      Settable wideWords 5 [0, 1, 2] ∧ [0, 1, 2] ≠ firstFit 5 wideWords := by
  have measured : Chunk.Measured wideWords := by decide
  have hforced : ∀ line ∈ extentsFrom 0 [0, 1],
      5 < Chunk.lineWidth wideWords line.1 (line.2 + 1) := by decide
  have hloose : ¬ ∀ line ∈ extentsFrom 0 [0, 1, 2],
      5 < Chunk.lineWidth wideWords line.1 (line.2 + 1) := by decide
  refine ⟨measured, (eq_firstFit_iff measured 5 [0, 1]).mpr ⟨by decide, hforced⟩, by decide, ?_⟩
  intro heq
  exact hloose ((eq_firstFit_iff measured 5 [0, 1, 2]).mp heq).2

/-- No points that can be set make fewer lines than first fit, and none of its lines ends before the
line of the same number that they make. Those of least ragged filling are among them for every
exponent. -/
theorem firstFit_fewest {K : Type} [Score K] (measured : Chunk.Measured chunks) (width : Nat) :
    (∀ points, Settable chunks width points →
      (firstFit width chunks).length ≤ points.length ∧
        ∀ (i latest : Nat), (firstFit width chunks)[i]? = some latest →
          ∃ point ≤ latest, points[i]? = some point) ∧
      ∀ exponent : K,
        (firstFit width chunks).length ≤ (leastRagged chunks width exponent).length := by
  have hahead {points : List Nat} (hpoints : Settable chunks width points) :
      Ahead (firstFit width chunks) points :=
    (settable_firstFit chunks width).ahead measured (forced_firstFit chunks width) hpoints
  constructor
  · intro points hpoints
    exact ⟨(hahead hpoints).length_le, hahead hpoints⟩
  · intro exponent
    exact (hahead (Method.settable_points measured width (.leastRagged exponent))).length_le

theorem firstFit_fewest_wideWords :
    Chunk.Measured wideWords ∧ firstFit 13 wideWords = [2] ∧ Settable wideWords 13 [0] ∧
      (firstFit 13 wideWords).length ≤ [0].length ∧ (∃ point ≤ 2, [0][0]? = some point) ∧
      (firstFit 13 wideWords).length ≤ (leastRagged wideWords 13 (0 / 0 : Float)).length := by
  have measured : Chunk.Measured wideWords := by decide
  have hpoints : firstFit 13 wideWords = [2] := by decide
  have hsettable : Settable wideWords 13 [0] := by decide
  obtain ⟨hall, hleast⟩ := firstFit_fewest (K := Float) measured 13
  obtain ⟨hlen, hahead⟩ := hall [0] hsettable
  exact ⟨measured, hpoints, hsettable, hlen, hahead 0 2 (by rw [hpoints]; rfl), hleast (0 / 0)⟩

end LineFill
