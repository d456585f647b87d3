import LineFill.Proofs.LineEnds
import LineFill.Proofs.ScoreLaws

/-!
Lists of points as lines. Points can be set if they end lines one after the other, leave a chunk
for the last line and make no line too wide; then the lines hold all chunks, and each has a penalty.
Both methods make such points, whatever the scores are.
-/
namespace LineFill

/-- The first and the last chunk of each line, when lines end with the given chunks and the first of
them starts with chunk `first`. -/
def extentsFrom (first : Nat) : List Nat → List (Nat × Nat)
  | [] => []
  | last :: ends => (first, last) :: extentsFrom (last + 1) ends

/-- The first and the last chunk of each line that the points make of the chunks. -/
def extents (chunks : List Chunk) (points : List Nat) : List (Nat × Nat) :=
  extentsFrom 0 (points ++ [chunks.length - 1])

/-- The points end lines in order and before the last chunk, and every line of more than one chunk
is at most as wide as allowed. -/
structure Settable (chunks : List Chunk) (width : Nat) (points : List Nat) : Prop where
  ascending : points.Pairwise (· < ·)
  early : ∀ point ∈ points, point + 1 < chunks.length
  fits : ∀ line ∈ extents chunks points, Fits chunks width line.1 line.2

instance (chunks : List Chunk) (width first last : Nat) :
    Decidable (Fits chunks width first last) :=
  inferInstanceAs (Decidable (_ ∨ _))

instance (chunks : List Chunk) (width : Nat) (points : List Nat) :
    Decidable (Settable chunks width points) :=
  decidable_of_iff
    (points.Pairwise (· < ·) ∧ (∀ point ∈ points, point + 1 < chunks.length) ∧
      ∀ line ∈ extents chunks points, Fits chunks width line.1 line.2)
    ⟨fun ⟨ascending, early, fits⟩ => ⟨ascending, early, fits⟩,
      fun ⟨ascending, early, fits⟩ => ⟨ascending, early, fits⟩⟩

variable {chunks : List Chunk} {width : Nat} {points : List Nat}

@[simp] theorem length_extentsFrom (first : Nat) (ends : List Nat) :
    (extentsFrom first ends).length = ends.length := by
  induction ends generalizing first with
  | nil => rfl
  | cons last ends ih => simp [extentsFrom, ih]

namespace Sets

variable {first stop : Nat} {ends : List Nat}

theorem fits_of_mem (h : Sets chunks width first ends stop) :
    ∀ line ∈ extentsFrom first ends, Fits chunks width line.1 line.2 := by
  induction h with
  | done first =>
    intro line hline
    cases hline
  | line hf hl fits rest ih => exact List.forall_mem_cons.mpr ⟨fits, ih⟩

/-- Lines that are in order and fit follow each other up to the end of the last. -/
theorem of_pairwise {last : Nat} (hl : last < chunks.length)
    (hf : ∀ point ∈ points ++ [last], first ≤ point)
    (ascending : (points ++ [last]).Pairwise (· < ·))
    (fits : ∀ line ∈ extentsFrom first (points ++ [last]), Fits chunks width line.1 line.2) :
    Sets chunks width first (points ++ [last]) (last + 1) := by
  induction points generalizing first with
  | nil =>
    have hlast : first ≤ last := hf last (List.mem_singleton_self last)
    exact line hlast hl (fits (first, last) List.mem_cons_self) (done (last + 1))
  | cons point points ih =>
    obtain ⟨hlater, ascending⟩ := List.pairwise_cons.mp ascending
    obtain ⟨hfits, fits⟩ := List.forall_mem_cons.mp fits
    have hpoint : point < last :=
      hlater last (List.mem_append_right points (List.mem_singleton_self last))
    exact line (hf point List.mem_cons_self) (by omega) hfits (ih hlater ascending fits)

variable {K : Type} [Score K]

/-- The penalties of lines that can be set are those of their extents. -/
theorem penaltiesFrom_eq (h : Sets chunks width first ends stop) (exponent : K) :
    penaltiesFrom chunks width exponent first ends =
      (extentsFrom first ends).map fun line => linePenalty chunks width exponent line.1 line.2 := by
  induction h with
  | done first => rfl
  | line hf hl fits rest ih => rw [penaltiesFrom, if_pos ⟨hf, hl⟩, ih, extentsFrom, List.map_cons]

theorem none_not_mem_penaltiesFrom (h : Sets chunks width first ends stop) (exponent : K) :
    none ∉ penaltiesFrom chunks width exponent first ends := by
  rw [h.penaltiesFrom_eq exponent, List.mem_map]
  rintro ⟨line, hline, hnone⟩
  have hsome : (linePenalty chunks width exponent line.1 line.2).isSome :=
    isSome_linePenalty_iff.mpr (h.fits_of_mem line hline)
  rw [hnone] at hsome
  cases hsome

end Sets

/-- Points can be set if and only if their lines hold all chunks. -/
theorem settable_iff_sets (hne : chunks ≠ []) : Settable chunks width points ↔
    Sets chunks width 0 (points ++ [chunks.length - 1]) chunks.length := by
  have hlen : chunks.length - 1 + 1 = chunks.length :=
    Nat.sub_add_cancel (List.length_pos_iff.mpr hne)
  constructor
  · intro h
    have ascending : (points ++ [chunks.length - 1]).Pairwise (· < ·) := by
      refine List.pairwise_append.mpr ⟨h.ascending, List.pairwise_singleton _ _, ?_⟩
      intro point hpoint last hlast
      have hearly := h.early point hpoint
      rw [List.mem_singleton.mp hlast]
      omega
    have hsets := Sets.of_pairwise (by omega) (fun point _ => Nat.zero_le point) ascending h.fits
    rwa [hlen] at hsets
  · intro h
    refine ⟨(List.pairwise_append.mp h.pairwise).1, ?_, h.fits_of_mem⟩
    intro point hpoint
    have hearly := h.lt_of_mem_append hpoint
    omega

theorem settable_nil (width : Nat) : Settable [] width [] := by
  constructor <;> simp [extents, extentsFrom, Fits]

variable {K : Type} [Score K]

theorem Method.settable_points (measured : Chunk.Measured chunks) (width : Nat)
    (method : Method K) : Settable chunks width (method.points chunks width) := by
  by_cases hne : chunks = []
  · subst hne
    rw [Method.points_nil]
    exact settable_nil width
  · exact (settable_iff_sets hne).mpr (method.sets_points measured hne width)

/-- Lines that can be set are judged one by one, and each of them has a penalty. -/
theorem Settable.penalties (h : Settable chunks width points) (hne : chunks ≠ []) (exponent : K) :
    (penalties chunks points width exponent).length = points.length + 1 ∧
      none ∉ LineFill.penalties chunks points width exponent := by
  have hsets := (settable_iff_sets hne).mp h
  rw [penalties_of_ne_nil hne]
  refine ⟨?_, hsets.none_not_mem_penaltiesFrom exponent⟩
  simp [hsets.penaltiesFrom_eq exponent]

/-- Both methods, whatever the exponent, end lines in order and before the last chunk, and every
line has a penalty for any exponent. There is one penalty more than points unless there is no
chunk. -/
theorem Method.points_feasible (measured : Chunk.Measured chunks) (width : Nat)
    (method : Method K) :
    (method.points chunks width).Pairwise (· < ·) ∧
      (∀ point ∈ method.points chunks width, point + 1 < chunks.length) ∧
      (chunks.length ≤ 1 → method.points chunks width = []) ∧
      ∀ exponent : K,
        (penalties chunks (method.points chunks width) width exponent).length =
            (if chunks = [] then 0 else (method.points chunks width).length + 1) ∧
          none ∉ penalties chunks (method.points chunks width) width exponent := by
  have h := method.settable_points measured width
  refine ⟨h.ascending, h.early, ?_, ?_⟩
  · intro hlen
    apply List.eq_nil_iff_forall_not_mem.mpr
    intro point hpoint
    have hearly := h.early point hpoint
    omega
  · intro exponent
    by_cases hne : chunks = []
    · subst hne
      exact ⟨rfl, List.not_mem_nil⟩
    · rw [if_neg hne]
      exact h.penalties hne exponent

/-- The chunks of `ab longword`, a blank, a tab and `cd`. The tab is a chunk without ink. -/
def wideWords : List Chunk :=
  [⟨0, 3, 2, 3, 2⟩, ⟨3, 12, 11, 9, 8⟩, ⟨12, 13, 12, 1, 0⟩, ⟨13, 15, 15, 2, 2⟩]

theorem Method.points_feasible_wideWords :
    Chunk.Measured wideWords ∧
      ((Method.leastRagged (2 : ℕ∞)).points wideWords 5 = [0, 1] ∧
        penalties wideWords [0, 1] 5 (1 : ℕ∞) = [some 3, some 0, some 2] ∧
        none ∉ penalties wideWords [0, 1] 5 (1 : ℕ∞)) ∧
      ((Method.leastRagged (0 / 0 : Float)).points wideWords 0).Pairwise (· < ·) ∧
      none ∉ penalties wideWords ((Method.leastRagged (0 / 0 : Float)).points wideWords 0) 0
        (-1 : Float) := by
  have measured : Chunk.Measured wideWords := by decide
  have hcost := points_feasible measured 5 (.leastRagged (2 : ℕ∞))
  have hfloat := points_feasible measured 0 (.leastRagged (0 / 0 : Float))
  have hpoints : (Method.leastRagged (2 : ℕ∞)).points wideWords 5 = [0, 1] := by decide
  have hnone := (hcost.2.2.2 1).2
  rw [hpoints] at hnone
  exact ⟨measured, ⟨hpoints, by decide, hnone⟩, hfloat.1, (hfloat.2.2.2 (-1)).2⟩

/-- Without chunks there is no point, and yet no penalty. -/
theorem length_penalties_nil_ne :
    Chunk.Measured [] ∧
      (penalties [] ((Method.firstFit : Method Float).points [] 0) 0 (2 : Float)).length ≠
        ((Method.firstFit : Method Float).points [] 0).length + 1 := by
  refine ⟨?_, Nat.zero_ne_one⟩
  intro chunk hchunk
  cases hchunk

end LineFill
