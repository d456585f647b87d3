import LineFill.Proofs.AnyPoints

/-!
The entries of the table of penalties, for all numbers of chunks. Although a row adds up widths and
ends early, each entry is the penalty of its line, and the penalties of any points are read off the
table line by line.
-/
namespace LineFill

variable {K : Type} [Score K]

namespace PenaltyTable

/-- A row has an entry for each line up to the last that it stores. -/
theorem isSome_get?_iff {K : Type} {table : PenaltyTable K} {first : Nat} {row : List K}
    (hrow : table.rows[first]? = some row) (last : Nat) :
    (table.get? first last).isSome ↔ first ≤ last ∧ last < first + row.length := by
  unfold get?
  by_cases hf : first ≤ last
  · have hindex : last - first < row.length ↔ last < first + row.length := by omega
    rw [if_pos hf, hrow]
    simp [bind, hf, hindex]
  · simp [hf]

variable {chunks : List Chunk} {width : Nat} {exponent : K}

theorem get?_build_eq_none (measured : Chunk.Measured chunks) {first last : Nat}
    (h : ¬ HoldsChunks chunks (first, last)) :
    (build chunks width exponent).get? first last = none := by
  unfold get?
  split
  · next hf =>
    have hl : ¬ last - first < (chunks.drop first).length := by
      intro hlt
      rw [List.length_drop] at hlt
      exact h ⟨hf, by omega⟩
    have hrow : (growing width exponent 0 true (chunks.drop first))[last - first]? = none := by
      rw [getElem?_growing (measured.drop first), if_neg hl]
    simp only [build, getElem?_rowsOf]
    split
    · exact hrow
    · rfl
  · rfl

theorem get?_build_eq_ite (measured : Chunk.Measured chunks) (width : Nat) (exponent : K)
    (first last : Nat) :
    (build chunks width exponent).get? first last =
      if HoldsChunks chunks (first, last) then linePenalty chunks width exponent first last
      else none := by
  split
  · next h => exact get?_build measured width exponent h.1 h.2
  · next h => exact get?_build_eq_none measured h

/-- The lines from a chunk on can be set up to one of them, and none after it. -/
theorem exists_stop (measured : Chunk.Measured chunks) (width : Nat) (exponent : K) {first : Nat}
    (hf : first < chunks.length) :
    ∃ stop, first < stop ∧ stop ≤ chunks.length ∧ ∀ last,
      ((build chunks width exponent).get? first last).isSome ↔ first ≤ last ∧ last < stop := by
  have hrow : (build chunks width exponent).rows[first]? =
      some (growing width exponent 0 true (chunks.drop first)) := by
    rw [build, getElem?_rowsOf, if_pos hf]
  have hstored := isSome_get?_iff hrow
  refine ⟨_, ?_, ?_, hstored⟩
  · have hsingle : ((build chunks width exponent).get? first first).isSome := by
      rw [get?_build measured width exponent (Nat.le_refl first) hf, isSome_linePenalty_iff]
      exact Or.inl rfl
    exact ((hstored first).mp hsingle).2
  · by_contra hlate
    have hpast := (hstored chunks.length).mpr ⟨by omega, by omega⟩
    rw [get?_build_eq_none measured fun h => Nat.lt_irrefl _ h.2] at hpast
    cases hpast

theorem judged_prefix (measured : Chunk.Measured chunks) (lines : List (Nat × Nat)) :
    judged chunks width exponent lines <+:
      lines.map fun line => (build chunks width exponent).get? line.1 line.2 := by
  induction lines with
  | nil => exact List.nil_prefix
  | cons line lines ih =>
    rw [judged, List.map_cons, get?_build_eq_ite measured]
    split
    · exact List.cons_prefix_cons.mpr ⟨rfl, ih⟩
    · exact List.cons_prefix_cons.mpr ⟨rfl, List.nil_prefix⟩

/-- Every entry is the penalty of its line, and there is none for lines without chunks or past them.
The penalties of any points are the entries of their lines, of all lines if the points are in order
and before the last chunk. A row goes up to some line and no further. The table on words has the
same entries and is made without a fault. -/
theorem get?_build_eq_penalty (measured : Chunk.Measured chunks) (width : Nat) (exponent : K) :
    (∀ first last, (build chunks width exponent).get? first last =
        if first ≤ last ∧ last < chunks.length then
          penalty (Chunk.lineWidth chunks first last) width (first = last) exponent
        else none) ∧
      (∀ points, penalties chunks points width exponent <+: (extents chunks points).map fun line =>
        (build chunks width exponent).get? line.1 line.2) ∧
      (∀ points, chunks ≠ [] → points.Pairwise (· < ·) →
        (∀ point ∈ points, point < chunks.length - 1) →
        penalties chunks points width exponent = (extents chunks points).map fun line =>
          (build chunks width exponent).get? line.1 line.2) ∧
      (∀ first < chunks.length, ∃ stop, first < stop ∧ stop ≤ chunks.length ∧ ∀ last,
        ((build chunks width exponent).get? first last).isSome ↔ first ≤ last ∧ last < stop) ∧
      (Chunk.totalWidth chunks < Word.limit →
        ∃ rows, Checked.PenaltyTable.build chunks width exponent = .ok rows ∧
          ∀ first last, Checked.PenaltyTable.get? rows first last =
            .ok ((build chunks width exponent).get? first last)) := by
  have hentry := get?_build_eq_ite measured width exponent
  refine ⟨hentry, ?_, ?_, fun first hf => exists_stop measured width exponent hf, ?_⟩
  · intro points
    by_cases hne : chunks = []
    · subst hne
      exact List.nil_prefix
    · rw [penalties_eq_judged width exponent hne]
      exact judged_prefix measured _
  · intro points hne ascending early
    have h := (holdsChunks_extents_iff hne).mpr ⟨ascending, early⟩
    rw [penalties_eq_judged width exponent hne, judged_eq_map h]
    apply List.map_congr_left
    intro line hline
    rw [hentry, if_pos (h line hline)]
  · intro hwidth
    exact ⟨_, Checked.PenaltyTable.build_eq measured hwidth, Checked.PenaltyTable.get?_eq _⟩

/-- The row that starts with the chunk that is too wide ends after it. -/
theorem get?_build_eq_penalty_wideWords :
    Chunk.Measured wideWords ∧ Chunk.totalWidth wideWords < Word.limit ∧
      (build wideWords 5 (2 : ℕ∞)).get? 1 1 = some 0 ∧
      (build wideWords 5 (2 : ℕ∞)).get? 2 3 = some 4 ∧
      (∀ last, ((build wideWords 5 (2 : ℕ∞)).get? 1 last).isSome ↔ last = 1) ∧
      penalties wideWords [0, 1] 5 (2 : ℕ∞) =
        [(0, 0), (1, 1), (2, 3)].map (fun line =>
          (build wideWords 5 (2 : ℕ∞)).get? line.1 line.2) ∧
      ∃ rows, Checked.PenaltyTable.build wideWords 5 (0 / 0 : Float) = .ok rows ∧
        Checked.PenaltyTable.get? rows 1 2 = .ok none := by
  have measured : Chunk.Measured wideWords := by decide
  have hwidth : Chunk.totalWidth wideWords < Word.limit := by decide
  obtain ⟨hentry, -, hpenalties, hrows, -⟩ := get?_build_eq_penalty measured 5 (2 : ℕ∞)
  obtain ⟨hfloat, -, -, -, hword⟩ := get?_build_eq_penalty measured 5 (0 / 0 : Float)
  obtain ⟨stop, hfirst, -, hstop⟩ := hrows 1 (by decide)
  have hwide : ¬ 2 < stop := by
    intro hlt
    have h := (hstop 2).mpr ⟨by decide, hlt⟩
    rw [hentry] at h
    exact absurd h (by decide)
  obtain ⟨rows, hbuild, hget⟩ := hword hwidth
  refine ⟨measured, hwidth, ?_, ?_, ?_, ?_, rows, hbuild, ?_⟩
  · rw [hentry]
    decide
  · rw [hentry]
    decide
  · intro last
    rw [hstop]
    omega
  · exact hpenalties [0, 1] (by decide) (by decide) (by decide)
  · rw [hget, hfloat]
    rfl

end PenaltyTable

end LineFill
