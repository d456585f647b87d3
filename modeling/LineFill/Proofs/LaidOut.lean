import LineFill.Filler.Basic
import LineFill.Proofs.Rows

/-!
Texts that are laid out. A filler lays a text out when its segmenter offers two offsets or more and
no character is a hard break; the lines are then those of rows of pieces. Any other text is either
refused or a line of its own.
-/
namespace LineFill

namespace Filler

variable {K : Type}

/-- The pieces between the break offsets of a text in canonical form. -/
def pieces (filler : Filler K) (text : Text) : List Text :=
  text.pieces (Offsets.canonical text (filler.segmenter text))

def chunks (filler : Filler K) (text : Text) : List Chunk :=
  Chunk.ofPieces filler.classes filler.metric 0 (filler.pieces text)

/-- The segmenter offers a way to break the text, and no hard break forbids it. -/
structure LaysOut (filler : Filler K) (text : Text) : Prop where
  offered : 2 ≤ (filler.segmenter text).length
  soft : ∀ c ∈ text, filler.classes.isHardBreak c = false

variable {filler : Filler K} {text : Text}

theorem flatten_pieces (h : 2 ≤ (filler.segmenter text).length) :
    (filler.pieces text).flatten = text :=
  (Offsets.canonical_of_two_le h).pieces.1

theorem nil_not_mem_pieces (h : 2 ≤ (filler.segmenter text).length) :
    [] ∉ filler.pieces text :=
  (Offsets.canonical_of_two_le h).pieces.2.1

theorem pieces_eq_nil_iff (h : 2 ≤ (filler.segmenter text).length) :
    filler.pieces text = [] ↔ text = [] := by
  have hflat := flatten_pieces h
  constructor
  · intro hpieces
    rw [← hflat, hpieces, List.flatten_nil]
  · intro htext
    by_contra hne
    obtain ⟨piece, hpiece⟩ := List.exists_mem_of_ne_nil _ hne
    have hnil := List.flatten_eq_nil_iff.mp (hflat.trans htext) piece hpiece
    exact nil_not_mem_pieces h (hnil ▸ hpiece)

theorem length_chunks : (filler.chunks text).length = (filler.pieces text).length := by
  simp [chunks]

theorem measured_chunks : Chunk.Measured (filler.chunks text) := Chunk.measured_ofPieces _ _ _ _

theorem chunks_eq_nil_iff : filler.chunks text = [] ↔ filler.pieces text = [] := by
  rw [← List.length_eq_zero_iff, length_chunks, List.length_eq_zero_iff]

theorem eq_of_accept {element : Nat} {layout accepted : Layout K}
    (h : filler.accept element layout = .ok accepted) : accepted = layout := by
  unfold accept at h
  split at h
  · cases h
  · exact (Except.ok.inj h).symm

variable [Score K]

/-- The pieces in rows, one for each line. -/
def rows (filler : Filler K) (text : Text) : List (List Text) :=
  rowsFrom (filler.pieces text) 0
    (filler.method.points (filler.chunks text) filler.width ++ [(filler.pieces text).length - 1])

theorem sets_rows (hne : filler.pieces text ≠ []) :
    Sets (filler.chunks text) filler.width 0
      (filler.method.points (filler.chunks text) filler.width ++ [(filler.pieces text).length - 1])
      (filler.chunks text).length := by
  rw [← length_chunks]
  exact Method.sets_points measured_chunks (mt chunks_eq_nil_iff.mp hne)
    filler.width filler.method

theorem rows_of_pieces_eq_nil (h : filler.pieces text = []) : filler.rows text = [[]] := by
  unfold rows
  rw [chunks_eq_nil_iff.mpr h, h, Method.points_nil]
  rfl

/-- The rows hold the pieces in order. -/
theorem flatten_rows (filler : Filler K) (text : Text) :
    (filler.rows text).flatten = filler.pieces text := by
  by_cases hne : filler.pieces text = []
  · rw [rows_of_pieces_eq_nil hne, hne]
    rfl
  · unfold rows
    rw [(sets_rows hne).flatten_rowsFrom length_chunks.symm rfl, List.drop_zero]

theorem nil_not_mem_rows (hne : filler.pieces text ≠ []) : [] ∉ filler.rows text := by
  intro hnil
  obtain ⟨first, last, hf, hl, -, hrow⟩ := (sets_rows hne).exists_of_mem_rowsFrom hnil
  rw [take_drop_eq_concat hf (length_chunks ▸ hl)] at hrow
  exact absurd hrow (by simp)

/-- A row of more than one piece is not too wide as a line. -/
theorem width_lineOf_le {row : List Text} (hrow : row ∈ filler.rows text) :
    (∃ piece, row = [piece]) ∨
      filler.metric.width (filler.classes.lineOf row) ≤ filler.width := by
  by_cases hne : filler.pieces text = []
  · rw [rows_of_pieces_eq_nil hne] at hrow
    rw [List.mem_singleton.mp hrow]
    exact Or.inr (Nat.zero_le _)
  · obtain ⟨first, last, hf, hl, fits, rfl⟩ := (sets_rows hne).exists_of_mem_rowsFrom hrow
    have hlast : last < (filler.pieces text).length := length_chunks ▸ hl
    rcases fits with rfl | hwidth
    · refine Or.inl ⟨(filler.pieces text)[first], ?_⟩
      rw [take_drop_eq_concat hf hlast]
      simp
    · unfold chunks at hwidth
      rw [Chunk.lineWidth_ofPieces _ _ _ _ hf hlast] at hwidth
      exact Or.inr hwidth

theorem layout_eq_chunked (h : filler.LaysOut text) :
    filler.layout text =
      .chunked (filler.chunks text) (filler.method.solve (filler.chunks text) filler.width) := by
  have hraw : ¬ (filler.segmenter text).length < 2 := Nat.not_lt.mpr h.offered
  unfold layout
  rw [if_neg hraw, Chunk.ofOffsets_eq_ofPieces (Offsets.canonical_of_two_le h.offered) h.soft]
  rfl

theorem layout_eq_unbreakable (h : (filler.segmenter text).length < 2) :
    filler.layout text = .unbreakable := by
  unfold layout
  rw [if_pos h]

theorem layout_eq_broken (h : 2 ≤ (filler.segmenter text).length) {found : HardBreak}
    (first : filler.classes.IsFirstBreak text found) : filler.layout text = .broken found := by
  unfold layout
  rw [if_neg (Nat.not_lt.mpr h),
    Chunk.ofOffsets_eq_error filler.metric (Offsets.canonical_of_two_le h) first]

/-- What is not laid out is known to be unbreakable or to have a hard break. -/
theorem laysOut_iff : filler.LaysOut text ↔
    2 ≤ (filler.segmenter text).length ∧ ∀ found, filler.layout text ≠ .broken found := by
  constructor
  · intro h
    refine ⟨h.offered, ?_⟩
    intro found
    rw [layout_eq_chunked h]
    simp
  · rintro ⟨hraw, hlayout⟩
    refine ⟨hraw, ?_⟩
    intro c hc
    by_contra hhard
    obtain ⟨found, first⟩ :=
      filler.classes.exists_isFirstBreak ⟨c, hc, eq_true_of_ne_false hhard⟩
    exact hlayout found (layout_eq_broken hraw first)

theorem not_laysOut_iff : ¬ filler.LaysOut text ↔
    (filler.segmenter text).length < 2 ∨ ∃ found, filler.layout text = .broken found := by
  rw [laysOut_iff, not_and_or, Nat.not_le, not_forall]
  simp only [not_not]

/-- The lines of a text that is laid out are those of its rows. -/
theorem fill_eq_lines (h : filler.LaysOut text) :
    filler.fill text = .ok ((filler.rows text).map filler.classes.lineOf) := by
  have hlines : cutLines text (filler.chunks text)
      (filler.method.points (filler.chunks text) filler.width) =
        (filler.rows text).map filler.classes.lineOf := by
    by_cases hne : filler.pieces text = []
    · rw [rows_of_pieces_eq_nil hne, chunks_eq_nil_iff.mpr hne, cutLines,
        (pieces_eq_nil_iff h.offered).mp hne]
      rfl
    · have hspans := Chunk.lineSpans_ofPieces (sets_rows hne) (fun _ => rfl)
      rw [flatten_pieces h.offered] at hspans
      have hempty : (filler.chunks text).isEmpty = false := by
        simpa using mt chunks_eq_nil_iff.mp hne
      rw [cutLines, hempty, if_neg Bool.false_ne_true, chunks, Chunk.spans_ofPieces _ _ hne]
      exact hspans
  unfold fill
  rw [layout_eq_chunked h]
  exact congrArg Except.ok hlines

/-- A text that is not laid out is its only line, unless it is refused. -/
theorem eq_singleton_of_fill {lines : List Text} (h : filler.fill text = .ok lines)
    (hwhole : ¬ filler.LaysOut text) : lines = [text] := by
  unfold fill at h
  rcases not_laysOut_iff.mp hwhole with hraw | ⟨found, hlayout⟩
  · rw [layout_eq_unbreakable hraw] at h
    exact (Except.ok.inj h).symm
  · rw [hlayout] at h
    unfold accept failure? at h
    cases hpolicy : filler.policy with
    | fail =>
      rw [hpolicy] at h
      cases h
    | passThrough =>
      rw [hpolicy] at h
      exact (Except.ok.inj h).symm

end Filler

end LineFill
