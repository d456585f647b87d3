import LineFill.Proofs.LaidOut
import LineFill.Proofs.ScoreLaws

/-!
The content of lines. Between the lines of a text nothing is missing but the blanks at the end of
the piece that ends each line, for every segmenter, every character class and both methods.
-/
namespace LineFill

namespace CharClasses

variable (classes : CharClasses)

/-- The text without its blanks. -/
def inked (text : Text) : Text := text.filter fun c => !classes.isBlank c

theorem inked_flatten (parts : List Text) :
    classes.inked parts.flatten = (parts.map classes.inked).flatten :=
  List.filter_flatten

theorem inked_gapOf (row : List Text) : classes.inked (classes.gapOf row) = [] := by
  unfold inked
  rw [List.filter_eq_nil_iff]
  intro c hc
  have hblank : classes.isBlank c = true := List.mem_rtakeWhile_imp hc
  simp [hblank]

theorem inked_lineOf (row : List Text) :
    classes.inked (classes.lineOf row) = classes.inked row.flatten := by
  have hgap := classes.inked_gapOf row
  unfold inked at hgap ⊢
  rw [← classes.lineOf_append_gapOf row, List.filter_append, hgap, List.append_nil]

/-- The lines of rows hold all that the rows hold but blanks. -/
theorem inked_flatten_lineOf (rows : List (List Text)) :
    classes.inked (rows.map classes.lineOf).flatten = classes.inked rows.flatten.flatten := by
  have hrow : ∀ row ∈ rows, (classes.inked ∘ classes.lineOf) row =
      (classes.inked ∘ List.flatten) row := by
    intro row _
    exact classes.inked_lineOf row
  rw [inked_flatten, List.map_map, List.map_congr_left hrow, ← List.map_map, ← inked_flatten,
    List.flatten_flatten]

theorem zipWith_lineOf_gapOf (rows : List (List Text)) :
    List.zipWith (· ++ ·) (rows.map classes.lineOf) (rows.map classes.gapOf) =
      rows.map List.flatten := by
  rw [List.zipWith_map, List.zipWith_self]
  apply List.map_congr_left
  intro row _
  exact classes.lineOf_append_gapOf row

end CharClasses

namespace Filler

variable {K : Type} [Score K] {filler : Filler K} {text : Text} {lines : List Text}

/-- The lines with the gaps after them are the text. A gap is what the piece before it has of blanks
at its end, and a line with its gap is a row of one piece or more. -/
theorem fill_keeps_content (h : filler.fill text = .ok lines) :
    ∃ gaps : List Text, gaps.length = lines.length ∧
      (List.zipWith (· ++ ·) lines gaps).flatten = text ∧
      (text = [] ∨ (filler.segmenter text).length < 2 ∨
          (∃ found, filler.layout text = .broken found) →
        lines = [text] ∧ gaps = [[]]) ∧
      (¬ (text = [] ∨ (filler.segmenter text).length < 2 ∨
          ∃ found, filler.layout text = .broken found) →
        ∃ rows : List (List Text), rows.flatten = filler.pieces text ∧ [] ∉ rows ∧
          List.zipWith (· ++ ·) lines gaps = rows.map List.flatten ∧
          gaps = rows.map fun row => (row.getLastD []).rtakeWhile filler.classes.isBlank) ∧
      filler.classes.inked lines.flatten = filler.classes.inked text := by
  simp only [← not_laysOut_iff]
  by_cases laid : filler.LaysOut text
  · have hlines := fill_eq_lines laid
    rw [h] at hlines
    obtain rfl := Except.ok.inj hlines
    have htext : (filler.rows text).flatten.flatten = text := by
      rw [flatten_rows, flatten_pieces laid.offered]
    have hzip := filler.classes.zipWith_lineOf_gapOf (filler.rows text)
    refine ⟨(filler.rows text).map filler.classes.gapOf, ?_, ?_, ?_, ?_, ?_⟩
    · rw [List.length_map, List.length_map]
    · rw [hzip, ← List.flatten_flatten, htext]
    · rintro (hnil | hwhole)
      · rw [rows_of_pieces_eq_nil ((pieces_eq_nil_iff laid.offered).mpr hnil), hnil]
        exact ⟨rfl, rfl⟩
      · exact absurd laid hwhole
    · intro hbroken
      have hne : text ≠ [] := by
        intro hnil
        exact hbroken (Or.inl hnil)
      exact ⟨filler.rows text, flatten_rows filler text,
        nil_not_mem_rows (mt (pieces_eq_nil_iff laid.offered).mp hne), hzip, rfl⟩
    · rw [filler.classes.inked_flatten_lineOf, htext]
  · obtain rfl := eq_singleton_of_fill h laid
    refine ⟨[[]], rfl, ?_, ?_, ?_, ?_⟩
    · simp
    · intro _
      exact ⟨rfl, rfl⟩
    · intro hbroken
      exact absurd (Or.inr laid) hbroken
    · rw [List.flatten_singleton]

/-- The offsets are out of order, inside characters and past the end, and a letter is a blank. -/
def scrambled : Filler ℕ∞ :=
  ⟨4, .firstFit, .codepoints, .fail, fun _ => [3, 1, 7, 6, 8, 13, 14, 99],
    ⟨isHardBreak, fun c => c = ' ' || c = 'ß'⟩⟩

theorem fill_keeps_content_scrambled :
    scrambled.fill "é \tß 日本 x".toList = .ok ["é \t".toList, "日本 x".toList] ∧
      ∃ (gaps : List Text) (rows : List (List Text)),
        List.zipWith (· ++ ·) ["é \t".toList, "日本 x".toList] gaps = rows.map List.flatten ∧
        rows.flatten = ["é ".toList, "\tß ".toList, "日本".toList, " ".toList, "x".toList] ∧
        (rows.map List.flatten).flatten = "é \tß 日本 x".toList := by
  have hfill : scrambled.fill "é \tß 日本 x".toList =
      .ok ["é \t".toList, "日本 x".toList] := by decide +kernel
  have laid : scrambled.LaysOut "é \tß 日本 x".toList :=
    ⟨by decide +kernel, by simp [scrambled, isHardBreak]⟩
  have hpieces : scrambled.pieces "é \tß 日本 x".toList =
      ["é ".toList, "\tß ".toList, "日本".toList, " ".toList, "x".toList] := by decide +kernel
  have hbroken : ¬ ("é \tß 日本 x".toList = [] ∨
      (scrambled.segmenter "é \tß 日本 x".toList).length < 2 ∨
        ∃ found, scrambled.layout "é \tß 日本 x".toList = .broken found) := by
    rw [← not_laysOut_iff]
    rintro (hnil | hwhole)
    · exact absurd hnil (by decide)
    · exact hwhole laid
  obtain ⟨gaps, -, htext, -, hrows, -⟩ := fill_keeps_content hfill
  obtain ⟨rows, hflat, -, hzip, -⟩ := hrows hbroken
  rw [hpieces] at hflat
  rw [hzip] at htext
  exact ⟨hfill, gaps, rows, hzip, hflat, htext⟩

end Filler

end LineFill
