import LineFill.Proofs.LaidOut
import LineFill.Proofs.ScoreLaws

/-!
The bound on the width of lines, for every segmenter, every character class and both methods. A line
of a text that is laid out is wider than allowed only if it is one piece, which nothing can shorten.
-/
namespace LineFill.Filler

variable {K : Type} [Score K] {filler : Filler K} {text : Text}

/-- A piece is no wider without its blanks than the line it stands on. -/
theorem width_ink_le_lineOf (classes : CharClasses) (metric : Metric) {row : List Text}
    {piece : Text} (h : piece ∈ row) :
    metric.width (classes.ink piece) ≤ metric.width (classes.lineOf row) := by
  rcases List.eq_nil_or_concat row with rfl | ⟨front, last, rfl⟩
  · cases h
  rw [List.concat_eq_append] at h ⊢
  rw [CharClasses.lineOf_concat, Metric.width_append]
  rcases List.mem_append.mp h with hfront | hlast
  · have hink := metric.width_ink_le classes piece
    obtain ⟨before, after, rfl⟩ := List.append_of_mem hfront
    simp only [List.flatten_append, List.flatten_cons, Metric.width_append]
    omega
  · rw [List.mem_singleton.mp hlast]
    exact Nat.le_add_left _ _

/-- Every line is at most as wide as allowed or is one piece alone, and a piece that is too wide
shares its line with no other. -/
theorem lines_fit {lines : List Text} (h : filler.fill text = .ok lines)
    (offered : 2 ≤ (filler.segmenter text).length)
    (kept : ∀ found, filler.layout text ≠ .broken found) :
    (∀ line ∈ lines, filler.metric.width line ≤ filler.width ∨
        ∃ piece ∈ filler.pieces text, line = filler.classes.ink piece) ∧
      ∃ rows : List (List Text), rows.flatten = filler.pieces text ∧
        lines = rows.map filler.classes.lineOf ∧
        ∀ row ∈ rows, (∃ piece, row = [piece]) ∨
          filler.metric.width (filler.classes.lineOf row) ≤ filler.width ∧
            ∀ piece ∈ row, filler.metric.width (filler.classes.ink piece) ≤ filler.width := by
  have laid : filler.LaysOut text := laysOut_iff.mpr ⟨offered, kept⟩
  have hlines := fill_eq_lines laid
  rw [h] at hlines
  obtain rfl := Except.ok.inj hlines
  have hrows := flatten_rows filler text
  constructor
  · intro line hline
    obtain ⟨row, hrow, rfl⟩ := List.mem_map.mp hline
    rcases width_lineOf_le hrow with ⟨piece, rfl⟩ | hwidth
    · refine Or.inr ⟨piece, ?_, rfl⟩
      rw [← hrows]
      exact List.mem_flatten.mpr ⟨[piece], hrow, List.mem_singleton_self piece⟩
    · exact Or.inl hwidth
  · refine ⟨filler.rows text, hrows, rfl, ?_⟩
    intro row hrow
    rcases width_lineOf_le hrow with alone | hwidth
    · exact Or.inl alone
    · refine Or.inr ⟨hwidth, ?_⟩
      intro piece hpiece
      exact (width_ink_le_lineOf filler.classes filler.metric hpiece).trans hwidth

/-- Five cells are too few for one of the words it is given below. -/
def narrow : Filler ℕ∞ :=
  ⟨5, .leastRagged 2, .cells, .fail, Break.offsets, .unicode⟩

theorem lines_fit_narrow :
    narrow.fill "日本 \tá Straße b".toList =
        .ok ["日".toList, "本 \tá".toList, "Straße".toList, "b".toList] ∧
      narrow.metric.width "Straße".toList = 6 ∧
      (∃ piece ∈ narrow.pieces "日本 \tá Straße b".toList,
        "Straße".toList = narrow.classes.ink piece) ∧
      narrow.metric.width "本 \tá".toList ≤ 5 := by
  have hfill : narrow.fill "日本 \tá Straße b".toList =
      .ok ["日".toList, "本 \tá".toList, "Straße".toList, "b".toList] := by decide +kernel
  have laid : narrow.LaysOut "日本 \tá Straße b".toList :=
    ⟨by decide +kernel, by simp [narrow, CharClasses.unicode, isHardBreak]⟩
  have hwidth : narrow.metric.width "Straße".toList = 6 := by decide +kernel
  have h := (lines_fit hfill laid.offered (laysOut_iff.mp laid).2).1
  refine ⟨hfill, hwidth, ?_, ?_⟩
  · rcases h "Straße".toList (by simp) with hle | hpiece
    · rw [hwidth] at hle
      exact absurd hle (by decide)
    · exact hpiece
  · decide +kernel

end LineFill.Filler
