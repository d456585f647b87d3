import LineFill.Proofs.HardBreaks
import LineFill.Proofs.OneLine
import LineFill.Proofs.Segmentation
import LineFill.Proofs.WidthBound

/-!
Filling a line once more. A line that fits stays whole however it is segmented, since both methods
keep chunks that fit together; a line that is too wide is one piece, which has no break inside.
-/
namespace LineFill

variable {K : Type} [Score K] {Magnitude : K → Prop}

/-- A row whose text ends without a blank loses none on its line. -/
theorem lineOf_eq_flatten {row : List Text} (hne : [] ∉ row)
    (htrim : Text.trimEnd row.flatten = row.flatten) :
    CharClasses.unicode.lineOf row = row.flatten := by
  rcases List.eq_nil_or_concat row with rfl | ⟨front, last, rfl⟩
  · rfl
  rw [List.concat_eq_append] at hne htrim ⊢
  have hlast : last ≠ [] := by
    rintro rfl
    exact hne (by simp)
  rw [List.flatten_append, List.flatten_singleton] at htrim ⊢
  rw [CharClasses.lineOf_concat, Text.ink_unicode, (Text.trimEnd_append_eq_iff _ hlast).mp htrim]

namespace Filler

variable {filler : Filler K} {text : Text}

/-- A text that fits, or is a single piece, is a single row. -/
theorem rows_eq_singleton
    (laws : ∀ exponent, filler.method = .leastRagged exponent → Score.Monotone Magnitude exponent)
    (hne : filler.pieces text ≠ [])
    (fits : (filler.pieces text).length = 1 ∨
      filler.metric.width (filler.pieces text).flatten ≤ filler.width) :
    filler.rows text = [filler.pieces text] := by
  have hpos := List.length_pos_iff.mpr hne
  have hall : (filler.pieces text).length - 1 + 1 = (filler.pieces text).length := by omega
  have hfits : Fits (filler.chunks text) filler.width 0 ((filler.chunks text).length - 1) := by
    rw [length_chunks]
    rcases fits with hsingle | hwidth
    · exact Or.inl (by omega)
    · have hline := congrArg filler.metric.width
        (filler.classes.lineOf_append_gapOf (filler.pieces text))
      rw [Metric.width_append] at hline
      right
      unfold chunks
      rw [Chunk.lineWidth_ofPieces _ _ _ _ (Nat.zero_le _) (by omega), hall, Nat.sub_zero,
        List.drop_zero, List.take_length]
      omega
  have hpoints : filler.method.points (filler.chunks text) filler.width = [] :=
    filler.method.points_eq_nil laws measured_chunks hfits
  unfold rows
  rw [hpoints, List.nil_append, rowsFrom, rowsFrom, hall, Nat.sub_zero, List.drop_zero,
    List.take_length]

/-- A text without a blank at its end that fits, or is a single piece, is its only line. -/
theorem IsUnicode.fill_eq_singleton (h : filler.IsUnicode)
    (laws : ∀ exponent, filler.method = .leastRagged exponent → Score.Monotone Magnitude exponent)
    (soft : ∀ c ∈ text, isHardBreak c = false) (htrim : text.trimEnd = text)
    (fits : (filler.pieces text).length = 1 ∨ filler.metric.width text ≤ filler.width) :
    filler.fill text = .ok [text] := by
  have hflat : (filler.pieces text).flatten = text := by
    rw [h.pieces_eq, Break.flatten_pieces]
  have hnil : [] ∉ filler.pieces text := by
    rw [h.pieces_eq]
    exact Break.nil_not_mem_pieces text
  have hrows : filler.rows text = [filler.pieces text] := by
    by_cases hne : filler.pieces text = []
    · rw [rows_of_pieces_eq_nil hne, hne]
    · exact rows_eq_singleton laws hne (by rwa [hflat])
  have hline : filler.classes.lineOf (filler.pieces text) = text := by
    rw [h.classes, lineOf_eq_flatten hnil (by rwa [hflat]), hflat]
  rw [h.fill_eq soft, hrows, List.map_singleton, hline]

/-- A line that does not end in a blank is its only line when it is filled once more, by itself. -/
theorem fill_line_eq_singleton (h : filler.IsUnicode)
    (laws : ∀ exponent, filler.method = .leastRagged exponent → Score.Monotone Magnitude exponent)
    {lines : List Text} (hfill : filler.fill text = .ok lines) {line : Text} (hline : line ∈ lines)
    (htrim : line.trimEnd = line) : filler.fill line = .ok [line] := by
  by_cases laid : filler.LaysOut text
  · have soft : ∀ c ∈ line, isHardBreak c = false := by
      intro c hc
      have hc := laid.soft c (mem_of_mem_line hfill hline hc)
      rwa [h.classes] at hc
    rw [fill_eq_lines laid] at hfill
    obtain rfl := Except.ok.inj hfill
    obtain ⟨row, hrow, rfl⟩ := List.mem_map.mp hline
    apply h.fill_eq_singleton laws soft htrim
    rcases width_lineOf_le hrow with ⟨piece, rfl⟩ | hwidth
    · by_cases hne : filler.classes.lineOf [piece] = []
      · rw [hne]
        exact Or.inr (Nat.zero_le _)
      · have hpiece : piece ∈ filler.pieces text := by
          rw [← flatten_rows filler text]
          exact List.mem_flatten.mpr ⟨[piece], hrow, List.mem_singleton_self piece⟩
        left
        rw [h.pieces_lineOf_singleton hpiece hne, List.length_singleton]
    · exact Or.inr hwidth
  · obtain rfl := eq_singleton_of_fill hfill laid
    obtain rfl := List.mem_singleton.mp hline
    exact hfill

theorem fill_line_eq_singleton_narrow :
    narrow.IsUnicode ∧
      narrow.fill "日本 \tá Straße b".toList =
        .ok ["日".toList, "本 \tá".toList, "Straße".toList, "b".toList] ∧
      narrow.width < narrow.metric.width "Straße".toList ∧
      narrow.fill "Straße".toList = .ok ["Straße".toList] ∧
      narrow.fill "本 \tá".toList = .ok ["本 \tá".toList] ∧
      ∃ stock, Filler.unicode ⟨5, 0, none, .fail, .codepoints⟩ = .ok stock ∧
        stock.fill "Straße".toList = .ok ["Straße".toList] := by
  have hunicode : narrow.IsUnicode := ⟨rfl, rfl⟩
  have laws : ∀ exponent, narrow.method = .leastRagged exponent →
      Score.Monotone (fun _ : ℕ∞ => True) exponent := fun exponent _ => Score.monotone_enat exponent
  have hfill : narrow.fill "日本 \tá Straße b".toList =
      .ok ["日".toList, "本 \tá".toList, "Straße".toList, "b".toList] := by decide +kernel
  refine ⟨hunicode, hfill, by decide +kernel, ?_, ?_, ?_⟩
  · exact fill_line_eq_singleton hunicode laws hfill (by simp) (by decide +kernel)
  · exact fill_line_eq_singleton hunicode laws hfill (by simp) (by decide +kernel)
  · let stock : Filler Float := ⟨5, .firstFit, .codepoints, .fail, Break.offsets, .unicode⟩
    have hstock : stock.fill "日本 \tá Straße b".toList =
        .ok ["日本 \tá".toList, "Straße".toList, "b".toList] := by decide +kernel
    refine ⟨stock, unicode_exponent_zero (show 0 < 5 by decide), ?_⟩
    have hlaws : ∀ exponent, stock.method = .leastRagged exponent →
        Score.Monotone (fun _ : Float => True) exponent := by
      intro exponent hmethod
      cases hmethod
    exact fill_line_eq_singleton ⟨rfl, rfl⟩ hlaws hstock (by simp) (by decide +kernel)

end Filler

end LineFill
