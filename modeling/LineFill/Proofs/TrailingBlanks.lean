import LineFill.Proofs.UnicodeFiller

/-!
Blanks at the end of lines, for the line breaks and character classes of Unicode. A line loses the
blanks of its last piece only. Where that piece is blank throughout, as a tab after a space is, the
blanks of the piece before it stay.
-/
namespace LineFill

/-- The last piece is blank throughout and the one before it ends in a blank. -/
def LeavesBlank (row : List Text) : Prop :=
  ∃ front before last, row = front ++ [before, last] ∧
    Text.trimEnd last = [] ∧ Text.trimEnd before ≠ before

namespace LeavesBlank

theorem append {row : List Text} (h : LeavesBlank row) (front : List Text) :
    LeavesBlank (front ++ row) := by
  obtain ⟨middle, before, last, rfl, hlast, hbefore⟩ := h
  exact ⟨front ++ middle, before, last, by rw [List.append_assoc], hlast, hbefore⟩

theorem trimEnd_eq_nil {front : List Text} {last : Text} (h : LeavesBlank (front ++ [last])) :
    last.trimEnd = [] := by
  obtain ⟨middle, before, last', hrow, hlast, -⟩ := h
  have hpair : middle ++ [before, last'] = (middle ++ [before]) ++ [last'] := by simp
  rw [hpair] at hrow
  obtain ⟨-, hsame⟩ := List.append_inj' hrow rfl
  rw [List.singleton_inj.mp hsame]
  exact hlast

theorem trimEnd_ne {front : List Text} {before last : Text}
    (h : LeavesBlank (front ++ [before, last])) : before.trimEnd ≠ before := by
  obtain ⟨middle, before', last', hrow, -, hbefore⟩ := h
  obtain ⟨-, hsame⟩ := List.append_inj' hrow rfl
  rw [(List.cons.inj hsame).1]
  exact hbefore

end LeavesBlank

theorem not_leavesBlank_singleton (last : Text) : ¬ LeavesBlank [last] := by
  rintro ⟨front, before, last', hrow, -⟩
  have hlen := congrArg List.length hrow
  simp at hlen

theorem not_leavesBlank_nil : ¬ LeavesBlank [] := by
  rintro ⟨front, before, last, hrow, -⟩
  exact absurd hrow (by simp)

open Text

/-- A line has a blank at its end exactly when its row leaves one. -/
theorem trimEnd_lineOf_eq_iff {row : List Text} (hne : [] ∉ row) :
    trimEnd (CharClasses.unicode.lineOf row) = CharClasses.unicode.lineOf row ↔
      ¬ LeavesBlank row := by
  rcases List.eq_nil_or_concat row with rfl | ⟨front, last, rfl⟩
  · exact iff_of_true rfl not_leavesBlank_nil
  rw [List.concat_eq_append] at hne ⊢
  rw [CharClasses.lineOf_concat, ink_unicode]
  by_cases hlast : last.trimEnd = []
  · -- the line ends with the piece before the last, whose blanks are still there
    rw [hlast, List.append_nil]
    rcases List.eq_nil_or_concat front with rfl | ⟨front, before, rfl⟩
    · exact iff_of_true rfl (not_leavesBlank_singleton last)
    · rw [List.concat_eq_append] at hne ⊢
      have hbefore : before ≠ [] := by
        rintro rfl
        exact hne (by simp)
      rw [List.flatten_append, List.flatten_singleton, trimEnd_append_eq_iff _ hbefore]
      have hpair : front ++ [before] ++ [last] = front ++ [before, last] := by simp
      rw [hpair]
      constructor
      · intro htrim h
        exact h.trimEnd_ne htrim
      · intro h
        by_contra hblank
        exact h ⟨front, before, last, rfl, hlast, hblank⟩
  · have htrim := (trimEnd_append_eq_iff front.flatten hlast).mpr last.trimEnd_trimEnd
    refine iff_of_true htrim ?_
    intro h
    exact hlast h.trimEnd_eq_nil

namespace FirstFit

/-- A line that is past the width with its blanks takes no further chunk. -/
theorem head?_points {width used : Nat} (h : width < used) (last : Nat) (rest : List Chunk) :
    (points width used last rest ++ [last + rest.length]).head? = some last := by
  cases rest with
  | nil => rfl
  | cons c rest =>
    have hwide : width < used + c.inkWidth := by omega
    rw [points, if_pos hwide]
    rfl

end FirstFit

/-- Of the width of `line`, first fit sets `line` with the chunk after it, if that has no ink. -/
theorem head?_firstFit {line : List Chunk} {chunk : Chunk} (hne : line ≠ [])
    (h : Chunk.Measured line) (hink : chunk.inkWidth = 0) (hwidth : 0 < chunk.width)
    (rest : List Chunk) :
    (firstFit (Chunk.totalWidth line) (line ++ chunk :: rest) ++
      [(line ++ chunk :: rest).length - 1]).head? = some line.length := by
  obtain ⟨c, line, rfl⟩ := List.exists_cons_of_ne_nil hne
  have hline : Chunk.totalWidth (c :: line) = c.width + Chunk.totalWidth line := rfl
  have hend : (c :: line ++ chunk :: rest).length - 1 = 0 + line.length + 1 + rest.length := by
    simp
    omega
  rw [hline, hend, List.cons_append, firstFit, FirstFit.points_append h.tail (Nat.le_refl _),
    FirstFit.points, if_neg (by omega), FirstFit.head?_points (by omega), List.length_cons,
    Nat.zero_add]

theorem Metric.width_codepoints_pos {text : Text} (h : text ≠ []) :
    0 < Metric.codepoints.width text := by
  obtain ⟨c, text, rfl⟩ := List.exists_cons_of_ne_nil h
  have hc : Metric.codepoints.widthOf c = 1 := rfl
  rw [width_cons, hc]
  omega

namespace Filler

variable {settings : Settings} {filler : Filler Float} {text : Text}

/-- First fit of the right width ends a line wherever the pieces leave a blank. -/
theorem exists_mem_rows {row : List Text} (hrow : row <+: Break.pieces text)
    (hblank : LeavesBlank row) :
    ∃ settings filler, Filler.unicode settings = .ok filler ∧ row ∈ filler.rows text := by
  obtain ⟨after, hpieces⟩ := hrow
  obtain ⟨front, before, last, rfl, hlast, hblank⟩ := hblank
  let line := Chunk.ofPieces .unicode .codepoints 0 (front ++ [before])
  let width := Chunk.totalWidth line
  let filler : Filler Float := ⟨width, .firstFit, .codepoints, .fail, Break.offsets, .unicode⟩
  have hline : line ≠ [] := by simp [line, Chunk.ofPieces_append, Chunk.ofPieces]
  have hsplit : Break.pieces text = (front ++ [before]) ++ last :: after := by
    rw [← hpieces]
    simp
  have hwide : 0 < Metric.codepoints.width last := by
    apply Metric.width_codepoints_pos
    rintro rfl
    exact Break.nil_not_mem_pieces text (by simp [hsplit])
  have hink (start : Nat) : (Chunk.ofSlice .unicode .codepoints start last).inkWidth = 0 := by
    rw [Chunk.ofSlice_inkWidth, ink_unicode, hlast, Metric.width_nil]
  have hpos : 0 < width := by
    have hbefore : 0 < Metric.codepoints.width before := by
      apply Metric.width_codepoints_pos
      rintro rfl
      exact hblank rfl
    have hsum : width = Metric.codepoints.width front.flatten + Metric.codepoints.width before := by
      simp [width, line, Chunk.totalWidth_ofPieces]
    omega
  have hunicode := unicode_exponent_zero hpos
  refine ⟨_, filler, hunicode, ?_⟩
  have hchunks : filler.chunks text = line ++
      Chunk.ofSlice .unicode .codepoints (0 + Text.byteLength (front ++ [before]).flatten) last ::
        Chunk.ofPieces .unicode .codepoints
          (0 + Text.byteLength (front ++ [before]).flatten + last.byteLength) after := by
    unfold chunks
    rw [pieces_of_unicode hunicode, hsplit, Chunk.ofPieces_append]
    rfl
  have hhead : (filler.method.points (filler.chunks text) filler.width ++
      [(filler.pieces text).length - 1]).head? = some line.length := by
    rw [← length_chunks, hchunks]
    exact head?_firstFit hline (Chunk.measured_ofPieces _ _ _ _) (hink _) hwide _
  obtain ⟨ends, hends⟩ := List.head?_eq_some_iff.mp hhead
  have hrow : (front ++ [before] ++ last :: after).take (line.length + 1) =
      front ++ [before, last] := by
    have hlen : line.length + 1 = (front ++ [before, last]).length := by simp [line]
    have happend : front ++ [before] ++ last :: after = front ++ [before, last] ++ after := by simp
    rw [hlen, happend, List.take_left]
  unfold rows
  rw [hends, rowsFrom, pieces_of_unicode hunicode, hsplit, List.drop_zero, Nat.sub_zero, hrow]
  exact List.mem_cons_self

/-- Of a text with no hard break, the lines that end in a blank are those of the rows that leave one,
and no settings make such a line exactly when the pieces leave a blank nowhere. -/
theorem trimmed_iff (soft : ∀ c ∈ text, isHardBreak c = false) :
    (∀ settings filler, Filler.unicode settings = .ok filler →
      filler.fill text = .ok ((filler.rows text).map filler.classes.lineOf) ∧
        (filler.rows text).flatten = Break.pieces text ∧
        ∀ row ∈ filler.rows text,
          (trimEnd (filler.classes.lineOf row) = filler.classes.lineOf row ↔ ¬ LeavesBlank row)) ∧
      ((∀ settings filler lines, Filler.unicode settings = .ok filler →
          filler.fill text = .ok lines → ∀ line ∈ lines, trimEnd line = line) ↔
        ∀ row, row <+: Break.pieces text → ¬ LeavesBlank row) := by
  have hrow : ∀ {settings : Settings} {filler : Filler Float},
      Filler.unicode settings = .ok filler → ∀ row ∈ filler.rows text,
        (trimEnd (filler.classes.lineOf row) = filler.classes.lineOf row ↔ ¬ LeavesBlank row) := by
    intro settings filler h row hmem
    rw [(eq_of_unicode h).2]
    exact trimEnd_lineOf_eq_iff (nil_not_mem_row h hmem)
  refine ⟨?_, ?_, ?_⟩
  · intro settings filler h
    exact ⟨fill_unicode h soft, (flatten_rows filler text).trans (pieces_of_unicode h text), hrow h⟩
  · intro htrim row hprefix hblank
    obtain ⟨settings, filler, h, hmem⟩ := exists_mem_rows hprefix hblank
    have hline := htrim settings filler _ h (fill_unicode h soft) _ (List.mem_map_of_mem hmem)
    exact (hrow h row hmem).mp hline hblank
  · intro hblank settings filler lines h hfill line hline
    rw [fill_unicode h soft] at hfill
    obtain rfl := Except.ok.inj hfill
    obtain ⟨row, hmem, rfl⟩ := List.mem_map.mp hline
    apply (hrow h row hmem).mpr
    intro hleaves
    obtain ⟨before, after, hrows⟩ := List.append_of_mem hmem
    have hpieces : before.flatten ++ row ++ after.flatten = Break.pieces text := by
      rw [← pieces_of_unicode h, ← flatten_rows, hrows]
      simp
    exact hblank (before.flatten ++ row) ⟨_, hpieces⟩ (hleaves.append before.flatten)

theorem trimmed_iff_tabbed :
    (∀ c ∈ "a \tb é".toList, isHardBreak c = false) ∧
      ∃ filler, Filler.unicode ⟨2, 0, none, .fail, .codepoints⟩ = .ok filler ∧
        filler.rows "a \tb é".toList =
          [["a ".toList, "\t".toList], ["b ".toList], ["é".toList]] ∧
        filler.fill "a \tb é".toList = .ok ["a ".toList, "b".toList, "é".toList] ∧
        ¬ LeavesBlank ["b ".toList] ∧
        ¬ ∀ row, row <+: Break.pieces "a \tb é".toList → ¬ LeavesBlank row := by
  have soft : ∀ c ∈ "a \tb é".toList, isHardBreak c = false := by simp [isHardBreak]
  have h := unicode_exponent_zero (show 0 < 2 by decide)
  obtain ⟨hstock, hall⟩ := trimmed_iff soft
  obtain ⟨hfill, -, hrow⟩ := hstock _ _ h
  refine ⟨soft, _, h, by decide +kernel, by decide +kernel, ?_, ?_⟩
  · exact (hrow _ (by decide +kernel)).mp (by decide +kernel)
  · intro hblank
    have htrim := hall.mpr hblank _ _ _ h hfill "a ".toList (by decide +kernel)
    exact absurd htrim (by decide)

/-- A tab after a space is a piece of its own, so the space stays at the end of the line. -/
theorem not_forall_trimmed :
    ¬ ∀ (settings : Settings) (filler : Filler Float) (text : Text) (lines : List Text),
      Filler.unicode settings = .ok filler → (∀ c ∈ text, isHardBreak c = false) →
        filler.fill text = .ok lines → ∀ line ∈ lines, trimEnd line = line := by
  intro htrim
  have hfill :
      (⟨2, .firstFit, .codepoints, .fail, Break.offsets, .unicode⟩ : Filler Float).fill
        "a \tb".toList = .ok ["a ".toList, "b".toList] := by decide +kernel
  have hline := htrim _ _ _ _ (unicode_exponent_zero (show 0 < 2 by decide))
    (by simp [isHardBreak]) hfill "a ".toList (by decide)
  exact absurd hline (by decide)

end Filler

end LineFill
