import LineFill.Proofs.Batch
import LineFill.Proofs.CanonicalOffsets
import LineFill.Proofs.LinePenalties

/-!
Texts that are not broken. A text has no breaks exactly when its segmenter offers fewer than two
offsets or it is passed through. Offsets for the empty text come down to one, which marks no part of
it; if two or more were offered it has breaks all the same, and they judge none of its lines.
-/
namespace LineFill.Filler

variable {K : Type} {filler : Filler K} {text : Text}

theorem not_passesThrough_nil (filler : Filler K) : ¬ filler.PassesThrough [] := by
  intro h
  obtain ⟨c, hc, -⟩ := h.hard
  cases hc

variable [Score K]

theorem layout_eq_unbreakable_iff (filler : Filler K) (text : Text) :
    filler.layout text = .unbreakable ↔ (filler.segmenter text).length < 2 := by
  refine ⟨?_, layout_eq_unbreakable⟩
  intro h
  by_contra hraw
  by_cases laid : filler.LaysOut text
  · rw [layout_eq_chunked laid] at h
    cases h
  · obtain ⟨found, hlayout⟩ := (not_laysOut_iff.mp laid).resolve_left hraw
    rw [hlayout] at h
    cases h

theorem passesThrough_or_laysOut_or_fails (h : 2 ≤ (filler.segmenter text).length) :
    filler.PassesThrough text ∨ filler.LaysOut text ∨
      ∃ failure, filler.breaks text = .error failure := by
  by_cases hard : ∃ c ∈ text, filler.classes.isHardBreak c = true
  · cases hpolicy : filler.policy with
    | fail =>
      obtain ⟨found, first⟩ := filler.classes.exists_isFirstBreak hard
      exact Or.inr (Or.inr ⟨_, (fails_of_isFirstBreak h first hpolicy).2.1⟩)
    | passThrough => exact Or.inl ⟨hpolicy, h, hard⟩
  · exact Or.inr (Or.inl ⟨h, by simpa using hard⟩)

theorem breaks_of_passesThrough (h : filler.PassesThrough text) :
    filler.breaks text = .ok none := by
  obtain ⟨found, first⟩ := filler.classes.exists_isFirstBreak h.hard
  exact (passes_of_isFirstBreak h.offered first h.policy).2.1

theorem breaks_ne_none_of_laysOut (laid : filler.LaysOut text) : filler.breaks text ≠ .ok none := by
  unfold breaks
  rw [layout_eq_chunked laid]
  intro h
  cases h

/-- What the segmenter offers decides, before any of it is put in order. -/
theorem breaks_eq_none_iff (filler : Filler K) (text : Text) :
    filler.breaks text = .ok none ↔
      (filler.segmenter text).length < 2 ∨ filler.PassesThrough text := by
  constructor
  · intro h
    by_contra hnone
    obtain ⟨hraw, hpasses⟩ := not_or.mp hnone
    rcases passesThrough_or_laysOut_or_fails (Nat.not_lt.mp hraw) with hpass | laid | ⟨_, hfails⟩
    · exact hpasses hpass
    · exact breaks_ne_none_of_laysOut laid h
    · rw [hfails] at h
      cases h
  · rintro (hraw | hpasses)
    · exact (keeps_of_unbreakable hraw).2.1
    · exact breaks_of_passesThrough hpasses

theorem breaks_nil (h : 2 ≤ (filler.segmenter []).length) :
    filler.breaks [] = .ok (some ⟨[], [], Score.sumStart⟩) := by
  have laid : filler.LaysOut [] := ⟨h, by simp⟩
  have hchunks : filler.chunks [] = [] :=
    chunks_eq_nil_iff.mpr ((pieces_eq_nil_iff h).mpr rfl)
  have hpoints : (filler.method.solve [] filler.width).points = [] := Method.points_nil _ _
  have hbreaks : filler.breaksOf (.chunked [] (filler.method.solve [] filler.width)) =
      some ⟨[], [], Score.sumStart⟩ := by
    simp only [breaksOf, hpoints]
    rfl
  unfold breaks
  rw [layout_eq_chunked laid, hchunks, ← hbreaks]
  rfl

theorem fill_nil (filler : Filler K) : filler.fill [] = .ok [[]] := by
  rcases Nat.lt_or_ge (filler.segmenter []).length 2 with hraw | hraw
  · exact (keeps_of_unbreakable hraw).1
  · have laid : filler.LaysOut [] := ⟨hraw, by simp⟩
    rw [fill_eq_lines laid, rows_of_pieces_eq_nil ((pieces_eq_nil_iff hraw).mpr rfl)]
    rfl

/-- The breaks of a text that is not empty judge each of its lines. -/
theorem length_penalties_of_ne_nil (hne : text ≠ []) {breaks : Breaks K}
    (h : filler.breaks text = .ok (some breaks)) :
    ∃ lines, filler.fill text = .ok lines ∧ breaks.penalties.length = lines.length ∧
      breaks.penalties ≠ [] := by
  have laid := laysOut_of_breaks h
  rw [breaks_eq_of_laysOut laid (mt (pieces_eq_nil_iff laid.offered).mp hne)] at h
  obtain rfl := Option.some.inj (Except.ok.inj h)
  refine ⟨_, fill_eq_lines laid, by rw [List.length_map, List.length_map], ?_⟩
  rw [← List.length_pos_iff, List.length_map, length_rows]
  exact Nat.succ_pos _

/-- A text is without breaks exactly when fewer than two offsets are offered or it is passed through,
and the canonical offsets tell the same unless two or more are offered for the empty text. Breaks
judge each line there is, but those of the empty text judge none. -/
theorem breaks_eq_none_iff_short (filler : Filler K) (text : Text) :
    (filler.breaks text = .ok none ↔
        (filler.segmenter text).length < 2 ∨ filler.PassesThrough text) ∧
      ((filler.breaks text = .ok none ↔
          (Offsets.canonical text (filler.segmenter text)).length < 2 ∨
            filler.PassesThrough text) ↔
        text ≠ [] ∨ (filler.segmenter text).length < 2) ∧
      ∀ breaks, filler.breaks text = .ok (some breaks) →
        ∃ lines, filler.fill text = .ok lines ∧
          (text ≠ [] → breaks.penalties.length = lines.length ∧ breaks.penalties ≠ []) ∧
          (text = [] → lines = [[]] ∧ breaks.points = [] ∧ breaks.penalties = [] ∧
            breaks.total = Score.sumStart) := by
  refine ⟨breaks_eq_none_iff filler text, ?_, ?_⟩
  · rw [breaks_eq_none_iff, Offsets.length_canonical_lt_two_iff]
    by_cases hne : text = []
    · subst hne
      have hpasses := not_passesThrough_nil filler
      simp [hpasses]
    · simp [hne]
  · intro breaks h
    by_cases hne : text = []
    · subst hne
      rw [breaks_nil (laysOut_of_breaks h).offered] at h
      obtain rfl := Option.some.inj (Except.ok.inj h)
      refine ⟨_, fill_nil filler, ?_, fun _ => ⟨rfl, rfl, rfl, rfl⟩⟩
      intro hne
      exact absurd rfl hne
    · obtain ⟨lines, hfill, hjudged⟩ := length_penalties_of_ne_nil hne h
      refine ⟨lines, hfill, fun _ => hjudged, ?_⟩
      intro hnil
      exact absurd hnil hne

/-- A segmenter that reports the start of every text twice. -/
def startTwice : Filler ℕ∞ :=
  ⟨2, .firstFit, .codepoints, .passThrough, fun _ => [0, 0], .unicode⟩

theorem breaks_eq_none_iff_short_startTwice :
    (∃ breaks, startTwice.breaks "日 b".toList = .ok (some breaks) ∧
        ∃ lines, startTwice.fill "日 b".toList = .ok lines ∧
          breaks.penalties.length = lines.length ∧ breaks.penalties ≠ []) ∧
      startTwice.breaks "日\nb".toList = .ok none ∧
      (∃ breaks, startTwice.breaks [] = .ok (some breaks) ∧ breaks.penalties = []) ∧
      ¬ (startTwice.breaks [] = .ok none ↔
        (Offsets.canonical [] (startTwice.segmenter [])).length < 2 ∨
          startTwice.PassesThrough []) := by
  have soft : ∀ c ∈ "日 b".toList, startTwice.classes.isHardBreak c = false := by
    simp [startTwice, CharClasses.unicode, isHardBreak]
  have laid : startTwice.LaysOut "日 b".toList := ⟨by decide, soft⟩
  have hbreaks := breaks_eq_of_laysOut laid (by decide +kernel)
  have hpasses : startTwice.PassesThrough "日\nb".toList :=
    ⟨rfl, by decide, '\n', by decide, by decide⟩
  have hnil : startTwice.breaks [] = .ok (some ⟨[], [], Score.sumStart⟩) := breaks_nil (by decide)
  obtain ⟨lines, hfill, hjudged, -⟩ := (breaks_eq_none_iff_short startTwice _).2.2 _ hbreaks
  obtain ⟨_, -, -, hempty⟩ := (breaks_eq_none_iff_short startTwice _).2.2 _ hnil
  refine ⟨⟨_, hbreaks, lines, hfill, hjudged (by decide)⟩,
    (breaks_eq_none_iff_short startTwice _).1.mpr (Or.inr hpasses),
    ⟨_, hnil, (hempty rfl).2.2.1⟩, ?_⟩
  intro h
  have hshort := (breaks_eq_none_iff_short startTwice []).2.1.mp h
  exact absurd hshort (by decide)

/-- The start of the empty text, reported twice, is one offset in canonical form, and still the text
has breaks. -/
theorem not_forall_breaks_eq_none_iff_short :
    ¬ ∀ (settings : Settings) (segmenter : Segmenter) (classes : CharClasses)
        (filler : Filler Float) (text : Text),
      ofSettings settings segmenter classes = .ok filler →
        (filler.breaks text = .ok none ↔
            (Offsets.canonical text (filler.segmenter text)).length < 2 ∨
              filler.PassesThrough text) ∧
          ∀ breaks lines, filler.breaks text = .ok (some breaks) → filler.fill text = .ok lines →
            breaks.penalties.length = lines.length ∧ breaks.penalties ≠ [] := by
  intro hall
  have haccepted := ofSettings_exponent_zero (show 0 < 2 by decide) (fun _ => [0, 0]) .unicode
  have hbreaks := (hall _ _ _ _ [] haccepted).1.mpr (Or.inl (by decide))
  rw [breaks_nil (by decide)] at hbreaks
  cases hbreaks

end LineFill.Filler
