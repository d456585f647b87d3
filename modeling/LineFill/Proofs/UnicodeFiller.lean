import LineFill.Proofs.LaidOut

/-!
Fillers with the line breaks and character classes of Unicode. They offer two offsets or more for every
text but the empty one, so only a hard break keeps a text from being laid out.
-/
namespace LineFill

namespace Text

theorem ink_unicode (text : Text) : CharClasses.unicode.ink text = text.trimEnd := rfl

theorem trimEnd_trimEnd (text : Text) : text.trimEnd.trimEnd = text.trimEnd :=
  List.rdropWhile_idempotent isBlank text

/-- Only the end of a text decides whether there is a blank at its end. -/
theorem trimEnd_append_eq_iff (s : Text) {t : Text} (h : t ≠ []) :
    trimEnd (s ++ t) = s ++ t ↔ t.trimEnd = t := by
  have hst : s ++ t ≠ [] := List.append_ne_nil_of_right_ne_nil s h
  have hlast : (s ++ t).getLast hst = t.getLast h := List.getLast_append_of_ne_nil hst h
  rw [← ink_unicode, ← ink_unicode, CharClasses.ink, CharClasses.ink,
    List.rdropWhile_eq_self_iff, List.rdropWhile_eq_self_iff]
  constructor
  · intro hs _
    rw [← hlast]
    exact hs hst
  · intro ht _
    rw [hlast]
    exact ht h

end Text

namespace Break

/-- The pieces between the line breaks of Unicode. -/
def pieces (text : Text) : List Text := text.pieces (Offsets.canonical text (offsets text))

theorem two_le_length_offsets {text : Text} (h : text ≠ []) : 2 ≤ (offsets text).length := by
  have hend : text.byteLength ∈ (opportunities text).filter (0 < ·) := by
    rw [List.mem_filter]
    exact ⟨List.mem_of_getLast? (getLast?_opportunities h), by simpa using Text.byteLength_pos h⟩
  have hlen := List.length_pos_of_mem hend
  unfold offsets
  rw [List.length_cons]
  omega

theorem length_walk_le (state : State) (joined : Bool) (offset : Nat) (text : Text) :
    (walk state joined offset text).length ≤ text.length + 1 := by
  induction text generalizing state joined offset with
  | nil =>
    rw [walk]
    split <;> simp
  | cons c cs ih =>
    have hlater := ih (Transition.onClass state (BreakClass.ofChar c)).next
      (BreakClass.ofChar c = .zeroWidthJoiner) (offset + c.utf8Size)
    rw [walk, List.length_cons]
    split
    · rw [List.length_cons]
      omega
    · omega

theorem length_offsets_le (text : Text) : (offsets text).length ≤ text.byteLength + 2 := by
  have hwalk := length_walk_le .startOfText false 0 text
  have hfilter := List.length_filter_le (0 < ·) (opportunities text)
  have hlen := Text.length_le text
  unfold opportunities at hfilter
  unfold offsets opportunities
  rw [List.length_cons]
  omega

theorem nil_not_mem_pieces (text : Text) : [] ∉ pieces text := by
  by_cases hne : text = []
  · rw [hne]
    exact List.not_mem_nil
  · exact (Offsets.canonical_of_two_le (two_le_length_offsets hne)).pieces.2.1

end Break

namespace Filler

/-- The filler takes its line breaks and character classes from Unicode. -/
structure IsUnicode {K : Type} (filler : Filler K) : Prop where
  segmenter : filler.segmenter = Break.offsets
  classes : filler.classes = .unicode

namespace IsUnicode

variable {K : Type} {filler : Filler K} {text : Text}

theorem pieces_eq (h : filler.IsUnicode) (text : Text) : filler.pieces text = Break.pieces text := by
  unfold pieces Break.pieces
  rw [h.segmenter]

theorem length_segmenter_lt (h : filler.IsUnicode) :
    (filler.segmenter text).length < 2 ↔ text = [] := by
  rw [h.segmenter]
  constructor
  · intro hlen
    by_contra hne
    exact absurd (Break.two_le_length_offsets hne) (Nat.not_le.mpr hlen)
  · rintro rfl
    decide

variable [Score K]

/-- A text with no hard break is not refused. -/
theorem fill_eq (h : filler.IsUnicode) (soft : ∀ c ∈ text, isHardBreak c = false) :
    filler.fill text = .ok ((filler.rows text).map filler.classes.lineOf) := by
  by_cases hne : text = []
  · have hpieces : filler.pieces [] = [] := by
      rw [h.pieces_eq]
      rfl
    unfold fill
    rw [hne, rows_of_pieces_eq_nil hpieces, layout_eq_unbreakable (h.length_segmenter_lt.mpr rfl)]
    rfl
  · refine fill_eq_lines ⟨?_, ?_⟩
    · rw [h.segmenter]
      exact Break.two_le_length_offsets hne
    · rw [h.classes]
      exact soft

end IsUnicode

variable {settings : Settings} {filler : Filler Float} {text : Text}

theorem eq_of_unicode (h : Filler.unicode settings = .ok filler) :
    filler.segmenter = Break.offsets ∧ filler.classes = .unicode := by
  unfold Filler.unicode ofSettings at h
  split at h
  · obtain rfl := Except.ok.inj h
    exact ⟨rfl, rfl⟩
  · cases h

theorem isUnicode_of_unicode (h : Filler.unicode settings = .ok filler) : filler.IsUnicode :=
  ⟨(eq_of_unicode h).1, (eq_of_unicode h).2⟩

theorem policy_of_unicode (h : Filler.unicode settings = .ok filler) :
    filler.policy = settings.policy := by
  unfold Filler.unicode ofSettings at h
  split at h
  · obtain rfl := Except.ok.inj h
    rfl
  · cases h

theorem pieces_of_unicode (h : Filler.unicode settings = .ok filler) (text : Text) :
    filler.pieces text = Break.pieces text :=
  (isUnicode_of_unicode h).pieces_eq text

theorem fill_unicode (h : Filler.unicode settings = .ok filler)
    (soft : ∀ c ∈ text, isHardBreak c = false) :
    filler.fill text = .ok ((filler.rows text).map filler.classes.lineOf) :=
  (isUnicode_of_unicode h).fill_eq soft

theorem nil_not_mem_row (h : Filler.unicode settings = .ok filler) {row : List Text}
    (hrow : row ∈ filler.rows text) : [] ∉ row := by
  intro hnil
  have hpiece : [] ∈ filler.pieces text := by
    rw [← flatten_rows filler text]
    exact List.mem_flatten.mpr ⟨row, hrow, hnil⟩
  rw [pieces_of_unicode h] at hpiece
  exact Break.nil_not_mem_pieces text hpiece

theorem ofSettings_exponent_zero {width : Nat} (h : 0 < width) (segmenter : Segmenter)
    (classes : CharClasses) :
    ofSettings ⟨width, 0, none, .fail, .codepoints⟩ segmenter classes =
      .ok ⟨width, .firstFit, .codepoints, .fail, segmenter, classes⟩ := by
  have hwidth : ¬ (width : Int) ≤ 0 := by omega
  have hexponent : Settings.exponentViolations 0 = [] := by decide
  have hmethod : Method.ofExponent (0 : Float) = .firstFit := rfl
  have hviolations : Settings.violations ⟨width, 0, none, .fail, .codepoints⟩ = [] := by
    unfold Settings.violations Settings.widthViolations
    rw [if_neg hwidth, List.nil_append]
    exact hexponent
  unfold ofSettings
  rw [hviolations]
  simp [Settings.method, hmethod]

theorem unicode_exponent_zero {width : Nat} (h : 0 < width) :
    Filler.unicode ⟨width, 0, none, .fail, .codepoints⟩ =
      .ok ⟨width, .firstFit, .codepoints, .fail, Break.offsets, .unicode⟩ :=
  ofSettings_exponent_zero h Break.offsets .unicode

end Filler

end LineFill
