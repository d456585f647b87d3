import LineFill.Proofs.Encoding
import LineFill.Proofs.ScoreLaws
import LineFill.Proofs.UnicodeFiller

/-!
Hard breaks. A text that its segmenter offers to break fails, or is passed through, exactly when some
character is a hard break, and the first of them is reported. Lines, breaks and bytes agree on this.
-/
namespace LineFill

/-- The code points of the hard breaks of Unicode. -/
def hardBreakCodes : List Nat := [0xA, 0xB, 0xC, 0xD, 0x85, 0x2028, 0x2029]

theorem isHardBreak_iff {c : Char} : isHardBreak c = true ↔ c.toNat ∈ hardBreakCodes := by
  simp only [isHardBreak, hardBreakCodes, Bool.or_eq_true, Bool.and_eq_true, decide_eq_true_eq,
    List.mem_cons, List.not_mem_nil, or_false]
  omega

theorem CharClasses.mem_flatten_of_mem_lineOf (classes : CharClasses) {row : List Text} {c : Char}
    (h : c ∈ classes.lineOf row) : c ∈ row.flatten := by
  rw [← classes.lineOf_append_gapOf row]
  exact List.mem_append_left _ h

namespace Filler

variable {K : Type} {filler : Filler K} {text : Text}

theorem accept_broken_of_fail (h : filler.policy = .fail) (element : Nat) (found : HardBreak) :
    filler.accept element (.broken found) = .error (.embeddedLineBreak element found) := by
  unfold accept failure?
  rw [h]

theorem accept_broken_of_passThrough (h : filler.policy = .passThrough) (element : Nat)
    (found : HardBreak) : filler.accept element (.broken found) = .ok (.broken found) := by
  unfold accept failure?
  rw [h]

/-- A text with a hard break is not empty, so its end is reported as a line break. -/
theorem IsUnicode.exists_isFirstBreak (h : filler.IsUnicode)
    (hard : ∃ c ∈ text, isHardBreak c = true) :
    2 ≤ (filler.segmenter text).length ∧ ∃ found, filler.classes.IsFirstBreak text found := by
  constructor
  · rw [← Nat.not_lt, h.length_segmenter_lt]
    rintro rfl
    obtain ⟨c, hc, -⟩ := hard
    cases hc
  · apply filler.classes.exists_isFirstBreak
    rw [h.classes]
    exact hard

variable [Score K]

theorem read_encode (filler : Filler K) (text : Text) :
    filler.read (some text.encode) = .text text.encode text (filler.layout text) := by
  unfold read
  simp only [Text.decode_encode]

/-- The bytes of a text are filled as the text is, or kept if it is passed through. -/
theorem fillItem_encode (filler : Filler K) (element : Nat) (text : Text) :
    filler.fillItem element (some text.encode) =
      (filler.accept element (filler.layout text)).map fun
        | .broken _ => .verbatim text.encode
        | layout => .lines (linesOf text layout) := by
  unfold fillItem
  rw [read_encode]
  rfl

/-- Every character of a line is one of the text. -/
theorem mem_of_mem_line {lines : List Text} (h : filler.fill text = .ok lines) {line : Text}
    (hline : line ∈ lines) {c : Char} (hc : c ∈ line) : c ∈ text := by
  by_cases laid : filler.LaysOut text
  · rw [fill_eq_lines laid] at h
    obtain rfl := Except.ok.inj h
    obtain ⟨row, hrow, rfl⟩ := List.mem_map.mp hline
    have hflat := filler.classes.mem_flatten_of_mem_lineOf hc
    rw [← flatten_pieces laid.offered, ← flatten_rows filler text, List.flatten_flatten]
    exact List.mem_flatten.mpr ⟨row.flatten, List.mem_map_of_mem hrow, hflat⟩
  · obtain rfl := eq_singleton_of_fill h laid
    rw [List.mem_singleton.mp hline] at hc
    exact hc

section Outcomes

variable {found : HardBreak}

theorem fails_of_isFirstBreak (h : 2 ≤ (filler.segmenter text).length)
    (first : filler.classes.IsFirstBreak text found) (hpolicy : filler.policy = .fail) :
    filler.fill text = .error (.embeddedLineBreak 0 found) ∧
      filler.breaks text = .error (.embeddedLineBreak 0 found) ∧
      filler.fillBytes text.encode = .error (.embeddedLineBreak 0 found) := by
  have haccept := accept_broken_of_fail hpolicy 0 found
  unfold fill breaks fillBytes
  rw [fillItem_encode, layout_eq_broken h first, haccept]
  exact ⟨rfl, rfl, rfl⟩

theorem passes_of_isFirstBreak (h : 2 ≤ (filler.segmenter text).length)
    (first : filler.classes.IsFirstBreak text found) (hpolicy : filler.policy = .passThrough) :
    filler.fill text = .ok [text] ∧ filler.breaks text = .ok none ∧
      filler.fillBytes text.encode = .ok (.verbatim text.encode) := by
  have haccept := accept_broken_of_passThrough hpolicy 0 found
  unfold fill breaks fillBytes
  rw [fillItem_encode, layout_eq_broken h first, haccept]
  exact ⟨rfl, rfl, rfl⟩

theorem succeeds_of_laysOut (laid : filler.LaysOut text) :
    (∃ lines, filler.fill text = .ok lines) ∧ (∃ breaks, filler.breaks text = .ok breaks) ∧
      ∃ lines, filler.fillBytes text.encode = .ok (.lines lines) := by
  unfold fill breaks fillBytes
  rw [fillItem_encode, layout_eq_chunked laid]
  exact ⟨⟨_, rfl⟩, ⟨_, rfl⟩, ⟨_, rfl⟩⟩

theorem keeps_of_unbreakable (h : (filler.segmenter text).length < 2) :
    filler.fill text = .ok [text] ∧ filler.breaks text = .ok none ∧
      filler.fillBytes text.encode = .ok (.lines [text]) := by
  unfold fill breaks fillBytes
  rw [fillItem_encode, layout_eq_unbreakable h]
  exact ⟨rfl, rfl, rfl⟩

theorem IsUnicode.fails_iff (h : filler.IsUnicode) :
    (∃ failure, filler.fill text = .error failure) ↔
      filler.policy = .fail ∧ ∃ c ∈ text, isHardBreak c = true := by
  constructor
  · rintro ⟨failure, hfail⟩
    have hard : ∃ c ∈ text, isHardBreak c = true := by
      by_contra hsoft
      have soft : ∀ c ∈ text, isHardBreak c = false := by simpa using hsoft
      have hfill := h.fill_eq soft
      rw [hfail] at hfill
      cases hfill
    refine ⟨?_, hard⟩
    obtain ⟨hraw, found, first⟩ := h.exists_isFirstBreak hard
    cases hpolicy : filler.policy with
    | fail => rfl
    | passThrough =>
      rw [(passes_of_isFirstBreak hraw first hpolicy).1] at hfail
      cases hfail
  · rintro ⟨hpolicy, hard⟩
    obtain ⟨hraw, found, first⟩ := h.exists_isFirstBreak hard
    exact ⟨_, (fails_of_isFirstBreak hraw first hpolicy).1⟩

end Outcomes

/-- Lines, breaks and bytes fail by policy on the first hard break, pass the text through by policy,
and fail on nothing else. -/
theorem hardBreak_decides (filler : Filler K) (text : Text) :
    (2 ≤ (filler.segmenter text).length →
      ((∃ c ∈ text, filler.classes.isHardBreak c = true) →
        ∃ found, filler.classes.IsFirstBreak text found ∧
          (filler.policy = .fail →
            filler.fill text = .error (.embeddedLineBreak 0 found) ∧
              filler.breaks text = .error (.embeddedLineBreak 0 found) ∧
              filler.fillBytes text.encode = .error (.embeddedLineBreak 0 found)) ∧
          (filler.policy = .passThrough →
            filler.fill text = .ok [text] ∧ filler.breaks text = .ok none ∧
              filler.fillBytes text.encode = .ok (.verbatim text.encode))) ∧
      ((∀ c ∈ text, filler.classes.isHardBreak c = false) →
        (∃ lines, filler.fill text = .ok lines) ∧ (∃ breaks, filler.breaks text = .ok breaks) ∧
          ∃ lines, filler.fillBytes text.encode = .ok (.lines lines))) ∧
      ((filler.segmenter text).length < 2 →
        filler.fill text = .ok [text] ∧ filler.breaks text = .ok none ∧
          filler.fillBytes text.encode = .ok (.lines [text])) ∧
      ∀ settings stock, Filler.unicode settings = .ok stock →
        ((∃ failure, stock.fill text = .error failure) ↔
          settings.policy = .fail ∧ ∃ c ∈ text, c.toNat ∈ hardBreakCodes) ∧
        (settings.policy = .fail → ∀ lines, stock.fill text = .ok lines →
          ∀ line ∈ lines, ∀ c ∈ line, c.toNat ∉ hardBreakCodes) := by
  refine ⟨?_, keeps_of_unbreakable, ?_⟩
  · intro hraw
    constructor
    · intro hard
      obtain ⟨found, first⟩ := filler.classes.exists_isFirstBreak hard
      exact ⟨found, first, fails_of_isFirstBreak hraw first, passes_of_isFirstBreak hraw first⟩
    · intro soft
      exact succeeds_of_laysOut ⟨hraw, soft⟩
  · intro settings stock hstock
    have hfails : (∃ failure, stock.fill text = .error failure) ↔
        stock.policy = .fail ∧ ∃ c ∈ text, isHardBreak c = true :=
      (isUnicode_of_unicode hstock).fails_iff
    simp only [policy_of_unicode hstock, isHardBreak_iff] at hfails
    refine ⟨hfails, ?_⟩
    intro hpolicy lines hfill line hline c hc hcode
    have hmem := mem_of_mem_line hfill hline hc
    obtain ⟨failure, hfail⟩ := hfails.mpr ⟨hpolicy, c, hmem, hcode⟩
    rw [hfill] at hfail
    cases hfail

/-- A filler for which the tilde is the hard break. The offsets are out of order and past the end. -/
def tildes (policy : HardBreakPolicy) : Filler ℕ∞ :=
  ⟨3, .leastRagged (Score.ofNat 2), .cells, policy, fun _ => [99, 4, 4, 1],
    ⟨fun c => c = '~', LineFill.isBlank⟩⟩

theorem hardBreak_decides_tildes :
    2 ≤ ((tildes .fail).segmenter "日 a~b~".toList).length ∧
      (∃ c ∈ "日 a~b~".toList, (tildes .fail).classes.isHardBreak c = true) ∧
      (tildes .fail).breaks "日 a~b~".toList = .error (.embeddedLineBreak 0 ⟨5, '~'⟩) ∧
      (tildes .fail).fillBytes (Text.encode "日 a~b~".toList) =
        .error (.embeddedLineBreak 0 ⟨5, '~'⟩) ∧
      (tildes .passThrough).fill "日 a~b~".toList = .ok ["日 a~b~".toList] ∧
      ∃ stock failure, Filler.unicode ⟨3, 0, none, .fail, .codepoints⟩ = .ok stock ∧
        stock.fill ['a', '\u2028'] = .error failure := by
  have offered (policy : HardBreakPolicy) :
      2 ≤ ((tildes policy).segmenter "日 a~b~".toList).length := by simp [tildes]
  have hard (policy : HardBreakPolicy) :
      ∃ c ∈ "日 a~b~".toList, (tildes policy).classes.isHardBreak c = true :=
    ⟨'~', by decide, by simp [tildes]⟩
  have hfill : (tildes .fail).fill "日 a~b~".toList = .error (.embeddedLineBreak 0 ⟨5, '~'⟩) := by
    decide +kernel
  obtain ⟨found, -, hfail, -⟩ :=
    ((hardBreak_decides (tildes .fail) "日 a~b~".toList).1 (offered .fail)).1 (hard .fail)
  obtain ⟨-, -, -, hpass⟩ := ((hardBreak_decides (tildes .passThrough) "日 a~b~".toList).1
    (offered .passThrough)).1 (hard .passThrough)
  obtain ⟨hfound, hbreaks, hbytes⟩ := hfail rfl
  rw [hfill] at hfound
  obtain rfl : ⟨5, '~'⟩ = found := by simpa using hfound
  have hstock := unicode_exponent_zero (show 0 < 3 by decide)
  obtain ⟨failure, hrefused⟩ :=
    ((hardBreak_decides (tildes .fail) ['a', '\u2028']).2.2 _ _ hstock).1.mpr
      ⟨rfl, '\u2028', by decide, by decide⟩
  exact ⟨offered .fail, hard .fail, hbreaks, hbytes, (hpass rfl).1, _, failure, hstock, hrefused⟩

end Filler

end LineFill
