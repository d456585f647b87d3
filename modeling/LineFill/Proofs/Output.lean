import LineFill.Program
import LineFill.Proofs.Batch
import LineFill.Proofs.LinePenalties
import LineFill.Proofs.Resolution

/-!
What the program writes. A run with settings that can be used writes one block of lines for every line
of its input, in order, or nothing if a hard break stops it.
-/
namespace LineFill

namespace Stream

theorem length_linesFrom (begun bytes : List UInt8) :
    (linesFrom begun bytes).length = bytes.count lineFeed +
      if bytes.getLast? = some lineFeed ∨ bytes = [] ∧ begun = [] then 0 else 1 := by
  induction bytes generalizing begun with
  | nil => cases begun <;> simp [linesFrom]
  | cons b bytes ih =>
    by_cases hb : b = lineFeed
    · rw [linesFrom, if_pos hb, List.length_cons, ih, hb, List.count_cons_self]
      cases bytes with
      | nil => simp
      | cons c bytes => simp [Nat.add_right_comm]
    · rw [linesFrom, if_neg hb, ih, List.count_cons_of_ne hb]
      cases bytes with
      | nil => simp [hb]
      | cons c bytes => simp

/-- A stream has an element for every line feed, and one for what follows the last of them. -/
theorem length_elements (bytes : List UInt8) :
    (elements bytes).length = bytes.count lineFeed +
      if bytes.getLast? = some lineFeed ∨ bytes = [] then 0 else 1 := by
  simp [elements, length_linesFrom]

end Stream

namespace Filler

variable {filler : Filler Float} {text : Text} {lines : List Text}

theorem ne_nil_of_fill (h : filler.fill text = .ok lines) : lines ≠ [] := by
  by_cases laid : filler.LaysOut text
  · rw [fill_eq_lines laid] at h
    obtain rfl := Except.ok.inj h
    have hlen := length_rows filler text
    rw [Ne, List.map_eq_nil_iff, ← List.length_eq_zero_iff, hlen]
    exact Nat.succ_ne_zero _
  · rw [eq_singleton_of_fill h laid]
    exact List.cons_ne_nil _ _

theorem exists_of_violations_eq_nil {settings : Settings} (h : settings.violations = []) :
    ∃ filler, Filler.unicode settings = .ok filler := by
  unfold Filler.unicode ofSettings
  rw [h]
  exact ⟨_, rfl⟩

end Filler

namespace Program

/-- By policy the line cannot be filled for its first hard break. -/
structure Fails (policy : HardBreakPolicy) (line : List UInt8) (found : HardBreak) : Prop where
  policy_eq : policy = .fail
  first : ∃ text, line = Text.encode text ∧ CharClasses.unicode.IsFirstBreak text found

/-- What the program writes for a line of its input. -/
inductive Block (filler : Filler Float) : List UInt8 → List UInt8 → Prop
  | malformed {line : List UInt8} (h : ∀ text, line ≠ Text.encode text) :
      Block filler line (Stream.terminated line)
  | passedThrough {text : Text} (policy : filler.policy = .passThrough)
      (hard : ∃ c ∈ text, c.toNat ∈ hardBreakCodes) :
      Block filler text.encode (Stream.terminated text.encode)
  | filled {text : Text} {lines : List Text} (soft : ∀ c ∈ text, c.toNat ∉ hardBreakCodes)
      (h : filler.fill text = .ok lines) :
      Block filler text.encode ((lines.map Text.encode).flatMap Stream.terminated)

section Block

variable {filler : Filler Float} {line block : List UInt8} {text : Text}

/-- Every block ends at least one line. -/
theorem Block.lineFeed_mem (h : Block filler line block) : Stream.lineFeed ∈ block := by
  cases h with
  | malformed h => simp [Stream.terminated]
  | passedThrough policy hard => simp [Stream.terminated]
  | filled soft h =>
    obtain ⟨first, hfirst⟩ := List.exists_mem_of_ne_nil _ (Filler.ne_nil_of_fill h)
    rw [List.mem_flatMap]
    exact ⟨_, List.mem_map_of_mem hfirst, by simp [Stream.terminated]⟩

theorem hard_of_isFirstBreak {found : HardBreak} (h : CharClasses.unicode.IsFirstBreak text found) :
    ∃ c ∈ text, isHardBreak c = true := by
  obtain ⟨before, after, rfl, -, hard, -⟩ := h
  exact ⟨found.char, by simp, hard⟩

/-- A text with a hard break can be broken elsewhere too. -/
theorem two_le_of_isFirstBreak (h : filler.IsUnicode) {found : HardBreak}
    (first : CharClasses.unicode.IsFirstBreak text found) : 2 ≤ (filler.segmenter text).length :=
  (h.exists_isFirstBreak (hard_of_isFirstBreak first)).1

/-- A line that does not fail is malformed, has no hard break, or is passed through. -/
theorem line_cases (hline : ∀ found, ¬ Fails filler.policy line found) :
    (∀ text, line ≠ Text.encode text) ∨
      (∃ text, line = Text.encode text ∧ ∀ c ∈ text, isHardBreak c = false) ∨
      ∃ text found, line = Text.encode text ∧ filler.policy = .passThrough ∧
        CharClasses.unicode.IsFirstBreak text found := by
  rcases Filler.exists_encode_or line with ⟨text, rfl⟩ | hmalformed
  · right
    by_cases hard : ∃ c ∈ text, isHardBreak c = true
    · right
      obtain ⟨found, first⟩ := CharClasses.unicode.exists_isFirstBreak hard
      have hpolicy : filler.policy = .passThrough := by
        cases hpolicy : filler.policy with
        | fail => exact absurd ⟨hpolicy, text, rfl, first⟩ (hline found)
        | passThrough => rfl
      exact ⟨text, found, rfl, hpolicy, first⟩
    · left
      exact ⟨text, rfl, by simpa using hard⟩
  · exact Or.inl hmalformed

theorem soft_iff : (∀ c ∈ text, c.toNat ∉ hardBreakCodes) ↔ ∀ c ∈ text, isHardBreak c = false := by
  simp only [← isHardBreak_iff, Bool.not_eq_true]

/-- A line that does not fail is written as a block. -/
theorem exists_block (h : filler.IsUnicode) (hline : ∀ found, ¬ Fails filler.policy line found) :
    ∃ filled, filler.fillBytes line = .ok filled ∧
      Block filler line ((Stream.outputLines filled).flatMap Stream.terminated) := by
  rcases line_cases hline with hmalformed | ⟨text, rfl, soft⟩ | ⟨text, found, rfl, hpolicy, first⟩
  · refine ⟨_, Filler.fillBytes_malformed hmalformed, ?_⟩
    simpa [Stream.outputLines] using Block.malformed hmalformed
  · have hpasses : ¬ filler.PassesThrough text := by
      rintro ⟨-, -, c, hc, hard⟩
      rw [h.classes] at hard
      exact absurd hard (by simp [CharClasses.unicode, soft c hc])
    refine ⟨_, by rw [Filler.fillBytes_encode hpasses, h.fill_eq soft]; rfl, ?_⟩
    exact .filled (soft_iff.mpr soft) (h.fill_eq soft)
  · have hoffered := two_le_of_isFirstBreak h first
    refine ⟨_, (Filler.passes_of_isFirstBreak hoffered (h.classes ▸ first) hpolicy).2.2, ?_⟩
    have hard := hard_of_isFirstBreak first
    simp only [isHardBreak_iff] at hard
    simpa [Stream.outputLines] using Block.passedThrough hpolicy hard

theorem fillBytes_of_fails (h : filler.IsUnicode) {found : HardBreak}
    (hline : Fails filler.policy line found) :
    filler.fillBytes line = .error (.embeddedLineBreak 0 found) := by
  obtain ⟨hpolicy, text, rfl, first⟩ := hline
  have hoffered := two_le_of_isFirstBreak h first
  exact (Filler.fails_of_isFirstBreak hoffered (h.classes ▸ first) hpolicy).2.2

/-- Lines that do not fail are written one after the other. -/
theorem exists_blocks (h : filler.IsUnicode) {lines : List (List UInt8)}
    (hlines : ∀ line ∈ lines, ∀ found, ¬ Fails filler.policy line found) :
    ∃ (filled : List Filled) (block : List UInt8 → List UInt8),
      filler.fillBatch (lines.map some) = .ok filled ∧ Stream.write filled = lines.flatMap block ∧
        ∀ line ∈ lines, Block filler line (block line) := by
  have : Nonempty Filled := ⟨.absent⟩
  choose! filled hfilled hblock using fun line hline => exists_block h (hlines line hline)
  have hitems : ∀ item ∈ lines.map some,
      filler.fillItem 0 item = .ok (item.elim .absent filled) := by
    simp only [List.forall_mem_map]
    exact hfilled
  refine ⟨_, _, Filler.fillBatch_eq_map hitems, ?_, hblock⟩
  simp [Stream.write, List.flatMap_assoc, List.flatMap_map]

/-- One line that fails is enough to stop the batch. -/
theorem exists_failure (h : filler.IsUnicode) {lines : List (List UInt8)} (hline : line ∈ lines)
    {found : HardBreak} (hfails : Fails filler.policy line found) :
    ∃ failure, filler.fillBatch (lines.map some) = .error failure := by
  have hitems : ¬ ∀ item ∈ lines.map some, ∃ filled, filler.fillItem 0 item = .ok filled := by
    intro hall
    obtain ⟨filled, hfilled⟩ := hall (some line) (List.mem_map_of_mem hline)
    have herror : filler.fillItem 0 (some line) = _ := fillBytes_of_fails h hfails
    rw [herror] at hfilled
    cases hfilled
  obtain ⟨before, item, after, first, hsplit, hbefore, hfirst⟩ := Filler.exists_first_failure hitems
  rw [hsplit]
  exact ⟨_, Filler.fillBatch_eq_error after hbefore hfirst⟩

end Block

section Run

variable {env : Settings.Environment} {arguments : List String} {input : List UInt8}
  {options : Options} {filler : Filler Float}

theorem runWith_of_error {refusal : Refusal} (h : Options.read env arguments = .error refusal)
    (filters : LogNotation) : runWith filters env arguments input = refuse refusal := by
  unfold runWith
  rw [h]

theorem runWith_of_ok (h : Options.read env arguments = .ok options) (filters : LogNotation) :
    runWith filters env arguments input =
      (runOptions options input).response (filters.inForce env) := by
  unfold runWith
  rw [h]

/-- The lines of the input are the items of a batch. -/
theorem runOptions_result (h : Filler.unicode options.settings = .ok filler) (input : List UInt8) :
    (runOptions options input).result =
      filler.fillBatch ((Stream.elements input).map some) := by
  unfold runOptions
  rw [h]
  simp [runFiller, Filler.fillBatch, Function.comp_def]

/-- A run that succeeds writes what it has filled, and its log. -/
theorem Run.response_of_ok {run : Run} {filled : List Filled} (h : run.result = .ok filled)
    (filter : LogFilter) : run.response filter =
      ⟨0, Stream.write filled, (run.events.filter filter).map Event.line⟩ := by
  unfold Run.response
  rw [h]

/-- A run that fails writes nothing but its log, with the failure at the end. -/
theorem Run.response_of_error {run : Run} {failure : Failure} (h : run.result = .error failure)
    (filter : LogFilter) : run.response filter =
      rejected ((run.events.filter filter).map Event.line ++ [failureLine failure]) := by
  unfold Run.response
  rw [h]

end Run

/-- A line that is filled, an empty one, one with a hard break and one that is malformed. -/
def mixedLines : List UInt8 := Text.encode "ab cd\r\n\nx\u000By\n".toList ++ [0xFF]

theorem fails_verticalTab : Fails .fail (Text.encode ['x', '\u000B', 'y']) ⟨1, '\u000B'⟩ :=
  ⟨rfl, _, rfl, ['x'], ['y'], rfl, rfl, rfl, by simp [CharClasses.unicode, isHardBreak]⟩

end Program

end LineFill
