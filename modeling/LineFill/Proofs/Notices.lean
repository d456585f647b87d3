import LineFill.Proofs.Output
import LineFill.Proofs.Segmentation

/-!
Notices. At the default threshold the program says of a line that is malformed or passed through where
it is, and nothing of a line that it fills or that fails.
-/
namespace LineFill

namespace Filler

section Batch

variable {filler : Filler Float} {before : List (Element Float)}

/-- Elements that do not fail are reported one after the other. -/
theorem batchEvents_append (number : Nat) (after : List (Element Float))
    (h : ∀ element ∈ before, ∀ number, filler.elementFailure? number element = none) :
    filler.batchEvents number (before ++ after) =
      ((before.zipIdx number).flatMap fun (element, i) => filler.elementEvents i element) ++
        filler.batchEvents (number + before.length) after := by
  induction before generalizing number with
  | nil => rfl
  | cons element before ih =>
    obtain ⟨helement, hbefore⟩ := List.forall_mem_cons.mp h
    rw [List.cons_append, batchEvents, helement, ih (number + 1) hbefore, List.zipIdx_cons,
      List.flatMap_cons, List.append_assoc, List.length_cons, Nat.add_assoc, Nat.add_comm 1]

end Batch

namespace IsUnicode

variable {filler : Filler Float} {text : Text}

/-- No offset that the line breaks of Unicode give is dropped. -/
theorem dropEvents_eq_nil (h : filler.IsUnicode) : filler.dropEvents text = [] := by
  simp [dropEvents, h.segmenter, Break.droppedCount_offsets]

theorem layout_broken (h : filler.IsUnicode) {found : HardBreak}
    (first : CharClasses.unicode.IsFirstBreak text found) : filler.layout text = .broken found :=
  layout_eq_broken (Program.two_le_of_isFirstBreak h first) (h.classes ▸ first)

/-- A text with no hard break is laid out, or it is empty. -/
theorem layout_cases (h : filler.IsUnicode) (soft : ∀ c ∈ text, isHardBreak c = false) :
    filler.layout text = .unbreakable ∨
      ∃ chunks solution, filler.layout text = .chunked chunks solution := by
  rcases Nat.lt_or_ge (filler.segmenter text).length 2 with hraw | hraw
  · exact Or.inl (layout_eq_unbreakable hraw)
  · right
    have laid : filler.LaysOut text := ⟨hraw, h.classes ▸ soft⟩
    exact ⟨_, _, layout_eq_chunked laid⟩

end IsUnicode

end Filler

namespace Program

/-- The lines of a log at the default threshold. -/
def warned (events : List (Event Float)) : List String :=
  (events.filter (·.level.rank ≤ Level.warn.rank)).map Event.line

@[simp] theorem warned_nil : warned [] = [] := rfl

@[simp] theorem warned_append (first rest : List (Event Float)) :
    warned (first ++ rest) = warned first ++ warned rest := by
  simp [warned]

theorem warned_flatMap {α : Type} (items : List α) (events : α → List (Event Float)) :
    warned (items.flatMap events) = items.flatMap fun item => warned (events item) := by
  simp [warned, List.filter_flatMap, List.map_flatMap]

def ignoredLine (violation : Violation) : String :=
  "WARN linewrap: ignoring environment value warning=" ++ violation.message

def malformedLine (number validUpTo : Nat) : String :=
  "WARN linewrap::wrap: malformed utf-8, element left unwrapped element=" ++ toString number ++
    " valid_up_to=" ++ toString validUpTo

def passedLine (number offset : Nat) : String :=
  "WARN linewrap::wrap: line break in element, left unwrapped element=" ++ toString number ++
    " byte_offset=" ++ toString offset

/-- An event with two values as it is written. -/
theorem line_eq (event : Event Float) (first second : String × String)
    (h : event.values = [first, second]) :
    event.line = (event.level.name ++ " " ++ event.speaker ++ ": " ++ event.message ++ " " ++
      first.1 ++ "=") ++ first.2 ++ (" " ++ second.1 ++ "=") ++ second.2 := by
  unfold Event.line
  rw [h]
  simp [String.append_assoc]

theorem line_settingIgnored (violation : Violation) :
    (Event.settingIgnored violation).line = ignoredLine violation := by
  have hline : (Event.settingIgnored violation).line = "WARN" ++ " " ++ "linewrap" ++ ": " ++
      ("ignoring environment value" ++ " " ++ ("warning" ++ "=" ++ violation.message)) := rfl
  rw [hline]
  simp only [← String.append_assoc]
  rfl

theorem line_malformedKept (number validUpTo : Nat) :
    (Event.malformedKept number validUpTo).line = malformedLine number validUpTo :=
  line_eq _ ("element", toString number) ("valid_up_to", toString validUpTo) rfl

theorem line_hardBreakPassed (number offset : Nat) :
    (Event.hardBreakPassed number offset).line = passedLine number offset :=
  line_eq _ ("element", toString number) ("byte_offset", toString offset) rfl

/-- What the program says of a line that it does not refuse, which is that number in its input. -/
inductive Notice (policy : HardBreakPolicy) (number : Nat) : List UInt8 → List String → Prop
  | malformed {line : List UInt8} {validUpTo : Nat} (h : ∀ text, line ≠ Text.encode text)
      (longest : Text.IsLongestForm line validUpTo) :
      Notice policy number line [malformedLine number validUpTo]
  | passedThrough {text : Text} {found : HardBreak} (policy_eq : policy = .passThrough)
      (first : CharClasses.unicode.IsFirstBreak text found) :
      Notice policy number text.encode [passedLine number found.offset]
  | filled {text : Text} (soft : ∀ c ∈ text, c.toNat ∉ hardBreakCodes) :
      Notice policy number text.encode []

section Notice

variable {filler : Filler Float} {line : List UInt8} {text : Text} {found : HardBreak}

/-- The plan of a text is no warning. -/
theorem warned_layoutEvents (number : Nat) (chunks : List Chunk) (solution : Solution Float) :
    warned (filler.layoutEvents number (.chunked chunks solution)) = [] := by
  have hplan : warned (Filler.planEvents chunks solution) = [] := by
    unfold Filler.planEvents
    split
    · split <;> simp [warned, Event.level, Level.rank]
    · rfl
  have hevents : filler.layoutEvents number (.chunked chunks solution) =
      [.chunksMeasured number chunks.length filler.method] ++ Filler.planEvents chunks solution ++
        [.pointsChosen solution.points] := rfl
  rw [hevents, warned_append, warned_append, hplan]
  simp [warned, Event.level, Level.rank]

theorem warned_malformed (filler : Filler Float) (hline : ∀ text, line ≠ Text.encode text)
    (number : Nat) : warned (filler.elementEvents number (filler.read (some line))) =
      [malformedLine number (Text.decode line).1.byteLength] := by
  rw [Filler.read_malformed filler hline]
  exact congrArg (fun text => [text]) (line_malformedKept _ _)

/-- A text that is filled gives no reason for a warning. -/
theorem warned_soft (h : filler.IsUnicode) (soft : ∀ c ∈ text, isHardBreak c = false)
    (number : Nat) :
    warned (filler.elementEvents number (filler.read (some text.encode))) = [] ∧
      filler.elementFailure? number (filler.read (some text.encode)) = none := by
  rw [Filler.read_encode, Filler.elementEvents, h.dropEvents_eq_nil, List.nil_append]
  rcases h.layout_cases soft with hlayout | ⟨chunks, solution, hlayout⟩
  · rw [hlayout]
    exact ⟨rfl, rfl⟩
  · rw [hlayout]
    exact ⟨warned_layoutEvents number chunks solution, rfl⟩

theorem warned_passed (h : filler.IsUnicode) (hpolicy : filler.policy = .passThrough)
    (first : CharClasses.unicode.IsFirstBreak text found) (number : Nat) :
    warned (filler.elementEvents number (filler.read (some text.encode))) =
        [passedLine number found.offset] ∧
      filler.elementFailure? number (filler.read (some text.encode)) = none := by
  rw [Filler.read_encode, Filler.elementEvents, h.dropEvents_eq_nil, h.layout_broken first]
  simp only [Filler.layoutEvents, Filler.elementFailure?, Filler.failure?, hpolicy, and_true]
  exact congrArg (fun text => [text]) (line_hardBreakPassed _ _)

/-- A line that does not fail does not stop the batch, and all that is said of it is its notice. -/
theorem notice_of_not_fails (h : filler.IsUnicode)
    (hline : ∀ found, ¬ Fails filler.policy line found) (number : Nat) :
    filler.elementFailure? number (filler.read (some line)) = none ∧
      Notice filler.policy number line
        (warned (filler.elementEvents number (filler.read (some line)))) := by
  rcases line_cases hline with hmalformed | ⟨text, rfl, soft⟩ | ⟨text, found, rfl, hpolicy, first⟩
  · rw [warned_malformed filler hmalformed, Filler.read_malformed filler hmalformed]
    exact ⟨rfl, .malformed hmalformed (Text.isLongestForm_decode line)⟩
  · obtain ⟨hnothing, hsucceeds⟩ := warned_soft h soft number
    rw [hnothing]
    exact ⟨hsucceeds, .filled (soft_iff.mpr soft)⟩
  · obtain ⟨hpassed, hsucceeds⟩ := warned_passed h hpolicy first number
    rw [hpassed]
    exact ⟨hsucceeds, .passedThrough hpolicy first⟩

/-- Of the line that fails nothing is said before the failure. -/
theorem elementEvents_of_fails (h : filler.IsUnicode) (hline : Fails filler.policy line found)
    (number : Nat) :
    filler.elementFailure? number (filler.read (some line)) =
        some (.embeddedLineBreak number found) ∧
      filler.elementEvents number (filler.read (some line)) = [] := by
  obtain ⟨hpolicy, text, rfl, first⟩ := hline
  rw [Filler.read_encode, Filler.elementEvents, h.dropEvents_eq_nil, h.layout_broken first]
  simp [Filler.elementFailure?, Filler.failure?, Filler.layoutEvents, hpolicy]

end Notice

section Dropped

variable {filler : Filler Float}

/-- Only the offsets of a text are ever dropped. -/
theorem offsetsDropped_not_mem_layoutEvents (filler : Filler Float) (number : Nat)
    (layout : Layout Float) (count length : Nat) :
    Event.offsetsDropped count length ∉ filler.layoutEvents number layout := by
  cases layout with
  | unbreakable => simp [Filler.layoutEvents]
  | broken found => cases hpolicy : filler.policy <;> simp [Filler.layoutEvents, hpolicy]
  | chunked chunks solution =>
    have hplan : Event.offsetsDropped count length ∉ Filler.planEvents chunks solution := by
      unfold Filler.planEvents
      split
      · split <;> simp
      · simp
    simp [Filler.layoutEvents, hplan]

theorem offsetsDropped_not_mem_elementEvents (h : filler.IsUnicode) (number : Nat)
    (element : Element Float) (count length : Nat) :
    Event.offsetsDropped count length ∉ filler.elementEvents number element := by
  cases element with
  | text bytes text layout =>
    rw [Filler.elementEvents, h.dropEvents_eq_nil, List.nil_append]
    exact offsetsDropped_not_mem_layoutEvents filler number layout count length
  | _ => simp [Filler.elementEvents]

theorem mem_batchEvents {number : Nat} {elements : List (Element Float)} {event : Event Float}
    (h : event ∈ filler.batchEvents number elements) :
    ∃ i, ∃ element ∈ elements, event ∈ filler.elementEvents i element := by
  induction elements generalizing number with
  | nil => simp [Filler.batchEvents] at h
  | cons element elements ih =>
    rcases List.mem_append.mp h with hfirst | hrest
    · exact ⟨number, element, List.mem_cons_self, hfirst⟩
    · cases hfailure : filler.elementFailure? number element with
      | some failure => simp [hfailure] at hrest
      | none =>
        rw [hfailure] at hrest
        obtain ⟨i, later, hlater, hevent⟩ := ih hrest
        exact ⟨i, later, List.mem_cons_of_mem _ hlater, hevent⟩

end Dropped

end Program

end LineFill
