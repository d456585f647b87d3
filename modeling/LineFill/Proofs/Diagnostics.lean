import LineFill.Proofs.Notices

/-!
What the program says. At the default threshold a run reports the variables that it cannot read, the
lines that it keeps as they are, up to the first that fails, and that failure; it says nothing else.
-/
namespace LineFill.Program

section Batch

variable {filler : Filler Float} {before after : List (List UInt8)} {line : List UInt8}
  {found : HardBreak}

/-- What is said of lines of which the first has the given number. -/
def notices (filler : Filler Float) (number : Nat) (lines : List (List UInt8)) : List String :=
  (lines.zipIdx number).flatMap fun (line, i) =>
    warned (filler.elementEvents i (filler.read (some line)))

theorem warned_batchEvents (h : filler.IsUnicode) (number : Nat) (after : List (Element Float))
    (hbefore : ∀ line ∈ before, ∀ found, ¬ Fails filler.policy line found) :
    warned (filler.batchEvents number ((before.map fun line => filler.read (some line)) ++ after)) =
      notices filler number before ++
        warned (filler.batchEvents (number + before.length) after) := by
  have hread : ∀ element ∈ before.map fun line => filler.read (some line),
      ∀ number, filler.elementFailure? number element = none := by
    simp only [List.forall_mem_map]
    intro line hline number
    exact (notice_of_not_fails h (hbefore line hline) number).1
  rw [Filler.batchEvents_append number after hread, warned_append, warned_flatMap, List.length_map]
  simp [notices, List.zipIdx_map, List.flatMap_map]

theorem warned_batchEvents_of_not_fails (h : filler.IsUnicode)
    (hlines : ∀ line ∈ before, ∀ found, ¬ Fails filler.policy line found) :
    warned (filler.batchEvents 0 (before.map fun line => filler.read (some line))) =
      notices filler 0 before := by
  have hevents := warned_batchEvents h 0 [] hlines
  simpa [Filler.batchEvents] using hevents

/-- Nothing is said of a line that fails or of those after it. -/
theorem warned_batchEvents_of_fails (h : filler.IsUnicode) (after : List (List UInt8))
    (hbefore : ∀ line ∈ before, ∀ found, ¬ Fails filler.policy line found)
    (hline : Fails filler.policy line found) :
    warned (filler.batchEvents 0
        ((before ++ line :: after).map fun line => filler.read (some line))) =
      notices filler 0 before := by
  obtain ⟨hfailure, hevents⟩ := elementEvents_of_fails h hline (0 + before.length)
  rw [List.map_append, List.map_cons, warned_batchEvents h 0 _ hbefore, Filler.batchEvents,
    hevents, hfailure]
  simp

/-- The number in the failure of a batch is that of the first line that fails. -/
theorem fillBatch_of_fails (h : filler.IsUnicode) (after : List (List UInt8))
    (hbefore : ∀ line ∈ before, ∀ found, ¬ Fails filler.policy line found)
    (hline : Fails filler.policy line found) :
    filler.fillBatch ((before ++ line :: after).map some) =
      .error (.embeddedLineBreak before.length found) := by
  have hitems : ∀ item ∈ before.map some, ∃ filled, filler.fillItem 0 item = .ok filled := by
    simp only [List.forall_mem_map]
    intro line hline
    obtain ⟨filled, hfilled, -⟩ := exists_block h (hbefore line hline)
    exact ⟨filled, hfilled⟩
  have hfails : filler.fillItem 0 (some line) = _ := fillBytes_of_fails h hline
  rw [List.map_append, List.map_cons, Filler.fillBatch_eq_error (after.map some) hitems hfails]
  simp

end Batch

section Run

variable {options : Options} {filler : Filler Float}

theorem runOptions_events (h : Filler.unicode options.settings = .ok filler) (input : List UInt8) :
    (runOptions options input).events =
      options.warnings.map .settingIgnored ++ Filler.localeEvents options.settings.locale ++
        (runFiller options.settings filler input).events := by
  unfold runOptions
  rw [h]

/-- Of what a run says, warnings are those of the settings and those of the lines. -/
theorem warned_runOptions (h : Filler.unicode options.settings = .ok filler) (input : List UInt8) :
    warned (runOptions options input).events = options.warnings.map ignoredLine ++
      warned (filler.batchEvents 0
        ((Stream.elements input).map fun line => filler.read (some line))) := by
  have hsettings : warned (options.warnings.map .settingIgnored) =
      options.warnings.map ignoredLine := by
    simp [warned, List.filter_map, Function.comp_def, Event.level, line_settingIgnored]
  have hlocale : warned (Filler.localeEvents options.settings.locale) = [] := by
    unfold Filler.localeEvents
    cases options.settings.locale <;> rfl
  have hrun : warned (runFiller options.settings filler input).events =
      warned (filler.batchEvents 0
        ((Stream.elements input).map fun line => filler.read (some line))) := by
    unfold runFiller
    dsimp only
    split <;> simp [warned, Filler.readyEvent, Event.level, Level.rank]
  rw [runOptions_events h, warned_append, warned_append, hsettings, hlocale, hrun, List.append_nil]

theorem offsetsDropped_not_mem_events (h : Filler.unicode options.settings = .ok filler)
    (input : List UInt8) (count length : Nat) :
    Event.offsetsDropped count length ∉ (runOptions options input).events := by
  have hbatch : Event.offsetsDropped count length ∉
      filler.batchEvents 0 ((Stream.elements input).map fun line => filler.read (some line)) := by
    intro hevent
    obtain ⟨i, element, -, hmem⟩ := mem_batchEvents hevent
    exact offsetsDropped_not_mem_elementEvents (Filler.isUnicode_of_unicode h) i element count length
      hmem
  rw [runOptions_events h]
  unfold runFiller
  dsimp only
  split <;> simp [hbatch, Filler.localeEvents, Filler.readyEvent]

end Run

/-- A width that cannot be read. -/
def badWidth : Settings.Environment := fun name =>
  if name = "LINEWRAP_WIDTH" then some "abc" else none

end LineFill.Program
