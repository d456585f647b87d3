import LineFill.Settings.Environment

/-!
Fields of the settings as values. A value that is read into the settings changes its field and no
other, and the environment gives each field the value that it can read, or leaves the default.
-/
namespace LineFill.Settings

namespace Field

/-- The values that a field can have. -/
def Value : Field → Type
  | width => Int
  | exponent => Float
  | locale => Option String
  | policy => HardBreakPolicy
  | metric => Metric

def get : (field : Field) → Settings → field.Value
  | width => Settings.width
  | exponent => Settings.exponent
  | locale => Settings.locale
  | policy => Settings.policy
  | metric => Settings.metric

def set : (field : Field) → field.Value → Settings → Settings
  | width => fun x settings => { settings with width := x }
  | exponent => fun x settings => { settings with exponent := x }
  | locale => fun x settings => { settings with locale := x }
  | policy => fun x settings => { settings with policy := x }
  | metric => fun x settings => { settings with metric := x }

/-- What a text says as a value of the field. -/
def read? : (field : Field) → String → Option field.Value
  | width => fun value => Decimal.readInt64? (Text.trim value.toList)
  | exponent => fun value => readExponent? value.toList
  | locale => fun value => some (readLocale value.toList)
  | policy => fun value => HardBreakPolicy.ofText? value.toList
  | metric => fun value => Metric.ofText? value.toList

/-- What keeps a value of the field from being used. -/
def violations : (field : Field) → field.Value → List Violation
  | width => widthViolations
  | exponent => exponentViolations
  | _ => fun _ => []

variable {field other : Field} {settings : Settings}

@[simp] theorem get_set (x : field.Value) : field.get (field.set x settings) = x := by
  cases field <;> rfl

theorem get_set_of_ne (h : other ≠ field) (x : field.Value) :
    other.get (field.set x settings) = other.get settings := by
  cases field <;> cases other <;> first | rfl | exact absurd rfl h

theorem assign?_eq (value : String) (settings : Settings) :
    field.assign? value settings = (field.read? value).map (field.set · settings) := by
  cases field <;> rfl

/-- A variable is read as a flag is while its field has the default. -/
theorem assignVariable?_eq (h : field.get settings = field.get {}) (value : String) :
    field.assignVariable? value settings = field.assign? value settings := by
  unfold assignVariable?
  split
  · next hblank =>
    have hnone : settings.locale = none := h
    rw [assign?, hblank, ← hnone]
  · rfl

theorem settings_ext {s t : Settings} (h : ∀ field : Field, field.get s = field.get t) :
    s = t := by
  cases s
  cases t
  exact (Settings.mk.injEq ..).mpr ⟨h width, h exponent, h locale, h policy, h metric⟩

/-- The settings have the violations of their fields. -/
theorem violations_settings (settings : Settings) :
    settings.violations = all.flatMap fun field => field.violations (field.get settings) := by
  have hall : (all.flatMap fun field => field.violations (field.get settings)) =
      widthViolations settings.width ++ (exponentViolations settings.exponent ++ []) := rfl
  rw [hall, List.append_nil, Settings.violations]

theorem mem_all (field : Field) : field ∈ all := by cases field <;> decide

theorem nodup_all : all.Nodup := by decide

theorem variableName_injective (h : field.variableName = other.variableName) : field = other := by
  cases field <;> cases other <;> simp [variableName] at h ⊢

theorem name_injective (h : field.name = other.name) : field = other := by
  cases field <;> cases other <;> simp [name] at h ⊢

/-- The value that the environment gives the field, if it can be read. -/
def fromEnvironment? (env : Environment) (field : Field) : Option field.Value :=
  (env field.variableName).bind field.read?

/-- The report on a variable that its field cannot read. -/
def unreadable? (env : Environment) (field : Field) : Option Violation :=
  (env field.variableName).bind fun value =>
    if (field.read? value).isSome then none else some (field.unreadable value)

end Field

namespace FromEnvironment

variable (env : Environment) (found : FromEnvironment) (field : Field)

/-- One variable changes its field, or is reported. -/
theorem readField_spec (h : field.get found.settings = field.get {}) :
    field.get (readField env found field).settings =
        (field.fromEnvironment? env).getD (field.get found.settings) ∧
      (∀ other ≠ field, other.get (readField env found field).settings = other.get found.settings) ∧
      (readField env found field).unreadable =
        found.unreadable ++ (field.unreadable? env).toList := by
  unfold readField Field.fromEnvironment? Field.unreadable?
  cases env field.variableName with
  | none => simp
  | some value =>
    simp only [Field.assignVariable?_eq h, Field.assign?_eq, Option.bind_some]
    cases field.read? value with
    | none => simp
    | some x =>
      refine ⟨by simp, ?_, by simp⟩
      intro other hother
      exact Field.get_set_of_ne hother x

theorem foldl_readField {fields : List Field} (h : fields.Nodup)
    (hdefault : ∀ field ∈ fields, field.get found.settings = field.get {}) :
    (∀ field ∈ fields, field.get (fields.foldl (readField env) found).settings =
        (field.fromEnvironment? env).getD (field.get found.settings)) ∧
      (∀ field ∉ fields, field.get (fields.foldl (readField env) found).settings =
        field.get found.settings) ∧
      (fields.foldl (readField env) found).unreadable =
        found.unreadable ++ fields.filterMap (Field.unreadable? env) := by
  induction fields generalizing found with
  | nil => simp
  | cons first fields ih =>
    obtain ⟨hfirst, hfields⟩ := List.nodup_cons.mp h
    obtain ⟨hunread, hunreads⟩ := List.forall_mem_cons.mp hdefault
    obtain ⟨hget, hothers, hreport⟩ := readField_spec env found first hunread
    have hne (field : Field) (hfield : field ∈ fields) : field ≠ first := by
      rintro rfl
      exact hfirst hfield
    obtain ⟨hin, hout, hreports⟩ := ih (readField env found first) hfields fun field hfield =>
      (hothers field (hne field hfield)).trans (hunreads field hfield)
    rw [List.foldl_cons]
    refine ⟨?_, ?_, ?_⟩
    · intro field hfield
      rcases List.mem_cons.mp hfield with rfl | hlater
      · rw [hout field hfirst, hget]
      · rw [hin field hlater, hothers field (hne field hlater)]
    · intro field hfield
      obtain ⟨hother, hlater⟩ := not_or.mp (mt List.mem_cons.mpr hfield)
      rw [hout field hlater, hothers field hother]
    · rw [hreports, hreport, List.append_assoc, List.filterMap_cons]
      cases first.unreadable? env <;> simp

theorem get_read : field.get (read env).settings =
    (field.fromEnvironment? env).getD (field.get {}) :=
  (foldl_readField env ⟨{}, []⟩ Field.nodup_all fun _ _ => rfl).1 field (Field.mem_all field)

theorem unreadable_read : (read env).unreadable = Field.all.filterMap (Field.unreadable? env) :=
  (foldl_readField env ⟨{}, []⟩ Field.nodup_all fun _ _ => rfl).2.2

end FromEnvironment

end LineFill.Settings
