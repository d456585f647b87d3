import Mathlib.Logic.Function.Basic
import LineFill.Proofs.Arguments
import LineFill.Proofs.FieldValues

/-!
Settings from the command line. The first argument that is refused decides; if none is, a field has the
value of the last argument that names it, else the value of the environment, else the default.
-/
namespace LineFill.Options

open Settings

/-- The value of a field: that of the last argument which names it, else that of the environment if it
can be read, else the default. -/
structure Resolves (env : Environment) (arguments : List String) (field : Field)
    (x : field.Value) : Prop where
  given : ∀ value, LastValue arguments field value → field.read? value = some x
  notGiven : ¬ Names arguments field →
    x = ((env field.variableName).bind field.read?).getD (field.get {})

section Read

variable {env : Environment} {arguments before after : List String} {argument : String}
  {refusal : Refusal}

theorem read_of_refused (hbefore : ∀ argument ∈ before, Accepted argument)
    (h : Refused argument refusal) :
    read env (before ++ argument :: after) = .error refusal := by
  obtain ⟨result, hresult, -⟩ := foldlM_apply hbefore (FromEnvironment.read env).settings
  have hfold : (before ++ argument :: after).foldlM apply (FromEnvironment.read env).settings =
      .error refusal := by
    rw [List.foldlM_append, hresult]
    exact congrArg (· >>= fun settings => after.foldlM apply settings) (apply_of_refused h)
  simp only [read, hfold]

theorem read_of_accepted (env : Environment) (h : ∀ argument ∈ arguments, Accepted argument) :
    ∃ settings : Settings, (∀ field, Resolves env arguments field (field.get settings)) ∧
      read env arguments =
        if settings.violations = [] then .ok ⟨settings, Field.all.filterMap (Field.unreadable? env)⟩
        else .error (.invalidSettings settings.violations) := by
  obtain ⟨settings, hfold, hfields⟩ := foldlM_apply h (FromEnvironment.read env).settings
  refine ⟨settings, ?_, ?_⟩
  · intro field
    refine ⟨(hfields field).1, ?_⟩
    intro hnames
    rw [(hfields field).2 hnames, FromEnvironment.get_read]
    rfl
  · simp only [read, hfold, FromEnvironment.unreadable_read]
    cases settings.violations <;> simp

/-- A field that can read its variable keeps the value unless an argument names it. -/
theorem resolves_of_variable {field : Field} {value : String} {x y : field.Value}
    (h : Resolves env arguments field y) (hvalue : env field.variableName = some value)
    (hread : field.read? value = some x) (hnames : ¬ Names arguments field) : y = x := by
  rw [h.notGiven hnames, hvalue]
  simp [hread]

/-- What the environment says of a field that an argument names does not matter, if it can be read. -/
theorem read_update {field : Field} {value : String} (hvalue : env field.variableName = some value)
    (hread : (field.read? value).isSome) (hnames : Names arguments field) :
    read (Function.update env field.variableName none) arguments = read env arguments := by
  by_cases h : ∀ argument ∈ arguments, Accepted argument
  · obtain ⟨settings, hsettings, hok⟩ := read_of_accepted env h
    obtain ⟨settings', hsettings', hok'⟩ :=
      read_of_accepted (Function.update env field.variableName none) h
    have hother (other : Field) (hne : other ≠ field) :
        Function.update env field.variableName none other.variableName = env other.variableName :=
      Function.update_of_ne (fun heq => hne (Field.variableName_injective heq)) _ _
    have hsame : settings' = settings := by
      apply Field.settings_ext
      intro other
      by_cases hgiven : Names arguments other
      · obtain ⟨last, hlast⟩ := exists_lastValue hgiven
        have hget := (hsettings other).given last hlast
        rw [(hsettings' other).given last hlast] at hget
        exact Option.some.inj hget
      · have hne : other ≠ field := by
          rintro rfl
          exact hgiven hnames
        rw [(hsettings other).notGiven hgiven, (hsettings' other).notGiven hgiven, hother other hne]
    have hreports : Field.unreadable? (Function.update env field.variableName none) =
        Field.unreadable? env := by
      funext other
      unfold Field.unreadable?
      by_cases hne : other = field
      · rw [hne, hvalue, Function.update_self]
        simp [hread]
      · rw [hother other hne]
    rw [hok, hok', hsame, hreports]
  · obtain ⟨before, argument, after, refusal, rfl, hbefore, hrefused⟩ := exists_first_refused h
    rw [read_of_refused hbefore hrefused, read_of_refused hbefore hrefused]

theorem ok_of_read {options : Options} (h : read env arguments = .ok options) :
    options.settings.violations = [] ∧
      options.warnings = Field.all.filterMap (Field.unreadable? env) := by
  rw [← FromEnvironment.unreadable_read]
  unfold read at h
  dsimp only at h
  split at h
  · cases h
  · split at h
    · next hviolations =>
      obtain rfl := Except.ok.inj h
      exact ⟨hviolations, rfl⟩
    · cases h

end Read

/-- A locale is always read. -/
theorem filterMap_unreadable? (env : Environment) : Field.all.filterMap (Field.unreadable? env) =
    [Field.width, .exponent, .policy, .metric].filterMap (Field.unreadable? env) := by
  have hlocale : Field.unreadable? env .locale = none := by
    unfold Field.unreadable?
    cases env Field.locale.variableName <;> rfl
  simp only [Field.all, List.filterMap_cons, List.filterMap_nil, hlocale]

/-- What a field cannot read is not a value that is out of range. -/
theorem unreadable_not_mem_violations (field : Field) (value : String) (settings : Settings) :
    field.unreadable value ∉ settings.violations := by
  have hwidth : ∀ v ∈ widthViolations settings.width, v.reason = "must be >= 1" := by
    unfold widthViolations
    split <;> simp [Violation.widthNotPositive]
  have hexponent : ∀ v ∈ exponentViolations settings.exponent,
      v.reason = "must be a number" ∨ v.reason = "must be finite" := by
    unfold exponentViolations
    split_ifs <;> simp [Violation.exponentNotANumber, Violation.exponentInfinite]
  intro h
  rcases List.mem_append.mp h with h | h
  · have hreason := hwidth _ h
    cases field <;> simp [Field.unreadable, Field.expected] at hreason
  · have hreason := hexponent _ h
    cases field <;> simp [Field.unreadable, Field.expected] at hreason

theorem mem_unreadable {env : Environment} {warning : Violation}
    (h : warning ∈ (FromEnvironment.read env).unreadable) :
    ∃ (field : Field) (value : String), env field.variableName = some value ∧
      field.read? value = none ∧ warning = field.unreadable value := by
  rw [FromEnvironment.unreadable_read, List.mem_filterMap] at h
  obtain ⟨field, -, hfield⟩ := h
  obtain ⟨value, hvalue, hwarning⟩ := Option.bind_eq_some_iff.mp hfield
  split at hwarning
  · cases hwarning
  · next hread =>
    exact ⟨field, value, hvalue, by simpa using hread, (Option.some.inj hwarning).symm⟩

/-- The reports on what cannot be read are the errors of the environment without the violations. -/
theorem filter_errors (env : Environment) :
    ((FromEnvironment.read env).errors.filter
      (· ∉ (FromEnvironment.read env).settings.violations)) =
        (FromEnvironment.read env).unreadable := by
  unfold FromEnvironment.errors
  rw [List.filter_append, List.filter_eq_self.mpr, List.filter_eq_nil_iff.mpr, List.append_nil]
  · intro violation hviolation
    simpa using hviolation
  · intro warning hwarning
    obtain ⟨field, value, -, -, rfl⟩ := mem_unreadable hwarning
    simpa using unreadable_not_mem_violations field value _

/-- The first refused argument decides, whatever follows it. If there is none, every field has the value
of the last argument that names it, else of the environment, else the default, and the violations of
these settings decide. A variable that cannot be read is a warning, and one that is out of range a
violation unless an argument names its field. A value is read for what it says without the blanks around
it, and a violation is what is out of range. -/
theorem read_resolves (env : Environment) (arguments : List String) :
    (∀ argument, Accepted argument ∨ ∃ refusal, Refused argument refusal) ∧
      (∀ before argument after refusal, arguments = before ++ argument :: after →
        (∀ earlier ∈ before, Accepted earlier) → Refused argument refusal →
          read env arguments = .error refusal) ∧
      ((∀ argument ∈ arguments, Accepted argument) →
        ∃ settings : Settings, (∀ field, Resolves env arguments field (field.get settings)) ∧
          (settings.violations ≠ [] →
            read env arguments = .error (.invalidSettings settings.violations)) ∧
          (settings.violations = [] → ∃ warnings, read env arguments = .ok ⟨settings, warnings⟩)) ∧
      (∀ options, read env arguments = .ok options →
        options.warnings =
          [Field.width, .exponent, .policy, .metric].filterMap (Field.unreadable? env) ∧
        options.warnings = (FromEnvironment.read env).errors.filter
          (· ∉ (FromEnvironment.read env).settings.violations)) ∧
      (∀ (field : Field) (value : String) (x : field.Value) (violation : Violation),
        env field.variableName = some value → field.read? value = some x →
          field.Violates x violation →
            (∀ options, read env arguments = .ok options →
              ∀ warning ∈ options.warnings, warning.field ≠ field.name) ∧
            ((∀ argument ∈ arguments, Accepted argument) → ¬ Names arguments field →
              ∃ violations, read env arguments = .error (.invalidSettings violations) ∧
                violation ∈ violations) ∧
            (Names arguments field →
              read env arguments = read (Function.update env field.variableName none) arguments)) ∧
      (∀ (field : Field) (value : String) (x : field.Value), field.read? value = some x ↔
        ∃ inner, Text.Trimmed value.toList inner ∧ field.Says inner x) ∧
      ∀ (settings : Settings) (violation : Violation), violation ∈ settings.violations ↔
        ∃ field : Field, field.Violates (field.get settings) violation := by
  refine ⟨accepted_or_refused, ?_, ?_, ?_, ?_, fun _ _ _ => Field.read?_eq_some_iff,
    fun _ _ => Field.mem_settings_violations_iff⟩
  · rintro before argument after refusal rfl hbefore hrefused
    exact read_of_refused hbefore hrefused
  · intro haccepted
    obtain ⟨settings, hsettings, hread⟩ := read_of_accepted env haccepted
    refine ⟨settings, hsettings, ?_, ?_⟩
    · intro hviolations
      rw [hread, if_neg hviolations]
    · intro hviolations
      exact ⟨_, by rw [hread, if_pos hviolations]⟩
  · intro options hok
    have hwarnings := (ok_of_read hok).2
    rw [filter_errors, FromEnvironment.unreadable_read, ← filterMap_unreadable?]
    exact ⟨hwarnings, hwarnings⟩
  · intro field value x violation hvalue hread hviolates
    refine ⟨?_, ?_, ?_⟩
    · intro options hok warning hwarning hname
      rw [(ok_of_read hok).2, ← FromEnvironment.unreadable_read] at hwarning
      obtain ⟨other, text, htext, hunread, rfl⟩ := mem_unreadable hwarning
      obtain rfl : other = field := Field.name_injective hname
      obtain rfl : text = value := by simpa [hvalue] using htext.symm
      rw [hread] at hunread
      cases hunread
    · intro haccepted hnames
      obtain ⟨settings, hsettings, hresult⟩ := read_of_accepted env haccepted
      have hkept := resolves_of_variable (hsettings field) hvalue hread hnames
      have hmem : violation ∈ settings.violations :=
        Field.mem_settings_violations_iff.mpr ⟨field, hkept ▸ hviolates⟩
      exact ⟨settings.violations, by rw [hresult, if_neg (List.ne_nil_of_mem hmem)], hmem⟩
    · intro hnames
      exact (read_update hvalue (by simp [hread]) hnames).symm

/-- A width that is out of range and an exponent that cannot be read. -/
def badVariables : Environment := fun name =>
  if name = "LINEWRAP_WIDTH" then some "0" else
    if name = "LINEWRAP_COST_EXPONENT" then some "abc" else none

/-- An exponent that is out of range and a locale, each with blanks around it. -/
def blankedVariables : Environment := fun name =>
  if name = "LINEWRAP_COST_EXPONENT" then some " -Inf" else
    if name = "LINEWRAP_LOCALE" then some " pl\t" else none

theorem read_resolves_badVariables :
    (∃ violations, read badVariables ["--locale=pl"] = .error (.invalidSettings violations) ∧
      ⟨"width", "0", "must be >= 1"⟩ ∈ violations) ∧
      (∃ options, read badVariables ["--width=7", "--width= 5 "] = .ok options ∧
        options.settings.width = 5 ∧
        options.warnings = [⟨"cost_exponent", "abc", "expected number"⟩]) ∧
      read badVariables ["--width=7", "--policy=x=y", "--help"] =
        .error (.invalidValue .policy "x=y") ∧
      (∃ violations, read blankedVariables [] = .error (.invalidSettings violations) ∧
        ⟨"cost_exponent", "-inf", "must be finite"⟩ ∈ violations) ∧
      (∃ options, read blankedVariables ["--exponent=2.5"] = .ok options ∧
        options.settings.exponent = 2.5 ∧ options.settings.locale = some "pl" ∧
        options.warnings = []) ∧
      Field.locale.read? " pl\t" = some (some "pl") ∧
      Field.locale.read? " \t" = some (none : Option String) ∧
      ⟨"width", "-3", "must be >= 1"⟩ ∈ Settings.violations { width := -3 } := by
  have hzero : Decimal.readInt64? (Text.trim "0".toList) = some 0 := by decide +kernel
  have hlocale : ∀ argument ∈ ["--locale=pl"], Accepted argument := by
    simp only [List.mem_singleton, forall_eq]
    exact ⟨.locale, "pl", by decide, rfl⟩
  have hunnamed : ¬ Names ["--locale=pl"] .width := by
    rintro ⟨value, hvalue⟩
    have hsame : Field.width.flag ++ "=" ++ value = Field.locale.flag ++ "=" ++ "pl" :=
      List.mem_singleton.mp hvalue
    cases (assignment_injective hsame).1
  have hwidths : ∀ argument ∈ ["--width=7"], Accepted argument := by
    simp only [List.mem_singleton, forall_eq]
    exact ⟨.width, "7", by decide, by decide +kernel⟩
  have hunread : HardBreakPolicy.ofText? "x=y".toList = none := by decide +kernel
  have hrefused : Refused (Field.policy.flag ++ "=" ++ "x=y") (.invalidValue .policy "x=y") :=
    .unreadable (show Field.policy.read? "x=y" = none from hunread)
  obtain ⟨-, -, -, -, hrange, hread, hviolations⟩ := read_resolves blankedVariables []
  refine ⟨?_, ?_, ?_, ?_, ?_, ?_, ?_, ?_⟩
  · exact ((read_resolves badVariables ["--locale=pl"]).2.2.2.2.1 .width "0" (0 : Int) _ (by decide)
      hzero (.width le_rfl)).2.1 hlocale hunnamed
  · have hok : read badVariables ["--width=7", "--width= 5 "] =
        .ok ⟨⟨5, 2, none, .fail, .codepoints⟩, [⟨"cost_exponent", "abc", "expected number"⟩]⟩ := by
      rfl
    have hwarnings := ((read_resolves badVariables _).2.2.2.1 _ hok).1
    exact ⟨_, hok, rfl, hwarnings.trans (by decide +kernel)⟩
  · exact (read_resolves badVariables _).2.1 ["--width=7"] "--policy=x=y" ["--help"] _ rfl hwidths
      hrefused
  · have hinfinity : Field.exponent.read? " -Inf" = some (-1 / 0 : Float) := by
      refine (hread .exponent " -Inf" (-1 / 0 : Float)).mpr
        ⟨"-Inf".toList, Text.trim_eq_iff.mp (by decide), ?_⟩
      exact .exponent (.infinite (.minus _) (Or.inl rfl)) (by decide +kernel)
    have hviolates : Field.exponent.Violates (-1 / 0 : Float)
        ⟨"cost_exponent", "-inf", "must be finite"⟩ :=
      .infinite (x := -1 / 0) (by decide +kernel) (by decide +kernel)
    exact (hrange .exponent " -Inf" _ _ (by decide) hinfinity hviolates).2.1 (by simp)
      (by simp [Names])
  · have hok : read blankedVariables ["--exponent=2.5"] =
        .ok ⟨⟨80, 2.5, some "pl", .fail, .codepoints⟩, []⟩ := by
      rfl
    have hwarnings := ((read_resolves blankedVariables _).2.2.2.1 _ hok).1
    exact ⟨_, hok, rfl, rfl, hwarnings.trans (by decide +kernel)⟩
  · exact (hread .locale " pl\t" (some "pl")).mpr
      ⟨['p', 'l'], Text.trim_eq_iff.mp (by decide), .locale (by simp)⟩
  · exact (hread .locale " \t" none).mpr ⟨[], Text.trim_eq_iff.mp (by decide), .noLocale⟩
  · exact (hviolations _ _).mpr ⟨.width, .width (n := -3) (by decide)⟩

end LineFill.Options
