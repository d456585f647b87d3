import LineFill.Proofs.Resolution

/-!
A flag and its variable mean the same. What one of them cannot read the other cannot read either: the flag
is refused, the variable is reported and its field keeps the default. Any other value gives the same
settings or the same violations both ways.
-/
namespace LineFill.Options

open Settings

/-- The environment in which the variable of the field is all that is set. -/
def onlyVariable (field : Field) (value : String) : Environment :=
  Function.update (fun _ => none) field.variableName (some value)

/-- What is read if the variable of the field is all there is. -/
def readVariable (field : Field) (value : String) : Except Refusal Options :=
  read (onlyVariable field value) []

/-- What is read if the flag of the field is all there is. -/
def readFlag (field : Field) (value : String) : Except Refusal Options :=
  read (fun _ => none) [field.flag ++ "=" ++ value]

section Single

variable {field other : Field} {value : String} {settings : Settings}

@[simp] theorem onlyVariable_self : onlyVariable field value field.variableName = some value :=
  Function.update_self ..

theorem onlyVariable_of_ne (h : other ≠ field) : onlyVariable field value other.variableName = none :=
  Function.update_of_ne (fun hname => h (Field.variableName_injective hname)) ..

/-- The default of every field can be used. -/
theorem violations_default (field : Field) : field.violations (field.get {}) = [] := by
  have hexponent : exponentViolations 2 = [] := rfl
  cases field with
  | exponent => exact hexponent
  | _ => rfl

theorem violations_set_default (x : field.Value) :
    (field.set x {}).violations = field.violations x := by
  have hothers : ∀ other ≠ field, other.violations (other.get (field.set x {})) = [] := by
    intro other hother
    rw [Field.get_set_of_ne hother, violations_default]
  rw [Field.violations_settings]
  -- Of the violations of all fields only those of this one are left.
  cases field <;> simp [Field.all, hothers]

/-- Settings that differ from the default in one field. -/
theorem eq_set_default {x : field.Value} (h : field.get settings = x)
    (hothers : ∀ other ≠ field, other.get settings = other.get {}) : settings = field.set x {} := by
  apply Field.settings_ext
  intro other
  by_cases hother : other = field
  · subst hother
    rw [h, Field.get_set]
  · rw [hothers other hother, Field.get_set_of_ne hother]

theorem readFlag_of_unreadable (h : field.read? value = none) :
    readFlag field value = .error (.invalidValue field value) :=
  read_of_refused (List.forall_mem_nil Accepted) (.unreadable h)

theorem readFlag_of_readable {x : field.Value} (h : field.read? value = some x) :
    readFlag field value =
      if field.violations x = [] then .ok ⟨field.set x {}, []⟩
      else .error (.invalidSettings (field.violations x)) := by
  have haccepted : ∀ argument ∈ [field.flag ++ "=" ++ value], Accepted argument := by
    simp only [List.mem_singleton, forall_eq]
    exact ⟨field, value, rfl, by simp [h]⟩
  obtain ⟨settings, hfields, hread⟩ := read_of_accepted (fun _ => none) haccepted
  have hgiven : field.read? value = some (field.get settings) :=
    (hfields field).given value ⟨[], [], rfl, by simp [Names]⟩
  have hothers : ∀ other ≠ field, other.get settings = other.get {} := by
    intro other hother
    apply (hfields other).notGiven
    rintro ⟨text, htext⟩
    exact hother (assignment_injective (List.mem_singleton.mp htext)).1
  obtain rfl := eq_set_default (Option.some.inj (hgiven.symm.trans h)) hothers
  rw [readFlag, hread, violations_set_default]
  rfl

/-- The report on the variable is all there is to report. -/
theorem filterMap_unreadable?_onlyVariable :
    Field.all.filterMap (Field.unreadable? (onlyVariable field value)) =
      if (field.read? value).isSome then [] else [field.unreadable value] := by
  have hothers : ∀ other ≠ field, Field.unreadable? (onlyVariable field value) other = none := by
    intro other hother
    rw [Field.unreadable?, onlyVariable_of_ne hother, Option.bind_none]
  have hself : Field.unreadable? (onlyVariable field value) field =
      if (field.read? value).isSome then none else some (field.unreadable value) := by
    rw [Field.unreadable?, onlyVariable_self, Option.bind_some]
  split_ifs with hread
  · rw [if_pos hread] at hself
    cases field <;> simp [Field.all, hothers, hself]
  · rw [if_neg hread] at hself
    cases field <;> simp [Field.all, hothers, hself]

theorem readVariable_eq : readVariable field value =
    let x := (field.read? value).getD (field.get {})
    let warnings := if (field.read? value).isSome then [] else [field.unreadable value]
    if field.violations x = [] then .ok ⟨field.set x {}, warnings⟩
    else .error (.invalidSettings (field.violations x)) := by
  obtain ⟨settings, hfields, hread⟩ :=
    read_of_accepted (onlyVariable field value) (List.forall_mem_nil Accepted)
  have hself := (hfields field).notGiven (by simp [Names])
  have hothers : ∀ other ≠ field, other.get settings = other.get {} := by
    intro other hother
    rw [(hfields other).notGiven (by simp [Names]), onlyVariable_of_ne hother]
    rfl
  rw [onlyVariable_self, Option.bind_some] at hself
  obtain rfl := eq_set_default hself hothers
  rw [readVariable, hread, violations_set_default, filterMap_unreadable?_onlyVariable]

theorem readVariable_of_unreadable (h : field.read? value = none) :
    readVariable field value = .ok ⟨{}, [field.unreadable value]⟩ := by
  have hdefault : {} = field.set (field.get {}) {} := eq_set_default rfl fun _ _ => rfl
  simp [readVariable_eq, h, violations_default, ← hdefault]

/-- A value that can be read is taken from a variable as it is from a flag. -/
theorem readVariable_of_readable (h : (field.read? value).isSome) :
    readVariable field value = readFlag field value := by
  obtain ⟨x, hx⟩ := Option.isSome_iff_exists.mp h
  simp [readVariable_eq, readFlag_of_readable hx, hx]

end Single

/-- The flag is refused as unreadable exactly if the variable is reported, and then the variable leaves the
default. Any other value is read, and both ways it gives the default settings with this value, or its
violations. -/
theorem readFlag_agrees (field : Field) (value : String) :
    ((∃ other text, readFlag field value = .error (.invalidValue other text)) ↔
        ∃ options, readVariable field value = .ok options ∧
          field.unreadable value ∈ options.warnings) ∧
      (∀ other text, readFlag field value = .error (.invalidValue other text) →
        other = field ∧ text = value ∧
          readVariable field value = .ok ⟨{}, [field.unreadable value]⟩) ∧
      ((∀ other text, readFlag field value ≠ .error (.invalidValue other text)) →
        readVariable field value = readFlag field value ∧
          ∃ x, field.read? value = some x ∧ readFlag field value =
            if field.violations x = [] then .ok ⟨field.set x {}, []⟩
            else .error (.invalidSettings (field.violations x))) := by
  cases hread : field.read? value with
  | none =>
    have hflag := readFlag_of_unreadable hread
    have hvariable := readVariable_of_unreadable hread
    refine ⟨⟨fun _ => ⟨_, hvariable, by simp⟩, fun _ => ⟨_, _, hflag⟩⟩, ?_, ?_⟩
    · intro other text hrefused
      rw [hflag] at hrefused
      cases hrefused
      exact ⟨rfl, rfl, hvariable⟩
    · intro hkept
      exact absurd hflag (hkept _ _)
  | some x =>
    have hflag := readFlag_of_readable hread
    have hsame := readVariable_of_readable (by simp [hread] : (field.read? value).isSome)
    have hkept : ∀ other text, readFlag field value ≠ .error (.invalidValue other text) := by
      intro other text hrefused
      rw [hflag] at hrefused
      split at hrefused <;> cases hrefused
    refine ⟨iff_of_false ?_ ?_, ?_, ?_⟩
    · rintro ⟨other, text, hrefused⟩
      exact hkept other text hrefused
    · rintro ⟨options, hok, hwarned⟩
      rw [hsame, hflag] at hok
      split at hok
      · cases hok
        cases hwarned
      · cases hok
    · intro other text hrefused
      exact absurd hrefused (hkept other text)
    · intro _
      exact ⟨hsame, x, rfl, hflag⟩

/-- A second equals sign, a negative width between blanks, and a locale of blanks only. -/
theorem readFlag_agrees_oddValues :
    (readFlag .width "80=" = .error (.invalidValue .width "80=") ∧
      readVariable .width "80=" = .ok ⟨{}, [⟨"width", "80=", "expected integer"⟩]⟩) ∧
    (readFlag .width "\t-3 " = .error (.invalidSettings [.widthNotPositive (-3)]) ∧
      readVariable .width "\t-3 " = readFlag .width "\t-3 ") ∧
    readFlag .locale "\u3000 " = .ok ⟨{}, []⟩ ∧
      readVariable .locale "\u3000 " = readFlag .locale "\u3000 " := by
  have hunreadable : readFlag .width "80=" = .error (.invalidValue .width "80=") := by rfl
  have hnegative : readFlag .width "\t-3 " = .error (.invalidSettings [.widthNotPositive (-3)]) := by
    rfl
  have hblank : readFlag .locale "\u3000 " = .ok ⟨{}, []⟩ := by rfl
  refine ⟨⟨hunreadable, ?_⟩, ⟨hnegative, ?_⟩, hblank, ?_⟩
  · exact ((readFlag_agrees .width "80=").2.1 _ _ hunreadable).2.2
  · exact ((readFlag_agrees .width "\t-3 ").2.2 (by simp [hnegative])).1
  · exact ((readFlag_agrees .locale "\u3000 ").2.2 (by simp [hblank])).1

end LineFill.Options
