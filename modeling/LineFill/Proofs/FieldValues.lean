import LineFill.Proofs.Fields
import LineFill.Proofs.Numerals

/-!
What the fields of the settings can read and which of their values are out of range, said of the value
itself: the form of a text and the order of numbers, and not the steps of a reader or of a check.
-/
namespace LineFill

namespace HardBreakPolicy

def spellings : HardBreakPolicy → List String
  | fail => ["fail", "error"]
  | passThrough => ["passthrough", "pass-through", "pass"]

theorem ofText?_eq_some_iff {text : Text} {policy : HardBreakPolicy} :
    ofText? text = some policy ↔ ∃ word ∈ policy.spellings, text.trim.Spells word := by
  rw [← Text.keyword_mem_iff]
  unfold ofText?
  split <;> cases policy <;> simp_all [spellings]

end HardBreakPolicy

namespace Metric

def spellings : Metric → List String
  | codepoints => ["codepoints", "codepoint", "chars"]
  | cells => ["cells", "cell", "columns"]

theorem ofText?_eq_some_iff {text : Text} {metric : Metric} :
    ofText? text = some metric ↔ ∃ word ∈ metric.spellings, text.trim.Spells word := by
  rw [← Text.keyword_mem_iff]
  unfold ofText?
  split <;> cases metric <;> simp_all [spellings]

end Metric

namespace Settings.Field

/-- What a text without blanks around it says as a value of the field. -/
inductive Says : (field : Field) → Text → field.Value → Prop
  | width {text : Text} {n : Int} (form : Decimal.IsInt text n) (lower : -2 ^ 63 ≤ n)
      (upper : n < 2 ^ 63) : Says width text n
  | exponent {text : Text} {x : Float} (form : Decimal.IsFloat text x) (number : x.isNaN = false) :
      Says exponent text x
  | noLocale : Says locale [] (none : Option String)
  | locale {text : Text} (h : text ≠ []) : Says locale text (some (String.ofList text))
  | policy {text : Text} {x : HardBreakPolicy} {word : String} (h : word ∈ x.spellings)
      (spells : text.Spells word) : Says policy text x
  | metric {text : Text} {x : Metric} {word : String} (h : word ∈ x.spellings)
      (spells : text.Spells word) : Says metric text x

/-- Why a value of the field is out of range. -/
inductive Violates : (field : Field) → field.Value → Violation → Prop
  | width {n : Int} (h : n ≤ 0) : Violates width n ⟨"width", toString n, "must be >= 1"⟩
  | notANumber {x : Float} (h : x.isNaN) :
      Violates exponent x ⟨"cost_exponent", "NaN", "must be a number"⟩
  | infinite {x : Float} (number : x.isNaN = false) (h : x.isInf) :
      Violates exponent x ⟨"cost_exponent", Decimal.Style.plain.text x, "must be finite"⟩

theorem readExponent?_eq_some_iff {text : Text} {x : Float} :
    readExponent? text = some x ↔ Decimal.IsFloat text.trim x ∧ x.isNaN = false := by
  simp [readExponent?, Option.filter_eq_some_iff, Decimal.readFloat?_eq_some_iff]

theorem readLocale_of_blank {text : Text} (h : text.trim = []) : readLocale text = none := by
  simp [readLocale, h]

theorem readLocale_of_ne {text : Text} (h : text.trim ≠ []) :
    readLocale text = some (String.ofList text.trim) := by
  simp [readLocale, h]

theorem says_of_read? {field : Field} {value : String} {x : field.Value}
    (h : field.read? value = some x) : field.Says (Text.trim value.toList) x := by
  cases field with
  | width =>
    obtain ⟨form, lower, upper⟩ := Decimal.readInt64?_eq_some_iff.mp h
    exact .width form lower upper
  | exponent =>
    obtain ⟨form, number⟩ := readExponent?_eq_some_iff.mp h
    exact .exponent form number
  | locale =>
    obtain rfl : readLocale value.toList = x := Option.some.inj h
    by_cases hblank : Text.trim value.toList = []
    · rw [readLocale_of_blank hblank, hblank]
      exact .noLocale
    · rw [readLocale_of_ne hblank]
      exact .locale hblank
  | policy =>
    obtain ⟨word, hword, spells⟩ := HardBreakPolicy.ofText?_eq_some_iff.mp h
    exact .policy hword spells
  | metric =>
    obtain ⟨word, hword, spells⟩ := Metric.ofText?_eq_some_iff.mp h
    exact .metric hword spells

theorem read?_of_says {field : Field} {value : String} {inner : Text} {x : field.Value}
    (htrim : Text.trim value.toList = inner) (h : field.Says inner x) :
    field.read? value = some x := by
  cases h with
  | width form lower upper =>
    exact Decimal.readInt64?_eq_some_iff.mpr ⟨htrim ▸ form, lower, upper⟩
  | exponent form number => exact readExponent?_eq_some_iff.mpr ⟨htrim ▸ form, number⟩
  | noLocale => exact congrArg some (readLocale_of_blank htrim)
  | locale h =>
    subst htrim
    exact congrArg some (readLocale_of_ne h)
  | policy h spells => exact HardBreakPolicy.ofText?_eq_some_iff.mpr ⟨_, h, htrim ▸ spells⟩
  | metric h spells => exact Metric.ofText?_eq_some_iff.mpr ⟨_, h, htrim ▸ spells⟩

/-- A field reads what the value says without the blanks around it. -/
theorem read?_eq_some_iff {field : Field} {value : String} {x : field.Value} :
    field.read? value = some x ↔ ∃ inner, Text.Trimmed value.toList inner ∧ field.Says inner x := by
  constructor
  · intro h
    exact ⟨_, Text.trim_eq_iff.mp rfl, says_of_read? h⟩
  · rintro ⟨inner, hinner, h⟩
    exact read?_of_says (Text.trim_of_trimmed hinner) h

theorem violates_of_mem {field : Field} {x : field.Value} {violation : Violation}
    (h : violation ∈ field.violations x) : field.Violates x violation := by
  cases field with
  | width =>
    change violation ∈ widthViolations x at h
    unfold widthViolations at h
    split at h
    · next hle => exact List.mem_singleton.mp h ▸ .width hle
    · cases h
  | exponent =>
    change violation ∈ exponentViolations x at h
    unfold exponentViolations at h
    split_ifs at h with hnan hinf
    · exact List.mem_singleton.mp h ▸ .notANumber hnan
    · exact List.mem_singleton.mp h ▸ .infinite (Bool.eq_false_of_not_eq_true hnan) hinf
    · cases h
  | locale => cases h
  | policy => cases h
  | metric => cases h

theorem mem_violations_iff {field : Field} {x : field.Value} {violation : Violation} :
    violation ∈ field.violations x ↔ field.Violates x violation := by
  refine ⟨violates_of_mem, ?_⟩
  intro h
  cases h with
  | @width n h =>
    change _ ∈ widthViolations n
    rw [widthViolations, if_pos h]
    exact List.mem_singleton_self _
  | @notANumber x h =>
    change _ ∈ exponentViolations x
    rw [exponentViolations, if_pos h]
    exact List.mem_singleton_self _
  | @infinite x number h =>
    change _ ∈ exponentViolations x
    rw [exponentViolations, if_neg (Bool.eq_false_iff.mp number), if_pos h]
    exact List.mem_singleton_self _

/-- The violations of settings are those of their fields. -/
theorem mem_settings_violations_iff {settings : Settings} {violation : Violation} :
    violation ∈ settings.violations ↔
      ∃ field : Field, field.Violates (field.get settings) violation := by
  simp only [violations_settings, List.mem_flatMap, mem_violations_iff, mem_all, true_and]

end Settings.Field

end LineFill
