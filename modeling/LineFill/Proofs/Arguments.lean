import Mathlib.Data.List.TakeWhile
import LineFill.Options
import LineFill.Proofs.Fields

/-!
Arguments of the command line. An argument is refused, for one reason, or it gives a field a value that
the field can read; arguments that all do leave each field with the last value it is given.
-/
namespace LineFill.Options

open Settings

/-- Why an argument is refused, whatever stands around it. -/
inductive Refused : String → Refusal → Prop
  | help {argument : String} (h : argument = "--help" ∨ argument = "-h") : Refused argument .help
  | version {argument : String} (h : argument = "--version" ∨ argument = "-V") :
      Refused argument .version
  | noValue {argument : String} (h : '=' ∉ argument.toList)
      (other : argument ∉ ["--help", "-h", "--version", "-V"]) :
      Refused argument (.unknownArgument argument)
  | unknownName {name value : String} (h : '=' ∉ name.toList)
      (unknown : ∀ field : Field, name ≠ field.flag) :
      Refused (name ++ "=" ++ value) (.unknownArgument (name ++ "=" ++ value))
  | unreadable {field : Field} {value : String} (h : field.read? value = none) :
      Refused (field.flag ++ "=" ++ value) (.invalidValue field value)

/-- The argument gives a field a value that the field can read. -/
def Accepted (argument : String) : Prop :=
  ∃ (field : Field) (value : String), argument = field.flag ++ "=" ++ value ∧
    (field.read? value).isSome

/-- Some argument gives the field a value. -/
def Names (arguments : List String) (field : Field) : Prop :=
  ∃ value, field.flag ++ "=" ++ value ∈ arguments

/-- The value that the last argument which names the field gives it. -/
def LastValue (arguments : List String) (field : Field) (value : String) : Prop :=
  ∃ before after, arguments = before ++ (field.flag ++ "=" ++ value) :: after ∧ ¬ Names after field

section Flags

variable {name value argument : String} {field : Field}

theorem splitFlag?_assignment (h : '=' ∉ name.toList) :
    splitFlag? (name ++ "=" ++ value) = some (name, value) := by
  have hname : ∀ c ∈ name.toList, (c != '=') = true := by
    rintro c hc
    simp only [bne_iff_ne]
    rintro rfl
    exact h hc
  simp [splitFlag?, List.dropWhile_append_of_pos hname, List.takeWhile_append_of_pos hname]

theorem splitFlag?_eq_none (h : '=' ∉ argument.toList) : splitFlag? argument = none := by
  have hdrop : argument.toList.dropWhile (· != '=') = [] := by
    rw [List.dropWhile_eq_nil_iff]
    rintro c hc
    simp only [bne_iff_ne]
    rintro rfl
    exact h hc
  simp [splitFlag?, hdrop]

theorem exists_assignment (h : '=' ∈ argument.toList) :
    ∃ name value, '=' ∉ name.toList ∧ argument = name ++ "=" ++ value := by
  obtain ⟨name, value, hsplit, hname⟩ := List.eq_append_cons_of_mem h
  refine ⟨String.ofList name, String.ofList value, by simpa using hname, ?_⟩
  apply String.ext
  simpa using hsplit

theorem not_mem_flag (field : Field) : '=' ∉ field.flag.toList := by
  cases field <;> decide

theorem assignment_injective {other : Field} {more : String}
    (h : field.flag ++ "=" ++ value = other.flag ++ "=" ++ more) : field = other ∧ value = more := by
  have hsplit := congrArg splitFlag? h
  rw [splitFlag?_assignment (not_mem_flag field), splitFlag?_assignment (not_mem_flag other)] at hsplit
  obtain ⟨hflag, hvalue⟩ := Prod.mk.inj (Option.some.inj hsplit)
  refine ⟨?_, hvalue⟩
  cases field <;> cases other <;> simp [Field.flag] at hflag ⊢

/-- An equals sign tells a value from a request. -/
theorem assignment_ne (h : '=' ∉ argument.toList) : name ++ "=" ++ value ≠ argument := by
  rintro rfl
  simp at h

end Flags

section Apply

variable {name value argument : String} {refusal : Refusal} {field : Field} {settings : Settings}

theorem not_request_assignment : ¬ (name ++ "=" ++ value = "--help" ∨ name ++ "=" ++ value = "-h") ∧
    ¬ (name ++ "=" ++ value = "--version" ∨ name ++ "=" ++ value = "-V") := by
  simp only [not_or]
  exact ⟨⟨assignment_ne (by decide), assignment_ne (by decide)⟩,
    assignment_ne (by decide), assignment_ne (by decide)⟩

theorem apply_unknown (h : '=' ∉ name.toList) (unknown : ∀ field : Field, name ≠ field.flag) :
    apply settings (name ++ "=" ++ value) = .error (.unknownArgument (name ++ "=" ++ value)) := by
  have hfind : Field.all.find? (·.flag = name) = none := by
    simp [List.find?_eq_none, Ne.symm (unknown _)]
  rw [apply, if_neg not_request_assignment.1, if_neg not_request_assignment.2,
    splitFlag?_assignment h]
  simp only [hfind]

theorem apply_flag : apply settings (field.flag ++ "=" ++ value) =
    match field.read? value with
    | none => .error (.invalidValue field value)
    | some x => .ok (field.set x settings) := by
  have hfind : Field.all.find? (·.flag = field.flag) = some field := by
    cases field <;> rfl
  rw [apply, if_neg not_request_assignment.1, if_neg not_request_assignment.2,
    splitFlag?_assignment (not_mem_flag field)]
  simp only [hfind, Field.assign?_eq]
  cases field.read? value <;> rfl

/-- A refused argument is refused after any others. -/
theorem apply_of_refused (h : Refused argument refusal) : apply settings argument = .error refusal := by
  cases h with
  | help h => rw [apply, if_pos h]
  | version h =>
    have hhelp : ¬ (argument = "--help" ∨ argument = "-h") := by
      rcases h with rfl | rfl <;> decide
    rw [apply, if_neg hhelp, if_pos h]
  | noValue h other =>
    simp only [List.mem_cons, List.not_mem_nil, or_false, not_or] at other
    simp [apply, other, splitFlag?_eq_none h]
  | unknownName h unknown => exact apply_unknown h unknown
  | unreadable h => rw [apply_flag, h]

theorem accepted_or_refused (argument : String) :
    Accepted argument ∨ ∃ refusal, Refused argument refusal := by
  by_cases hvalue : '=' ∈ argument.toList
  · obtain ⟨name, value, hname, rfl⟩ := exists_assignment hvalue
    by_cases hflag : ∃ field : Field, name = field.flag
    · obtain ⟨field, rfl⟩ := hflag
      cases hread : field.read? value with
      | none => exact Or.inr ⟨_, .unreadable hread⟩
      | some x => exact Or.inl ⟨field, value, rfl, by simp [hread]⟩
    · exact Or.inr ⟨_, .unknownName hname (not_exists.mp hflag)⟩
  · right
    by_cases hhelp : argument = "--help" ∨ argument = "-h"
    · exact ⟨_, .help hhelp⟩
    · by_cases hversion : argument = "--version" ∨ argument = "-V"
      · exact ⟨_, .version hversion⟩
      · refine ⟨_, .noValue hvalue ?_⟩
        simp only [List.mem_cons, List.not_mem_nil, or_false]
        rw [← or_assoc]
        exact not_or.mpr ⟨hhelp, hversion⟩

end Apply

section Arguments

variable {first : String} {arguments : List String} {field : Field} {value : String}

theorem names_cons_iff : Names (first :: arguments) field ↔
    (∃ value, first = field.flag ++ "=" ++ value) ∨ Names arguments field := by
  simp only [Names, List.mem_cons, exists_or, eq_comm]

theorem lastValue_cons_iff : LastValue (first :: arguments) field value ↔
    LastValue arguments field value ∨
      first = field.flag ++ "=" ++ value ∧ ¬ Names arguments field := by
  constructor
  · rintro ⟨before, after, hsplit, hafter⟩
    cases before with
    | nil =>
      obtain ⟨rfl, rfl⟩ := List.cons.inj hsplit
      exact Or.inr ⟨rfl, hafter⟩
    | cons _ before =>
      obtain ⟨rfl, rfl⟩ := List.cons.inj hsplit
      exact Or.inl ⟨before, after, rfl, hafter⟩
  · rintro (⟨before, after, rfl, hafter⟩ | ⟨rfl, hafter⟩)
    · exact ⟨first :: before, after, rfl, hafter⟩
    · exact ⟨[], arguments, rfl, hafter⟩

/-- Of the arguments that name a field one is the last. -/
theorem exists_lastValue (h : Names arguments field) : ∃ value, LastValue arguments field value := by
  induction arguments with
  | nil =>
    obtain ⟨value, hvalue⟩ := h
    cases hvalue
  | cons first arguments ih =>
    simp only [lastValue_cons_iff]
    by_cases hlater : Names arguments field
    · obtain ⟨value, hvalue⟩ := ih hlater
      exact ⟨value, Or.inl hvalue⟩
    · obtain ⟨value, hfirst⟩ := (names_cons_iff.mp h).resolve_right hlater
      exact ⟨value, Or.inr ⟨hfirst, hlater⟩⟩

/-- Arguments that are accepted change the fields that they name, each to its last value. -/
theorem foldlM_apply (h : ∀ argument ∈ arguments, Accepted argument) (settings : Settings) :
    ∃ result, arguments.foldlM apply settings = .ok result ∧
      ∀ field, (∀ value, LastValue arguments field value →
          field.read? value = some (field.get result)) ∧
        (¬ Names arguments field → field.get result = field.get settings) := by
  induction arguments generalizing settings with
  | nil =>
    refine ⟨settings, rfl, fun field => ⟨?_, fun _ => rfl⟩⟩
    rintro value ⟨before, after, hsplit, -⟩
    simp at hsplit
  | cons first arguments ih =>
    obtain ⟨⟨named, value, rfl, hread⟩, hrest⟩ := List.forall_mem_cons.mp h
    obtain ⟨x, hx⟩ := Option.isSome_iff_exists.mp hread
    -- The rest starts from settings in which the named field has its new value.
    obtain ⟨result, hresult, hfields⟩ := ih hrest (named.set x settings)
    refine ⟨result, ?_, ?_⟩
    · rw [List.foldlM_cons, apply_flag, hx]
      exact hresult
    · intro field
      constructor
      · intro last hlast
        rcases lastValue_cons_iff.mp hlast with hlater | ⟨hfirst, hlater⟩
        · exact (hfields field).1 last hlater
        · obtain ⟨rfl, rfl⟩ := assignment_injective hfirst
          rw [(hfields named).2 hlater, Field.get_set, hx]
      · intro hnames
        obtain ⟨hfirst, hlater⟩ := not_or.mp (mt names_cons_iff.mpr hnames)
        have hne : field ≠ named := by
          rintro rfl
          exact hfirst ⟨value, rfl⟩
        rw [(hfields field).2 hlater, Field.get_set_of_ne hne]

/-- Arguments that are not all accepted have a first that is refused. -/
theorem exists_first_refused (h : ¬ ∀ argument ∈ arguments, Accepted argument) :
    ∃ before argument after refusal, arguments = before ++ argument :: after ∧
      (∀ argument ∈ before, Accepted argument) ∧ Refused argument refusal := by
  induction arguments with
  | nil => simp at h
  | cons first arguments ih =>
    rcases accepted_or_refused first with hfirst | ⟨refusal, hfirst⟩
    · have hrest : ¬ ∀ argument ∈ arguments, Accepted argument := by
        simpa [hfirst] using h
      obtain ⟨before, argument, after, refusal, rfl, hbefore, hrefused⟩ := ih hrest
      exact ⟨first :: before, argument, after, refusal, rfl,
        List.forall_mem_cons.mpr ⟨hfirst, hbefore⟩, hrefused⟩
    · exact ⟨[], first, arguments, refusal, rfl, by simp, hfirst⟩

end Arguments

end LineFill.Options
