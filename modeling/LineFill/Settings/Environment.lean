import LineFill.Settings.Field

/-!
Settings from environment variables. A variable that cannot be read leaves its field at the default
and is reported.
-/
namespace LineFill.Settings

abbrev Environment := String → Option String

structure FromEnvironment where
  settings : Settings
  unreadable : List Violation

/-- The settings with the field read from its variable, if it can be read. A locale of blanks only is
passed over. -/
def Field.assignVariable? (field : Field) (value : String) (settings : Settings) : Option Settings :=
  match field, Field.readLocale value.toList with
  | .locale, none => some settings
  | field, _ => field.assign? value settings

namespace FromEnvironment

def readField (env : Environment) (found : FromEnvironment) (field : Field) : FromEnvironment :=
  match env field.variableName with
  | none => found
  | some value =>
    match field.assignVariable? value found.settings with
    | some settings => { found with settings }
    | none => { found with unreadable := found.unreadable ++ [field.unreadable value] }

def read (env : Environment) : FromEnvironment := Field.all.foldl (readField env) ⟨{}, []⟩

/-- All that was wrong: what could not be read, then what the settings that were read cannot be. -/
def errors (found : FromEnvironment) : List Violation :=
  found.unreadable ++ found.settings.violations

end FromEnvironment

end LineFill.Settings
