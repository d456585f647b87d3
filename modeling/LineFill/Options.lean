import LineFill.Settings.Environment

/-!
The command line: flags with values, read from left to right over the settings of the environment.
-/
namespace LineFill

/-- What the command line asks for instead of a run, or what is wrong with it. -/
inductive Refusal
  | help
  | version
  | unknownArgument (argument : String)
  | invalidValue (field : Settings.Field) (value : String)
  | invalidSettings (violations : List Violation)
  deriving DecidableEq, Repr

structure Options where
  settings : Settings
  warnings : List Violation

namespace Options

/-- A flag and its value are parted by the first equals sign. -/
def splitFlag? (argument : String) : Option (String × String) :=
  let chars := argument.toList
  match chars.dropWhile (· != '=') with
  | [] => none
  | _ :: value => some (String.ofList (chars.takeWhile (· != '=')), String.ofList value)

/-- The settings after one more argument. -/
def apply (settings : Settings) (argument : String) : Except Refusal Settings :=
  if argument = "--help" ∨ argument = "-h" then .error .help
  else if argument = "--version" ∨ argument = "-V" then .error .version
  else
    match splitFlag? argument with
    | none => .error (.unknownArgument argument)
    | some (flag, value) =>
      match Settings.Field.all.find? (·.flag = flag) with
      | none => .error (.unknownArgument argument)
      | some field =>
        match field.assign? value settings with
        | none => .error (.invalidValue field value)
        | some settings => .ok settings

/-- The first argument that is refused decides; the settings are checked when all have been read. -/
def read (env : Settings.Environment) (arguments : List String) : Except Refusal Options :=
  let found := Settings.FromEnvironment.read env
  match arguments.foldlM apply found.settings with
  | .error refusal => .error refusal
  | .ok settings =>
    match settings.violations with
    | [] => .ok ⟨settings, found.unreadable⟩
    | violations => .error (.invalidSettings violations)

end Options

end LineFill
