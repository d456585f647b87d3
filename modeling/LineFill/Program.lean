import LineFill.Filler.Events
import LineFill.Log
import LineFill.Options
import LineFill.Stream

/-!
The program as a function: from arguments, environment and standard input to the exit code and what
it writes. Every line of the input is an element of one batch.
-/
namespace LineFill.Program

structure Response where
  exitCode : Nat
  output : List UInt8
  diagnostics : List String
  deriving DecidableEq, Repr

def helpText : String := "\n".intercalate [
  "linewrap: wrap each line of stdin to a target width",
  "",
  "USAGE:",
  "    linewrap [OPTIONS] < input.txt",
  "",
  "OPTIONS:",
  "    --width=N            Target line width (default: 80)",
  "    --exponent=F         Raggedness exponent; <= 0 wraps greedily (default: 2)",
  "    --locale=TAG         Locale passed to the line segmenter",
  "    --policy=POLICY      Input lines with embedded breaks: 'fail' or 'passthrough'",
  "                         (default: fail)",
  "    --metric=METRIC      Width metric: 'codepoints' or 'cells' (default: codepoints)",
  "    --help, -h           Show this help message",
  "    --version, -V        Show version",
  "",
  "ENVIRONMENT:",
  "    LINEWRAP_WIDTH                 Same as --width",
  "    LINEWRAP_COST_EXPONENT         Same as --exponent",
  "    LINEWRAP_LOCALE                Same as --locale",
  "    LINEWRAP_LINE_BREAK_POLICY     Same as --policy",
  "    LINEWRAP_WIDTH_METRIC          Same as --metric",
  "    RUST_LOG                       Log filter for stderr diagnostics (default: warn)",
  "",
  "Each input line is wrapped on its own. Lines that are not valid UTF-8 are",
  "copied through unchanged."]

def versionText : String := "linewrap 0.1.0"

def printed (text : String) : Response := ⟨0, Text.encode (text ++ "\n").toList, []⟩

def rejected (diagnostics : List String) : Response := ⟨1, [], diagnostics⟩

def refuse : Refusal → Response
  | .help => printed helpText
  | .version => printed versionText
  | .unknownArgument argument =>
    rejected ["Unknown argument: " ++ argument, "Run with --help for usage information."]
  | .invalidValue field value => rejected ["Invalid " ++ field.flag ++ " value: " ++ value]
  | .invalidSettings violations =>
    rejected (violations.map fun v => "Invalid configuration: " ++ v.message)

def failureLine (failure : Failure) : String := "linewrap: " ++ failure.message

/-- What a run has to say and what it makes of its input. -/
structure Run where
  events : List (Event Float)
  result : Except Failure (List Filled)

/-- Fills the elements of the input. -/
def runFiller (settings : Settings) (filler : Filler Float) (input : List UInt8) : Run :=
  let elements := (Stream.elements input).map fun bytes => filler.read (some bytes)
  let result := filler.fillElements 0 elements
  let finished :=
    match result with
    | .ok filled => [.batchFilled filled.length]
    | .error _ => []
  ⟨filler.readyEvent :: .readingStarted settings :: filler.batchEvents 0 elements ++ finished,
    result⟩

def runOptions (options : Options) (input : List UInt8) : Run :=
  let before := options.warnings.map .settingIgnored ++ Filler.localeEvents options.settings.locale
  match Filler.unicode options.settings with
  | .error failure => ⟨before, .error failure⟩
  | .ok filler =>
    let run := runFiller options.settings filler input
    ⟨before ++ run.events, run.result⟩

def Run.response (filter : LogFilter) (run : Run) : Response :=
  let log := (run.events.filter filter).map Event.line
  match run.result with
  | .ok filled => ⟨0, Stream.write filled, log⟩
  | .error failure => rejected (log ++ [failureLine failure])

/-- The whole program, for a notation of log filters. -/
def runWith (filters : LogNotation) (env : Settings.Environment) (arguments : List String)
    (input : List UInt8) : Response :=
  match Options.read env arguments with
  | .error refusal => refuse refusal
  | .ok options => (runOptions options input).response (filters.inForce env)

/-- The whole program with log filters by level. -/
def run (env : Settings.Environment) (arguments : List String) (input : List UInt8) : Response :=
  runWith .levels env arguments input

end LineFill.Program
