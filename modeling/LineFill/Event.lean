import LineFill.Failure
import LineFill.Decimal.Notation
import LineFill.Text.Quoted

/-!
Events worth a line in a log, and how they are written: the level, who speaks, a message and the
values that belong to it.
-/
namespace LineFill

/-- Levels of events, the gravest first. -/
inductive Level
  | error
  | warn
  | info
  | debug
  | trace
  deriving DecidableEq, Repr

namespace Level

def name : Level → String
  | error => "ERROR"
  | warn => "WARN"
  | info => "INFO"
  | debug => "DEBUG"
  | trace => "TRACE"

def rank : Level → Nat
  | error => 1
  | warn => 2
  | info => 3
  | debug => 4
  | trace => 5

end Level

inductive Event (K : Type)
  | settingIgnored (violation : Violation)
  | localeIgnored (tag : String)
  | fillerReady (width : Nat) (method : Method K) (metric : Metric)
  | readingStarted (settings : Settings)
  | offsetsDropped (count length : Nat)
  | chunksMeasured (element chunks : Nat) (method : Method K)
  | planFound (chunks : Nat) (total : K) (breaks : Nat)
  | pointsChosen (points : List Nat)
  | hardBreakPassed (element offset : Nat)
  | malformedKept (element validUpTo : Nat)
  | batchFilled (elements : Nat)

namespace Event

def level {K : Type} : Event K → Level
  | settingIgnored .. | offsetsDropped .. | hardBreakPassed .. | malformedKept .. => .warn
  | batchFilled .. => .info
  | localeIgnored .. | fillerReady .. | readingStarted .. | chunksMeasured .. => .debug
  | planFound .. | pointsChosen .. => .trace

def speaker {K : Type} : Event K → String
  | settingIgnored .. | readingStarted .. | batchFilled .. => "linewrap"
  | localeIgnored .. | offsetsDropped .. => "linewrap::segment"
  | planFound .. => "linewrap::optimal"
  | fillerReady .. | chunksMeasured .. | pointsChosen .. | hardBreakPassed .. | malformedKept .. =>
    "linewrap::wrap"

def message {K : Type} : Event K → String
  | settingIgnored .. => "ignoring environment value"
  | localeIgnored .. => "uax14 segmenter has no locale tailoring"
  | fillerReady .. => "wrapper configured"
  | readingStarted .. => "wrapping stdin"
  | offsetsDropped .. => "ignored invalid break offsets"
  | chunksMeasured .. => "measured element"
  | planFound .. => "optimal wrap solved"
  | pointsChosen .. => "wrap points"
  | hardBreakPassed .. => "line break in element, left unwrapped"
  | malformedKept .. => "malformed utf-8, element left unwrapped"
  | batchFilled .. => "wrapped"

def numberList (numbers : List Nat) : String :=
  "[" ++ ", ".intercalate (numbers.map (toString ·)) ++ "]"

/-- The values that belong to the event, in the order in which they are written. -/
def values : Event Float → List (String × String)
  | settingIgnored violation => [("warning", violation.message)]
  | localeIgnored tag => [("locale", String.ofList (Text.quoted tag.toList))]
  | fillerReady width method metric =>
    [("width", toString width), ("algorithm", method.text), ("metric", metric.name)]
  | readingStarted settings => [("config", settings.summary)]
  | offsetsDropped count length => [("dropped", toString count), ("len", toString length)]
  | chunksMeasured element chunks method =>
    [("element", toString element), ("tokens", toString chunks), ("algorithm", method.text)]
  | planFound chunks total breaks =>
    [("tokens", toString chunks), ("total_cost", Decimal.Style.point.text total),
      ("breaks", toString breaks)]
  | pointsChosen points => [("breaks", numberList points)]
  | hardBreakPassed element offset =>
    [("element", toString element), ("byte_offset", toString offset)]
  | malformedKept element validUpTo =>
    [("element", toString element), ("valid_up_to", toString validUpTo)]
  | batchFilled elements => [("elements", toString elements)]

def line (event : Event Float) : String :=
  event.level.name ++ " " ++ event.speaker ++ ": " ++
    " ".intercalate (event.message :: event.values.map fun (name, value) => name ++ "=" ++ value)

end Event

end LineFill
