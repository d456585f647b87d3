import LineFill.Method

/-!
The settings of a filler and what can be wrong with them.
-/
namespace LineFill

/-- What becomes of a text with a hard line break: an error, or the text as it is. -/
inductive HardBreakPolicy
  | fail
  | passThrough
  deriving DecidableEq, Repr

namespace HardBreakPolicy

def name : HardBreakPolicy → String
  | fail => "fail"
  | passThrough => "passthrough"

def ofText? (text : Text) : Option HardBreakPolicy :=
  match text.keyword with
  | "fail" | "error" => some .fail
  | "passthrough" | "pass-through" | "pass" => some .passThrough
  | _ => none

end HardBreakPolicy

structure Settings where
  width : Int := 80
  exponent : Float := 2
  locale : Option String := none
  policy : HardBreakPolicy := .fail
  metric : Metric := .codepoints

/-- A value that a setting cannot have, and why. -/
structure Violation where
  field : String
  value : String
  reason : String
  deriving DecidableEq, Repr

namespace Violation

def message (v : Violation) : String := v.field ++ "=" ++ v.value ++ " (" ++ v.reason ++ ")"

def widthNotPositive (width : Int) : Violation := ⟨"width", toString width, "must be >= 1"⟩

def exponentNotANumber : Violation := ⟨"cost_exponent", "NaN", "must be a number"⟩

def exponentInfinite (exponent : Float) : Violation :=
  ⟨"cost_exponent", Decimal.Style.plain.text exponent, "must be finite"⟩

end Violation

namespace Settings

/-- The largest width: settings hold a number of 64 bits with sign. -/
def maxWidth : Nat := Nat.pow 2 63 - 1

def widthViolations (width : Int) : List Violation :=
  if width ≤ 0 then [.widthNotPositive width] else []

def exponentViolations (exponent : Float) : List Violation :=
  if exponent.isNaN then [.exponentNotANumber]
  else if exponent.isInf then [.exponentInfinite exponent] else []

/-- Everything that keeps the settings from being used, in the order of the fields. -/
def violations (settings : Settings) : List Violation :=
  widthViolations settings.width ++ exponentViolations settings.exponent

def method (settings : Settings) : Method Float := Method.ofExponent settings.exponent

def summary (settings : Settings) : String :=
  "width=" ++ toString settings.width ++ " · " ++ settings.method.text ++ " · " ++
    settings.metric.name

end Settings

end LineFill
