import LineFill.Settings.Basic
import LineFill.Decimal.Reader

/-!
The fields of the settings by the names they have outside: an environment variable, a flag of the
command line, and the name in messages. A field reads its value in the same way wherever it comes
from.
-/
namespace LineFill.Settings

inductive Field
  | width
  | exponent
  | locale
  | policy
  | metric
  deriving DecidableEq, Repr

namespace Field

def all : List Field := [width, exponent, locale, policy, metric]

def variableName : Field → String
  | width => "LINEWRAP_WIDTH"
  | exponent => "LINEWRAP_COST_EXPONENT"
  | locale => "LINEWRAP_LOCALE"
  | policy => "LINEWRAP_LINE_BREAK_POLICY"
  | metric => "LINEWRAP_WIDTH_METRIC"

def flag : Field → String
  | width => "--width"
  | exponent => "--exponent"
  | locale => "--locale"
  | policy => "--policy"
  | metric => "--metric"

def name : Field → String
  | width => "width"
  | exponent => "cost_exponent"
  | locale => "locale"
  | policy => "line_break_policy"
  | metric => "width_metric"

/-- What the field can read; a locale reads everything. -/
def expected : Field → String
  | width => "expected integer"
  | exponent => "expected number"
  | locale => "expected locale"
  | policy => "expected fail|passthrough"
  | metric => "expected codepoints|cells"

def unreadable (field : Field) (value : String) : Violation := ⟨field.name, value, field.expected⟩

/-- A number, but not the value that is none. -/
def readExponent? (text : Text) : Option Float :=
  (Decimal.readFloat? text.trim).filter (!·.isNaN)

/-- A locale of blanks only is none. -/
def readLocale (text : Text) : Option String :=
  if text.trim.isEmpty then none else some (String.ofList text.trim)

/-- The settings with the field read from a value, if it can be read. -/
def assign? (field : Field) (value : String) (settings : Settings) : Option Settings :=
  let text := value.toList
  match field with
  | width => (Decimal.readInt64? (Text.trim text)).map ({ settings with width := · })
  | exponent => (readExponent? text).map ({ settings with exponent := · })
  | locale => some { settings with locale := readLocale text }
  | policy => (HardBreakPolicy.ofText? text).map ({ settings with policy := · })
  | metric => (Metric.ofText? text).map ({ settings with metric := · })

end Field

end LineFill.Settings
