import LineFill.Event
import LineFill.Settings.Environment

/-!
Which events are written to the log. Filters are given as text, in a notation that is a parameter here.
-/
namespace LineFill

/-- Whether an event is written. -/
abbrev LogFilter := Event Float → Bool

/-- The filter by gravity alone: events of the level and graver ones. -/
def LogFilter.upTo (level : Level) : LogFilter := fun event => event.level.rank ≤ level.rank

/-- A notation of filters. The strict reading refuses a text with a part that it does not know, the
lenient one passes over the part. -/
structure LogNotation where
  strict? : String → Option LogFilter
  lenient : String → LogFilter

namespace LogNotation

/-- The filter of the environment, or the default if there is none that can be read. -/
def inForce (filters : LogNotation) (env : Settings.Environment) : LogFilter :=
  ((env "RUST_LOG").bind filters.strict?).getD (filters.lenient "warn")

theorem inForce_of_unset {filters : LogNotation} {env : Settings.Environment}
    (h : env "RUST_LOG" = none) : filters.inForce env = filters.lenient "warn" := by
  simp [inForce, h]

/-- A level by its name, in any case, or by its rank. -/
def ofLevel? (text : String) : Option LogFilter :=
  match String.ofList (Text.lowerAscii text.toList) with
  | "off" | "0" => some fun _ => false
  | "" | "error" | "1" => some (.upTo .error)
  | "warn" | "2" => some (.upTo .warn)
  | "info" | "3" => some (.upTo .info)
  | "debug" | "4" => some (.upTo .debug)
  | "trace" | "5" => some (.upTo .trace)
  | _ => none

/-- The notation of a program that filters by level only. -/
def levels : LogNotation := ⟨ofLevel?, fun text => (ofLevel? text).getD (.upTo .error)⟩

end LogNotation

end LineFill
