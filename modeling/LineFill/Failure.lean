import LineFill.Settings.Basic

/-!
What stops a filler: settings it cannot use, or a hard line break that it must not pass through.
-/
namespace LineFill

inductive Failure
  | invalidSettings (violations : List Violation)
  | embeddedLineBreak (element : Nat) (found : HardBreak)
  deriving DecidableEq, Repr

namespace Failure

/-- The code point in upper-case hexadecimal, with four digits or more. -/
def codePoint (c : Char) : String :=
  let digits := (Nat.toDigits 16 c.toNat).map Char.toUpper
  String.ofList (List.replicate (4 - digits.length) '0' ++ digits)

def message : Failure → String
  | invalidSettings violations =>
    "invalid wrap configuration: " ++ "; ".intercalate (violations.map Violation.message)
  | embeddedLineBreak element found =>
    "element " ++ toString element ++ " contains a line break (U+" ++ codePoint found.char ++
      ") at byte " ++ toString found.offset ++ "; text to wrap must not contain newlines"

end Failure

end LineFill
