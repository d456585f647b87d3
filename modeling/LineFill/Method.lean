import LineFill.FirstFit
import LineFill.LeastRagged
import LineFill.Decimal.Notation

/-!
The two ways to fill lines: first fit, in one pass, and least ragged, for a positive exponent of
the unused width.
-/
namespace LineFill

variable {K : Type} [Score K]

inductive Method (K : Type)
  | firstFit
  | leastRagged (exponent : K)

/-- Where the lines of some chunks end, and the sum of the penalties if it was minimized. -/
structure Solution (K : Type) where
  points : List Nat
  total? : Option K

namespace Method

/-- Only a positive exponent makes an uneven line worse than an even one. -/
def ofExponent (exponent : K) : Method K :=
  if Score.less Score.zero exponent then .leastRagged exponent else .firstFit

def solve (chunks : List Chunk) (width : Nat) : Method K → Solution K
  | firstFit => ⟨LineFill.firstFit width chunks, none⟩
  | leastRagged exponent =>
    let plan := leastRaggedPlan chunks width exponent
    ⟨plan.points, some plan.total⟩

/-- The chunks after which a line ends. -/
def points (method : Method K) (chunks : List Chunk) (width : Nat) : List Nat :=
  (method.solve chunks width).points

/-- The exponent that judges the lines; lines filled by first fit are judged by their unused width
itself. -/
def penaltyExponent : Method K → K
  | firstFit => Score.ofNat 1
  | leastRagged exponent => exponent

def text : Method Float → String
  | firstFit => "greedy"
  | leastRagged exponent => "optimal(exponent=" ++ Decimal.Style.plain.text exponent ++ ")"

end Method

end LineFill
