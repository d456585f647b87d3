import LineFill.Checked.Word
import LineFill.Method

/-!
The two methods on words. First fit is one pass; least ragged filling keeps, for each chunk, the
least total of a plan that ends there and the point before its last line, and reads the points off
backwards.
-/
namespace LineFill.Checked

variable {K : Type} [Score K]

namespace FirstFit

/-- The points from chunk number `index` on, when `used` is the width of the current line. -/
def points (width used index : Nat) : List Chunk → Checked (List Nat)
  | [] => return []
  | chunk :: rest => do
    let needed ← Word.add used chunk.inkWidth
    let next ← Word.add index 1
    if width < needed then
      let point ← Word.sub index 1
      let later ← points width chunk.width next rest
      return point :: later
    else
      let used ← Word.add used chunk.width
      points width used next rest

end FirstFit

def firstFit (width : Nat) : List Chunk → Checked (List Nat)
  | [] => return []
  | chunk :: rest => FirstFit.points width chunk.width 1 rest

def penalty (used width : Nat) (single : Bool) (exponent : K) : Checked (Option K) :=
  if width < used then return if single then some Score.zero else none
  else do
    let spare ← Word.sub width used
    return some (Score.pow (Score.ofNat spare) exponent)

namespace PenaltyTable

/-- The width of the line that starts with chunk `first`, when chunk `last` is about to follow. Unless
`last` is its first chunk, the blanks of the chunk before count from now on. -/
def widen (chunks : List Chunk) (first last used : Nat) : Checked Nat :=
  if first < last then do
    let index ← Word.sub last 1
    let before ← fetch chunks index
    let blankWidth ← Word.sub before.width before.inkWidth
    Word.add used blankWidth
  else return used

/-- The penalties of the lines from chunk `first` on that end with the chunks of the given numbers,
up to the first line too wide. `used` is the width of the line that ends with the chunk before. -/
def row (chunks : List Chunk) (width : Nat) (exponent : K) (first used : Nat) :
    List Nat → Checked (List K)
  | [] => return []
  | last :: later => do
    let before ← widen chunks first last used
    let chunk ← fetch chunks last
    let inked ← Word.add before chunk.inkWidth
    match ← penalty inked width (first = last) exponent with
    | some p =>
      let rest ← row chunks width exponent first inked later
      return p :: rest
    | none => return []

def build (chunks : List Chunk) (width : Nat) (exponent : K) : Checked (List (List K)) :=
  (List.range chunks.length).mapM fun first =>
    row chunks width exponent first 0 (List.range' first (chunks.length - first))

def get? (rows : List (List K)) (first last : Nat) : Checked (Option K) :=
  if last < first then return none
  else do
    let column ← Word.sub last first
    return rows[first]? >>= (·[column]?)

end PenaltyTable

namespace LeastRagged

/-- The total of a plan and the point before its last line, if it has more than one. -/
structure Choice (K : Type) where
  total : K
  point? : Option Nat

/-- The first of the choices with the smallest total. -/
def better? (best? : Option (Choice K)) (next : Choice K) : Option (Choice K) :=
  match best? with
  | none => some next
  | some best => if Score.less next.total best.total then some next else some best

/-- The best choice for the chunks up to `last`, among those tried before and the given starts of the
last line. -/
def choose (rows : List (List K)) (totals : List K) (last : Nat) (best? : Option (Choice K)) :
    List Nat → Checked (Option (Choice K))
  | [] => return best?
  | first :: starts => do
    match ← PenaltyTable.get? rows first last with
    | none => choose rows totals last best? starts
    | some p =>
      match first with
      | 0 => choose rows totals last (better? best? ⟨Score.add Score.zero p, none⟩) starts
      | first + 1 =>
        let before ← fetch totals first
        choose rows totals last (better? best? ⟨Score.add before p, some first⟩) starts

/-- For each chunk, the total of the best plan that ends there and the point before its last line. -/
structure Columns (K : Type) where
  totals : List K
  points : List (Option Nat)

def fillColumns (rows : List (List K)) (columns : Columns K) : List Nat → Checked (Columns K)
  | [] => return columns
  | last :: later => do
    match ← choose rows columns.totals last none (List.range (last + 1)) with
    | none => fillColumns rows columns later
    | some best =>
      let totals ← store columns.totals last best.total
      let points ← store columns.points last best.point?
      fillColumns rows ⟨totals, points⟩ later

/-- The points that lead back from `point?`, the latest first, in at most `steps` steps. -/
def back (points : List (Option Nat)) : Nat → Option Nat → Checked (List Nat)
  | _, none => return []
  | 0, some _ => .error .endless
  | steps + 1, some point => do
    let before ← fetch points point
    let earlier ← back points steps before
    return point :: earlier

end LeastRagged

/-- The points of the best plan and its total. -/
def leastRagged (chunks : List Chunk) (width : Nat) (exponent : K) : Checked (List Nat × K) :=
  if chunks.isEmpty then return ([], Score.zero)
  else do
    let rows ← PenaltyTable.build chunks width exponent
    let columns ← LeastRagged.fillColumns rows
      ⟨List.replicate chunks.length Score.infinity, List.replicate chunks.length none⟩
      (List.range chunks.length)
    let last ← Word.sub chunks.length 1
    let point ← fetch columns.points last
    let points ← LeastRagged.back columns.points chunks.length point
    let total ← fetch columns.totals last
    return (points.reverse, total)

def solve (chunks : List Chunk) (width : Nat) : Method K → Checked (Solution K)
  | .firstFit => do
    let points ← firstFit width chunks
    return ⟨points, none⟩
  | .leastRagged exponent => do
    let (points, total) ← leastRagged chunks width exponent
    return ⟨points, some total⟩

end LineFill.Checked
