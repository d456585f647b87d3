import LineFill.Break.Opportunity
import LineFill.Failure
import LineFill.Lines
import LineFill.Penalties
import LineFill.Text.Utf8

/-!
A filler: settings that have been checked, with a segmenter and character classes. It cuts texts
into chunks, fills lines with them and cuts the lines out of the text.
-/
namespace LineFill

variable {K : Type} [Score K]

/-- The offsets at which a line of a text may end. -/
abbrev Segmenter := Text → List Nat

structure Filler (K : Type) where
  width : Nat
  method : Method K
  metric : Metric
  policy : HardBreakPolicy
  segmenter : Segmenter
  classes : CharClasses

/-- What is known of a text before its lines are cut. -/
inductive Layout (K : Type)
  | unbreakable
  | broken (found : HardBreak)
  | chunked (chunks : List Chunk) (solution : Solution K)

/-- The lines of a text as a whole: where they end, and how they are judged. -/
structure Breaks (K : Type) where
  points : List Nat
  penalties : List (Option K)
  total : K

/-- What becomes of an item of a batch. -/
inductive Filled
  | lines (lines : List Text)
  | verbatim (bytes : List UInt8)
  | absent
  deriving DecidableEq, Repr

/-- An item of a batch as the filler reads it. -/
inductive Element (K : Type)
  | absent
  | malformed (bytes : List UInt8) (validUpTo : Nat)
  | text (bytes : List UInt8) (text : Text) (layout : Layout K)

namespace Filler

/-- The filler for the settings, unless they have violations. -/
def ofSettings (settings : Settings) (segmenter : Segmenter) (classes : CharClasses) :
    Except Failure (Filler Float) :=
  match settings.violations with
  | [] =>
    .ok ⟨settings.width.toNat, settings.method, settings.metric, settings.policy, segmenter, classes⟩
  | violations => .error (.invalidSettings violations)

/-- The filler with the line breaks and character classes of Unicode. No locale changes them. -/
def unicode (settings : Settings) : Except Failure (Filler Float) :=
  ofSettings settings Break.offsets .unicode

/-- A segmenter that reports fewer than two offsets says that the text cannot be broken; what it
reports else is taken in canonical form. -/
def layout (filler : Filler K) (text : Text) : Layout K :=
  let raw := filler.segmenter text
  if raw.length < 2 then .unbreakable
  else
    match Chunk.ofOffsets filler.classes filler.metric text (Offsets.canonical text raw) with
    | .ok chunks => .chunked chunks (filler.method.solve chunks filler.width)
    | .error found => .broken found

/-- A hard line break is a failure by policy; `element` is the number of the text in its batch. -/
def failure? (filler : Filler K) (element : Nat) : Layout K → Option Failure
  | .broken found =>
    match filler.policy with
    | .fail => some (.embeddedLineBreak element found)
    | .passThrough => none
  | _ => none

/-- The layout, unless it is a failure. -/
def accept (filler : Filler K) (element : Nat) (layout : Layout K) : Except Failure (Layout K) :=
  match filler.failure? element layout with
  | some failure => .error failure
  | none => .ok layout

/-- The lines of a text with the given layout. -/
def linesOf (text : Text) : Layout K → List Text
  | .chunked chunks solution => cutLines text chunks solution.points
  | _ => [text]

/-- The lines of a text. -/
def fill (filler : Filler K) (text : Text) : Except Failure (List Text) :=
  (filler.accept 0 (filler.layout text)).map (linesOf text)

def breaksOf (filler : Filler K) : Layout K → Option (Breaks K)
  | .chunked chunks solution =>
    let penalties :=
      penalties chunks solution.points filler.width filler.method.penaltyExponent
    some ⟨solution.points, penalties, totalPenalty penalties⟩
  | _ => none

/-- Where the lines of a text end and how they are judged; none if the text is not broken at all. -/
def breaks (filler : Filler K) (text : Text) : Except Failure (Option (Breaks K)) :=
  (filler.accept 0 (filler.layout text)).map filler.breaksOf

def read (filler : Filler K) : Option (List UInt8) → Element K
  | none => .absent
  | some bytes =>
    match Text.decode bytes with
    | (text, []) => .text bytes text (filler.layout text)
    | (text, _) => .malformed bytes text.byteLength

def elementFailure? (filler : Filler K) (number : Nat) : Element K → Option Failure
  | .text _ _ layout => filler.failure? number layout
  | _ => none

/-- Malformed and passed-through items keep their bytes. -/
def fillElement (filler : Filler K) (number : Nat) : Element K → Except Failure Filled
  | .absent => .ok .absent
  | .malformed bytes _ => .ok (.verbatim bytes)
  | .text bytes text layout =>
    (filler.accept number layout).map fun
      | .broken _ => .verbatim bytes
      | layout => .lines (linesOf text layout)

def fillItem (filler : Filler K) (number : Nat) (item : Option (List UInt8)) :
    Except Failure Filled :=
  filler.fillElement number (filler.read item)

def fillBytes (filler : Filler K) (bytes : List UInt8) : Except Failure Filled :=
  filler.fillItem 0 (some bytes)

/-- Fills elements from number `number` on; the first failure ends the batch. -/
def fillElements (filler : Filler K) (number : Nat) :
    List (Element K) → Except Failure (List Filled)
  | [] => .ok []
  | element :: rest =>
    match filler.fillElement number element with
    | .error failure => .error failure
    | .ok filled => (filler.fillElements (number + 1) rest).map (filled :: ·)

/-- Fills the items of a batch, each on its own; the first failure leaves no result. -/
def fillBatch (filler : Filler K) (items : List (Option (List UInt8))) :
    Except Failure (List Filled) :=
  filler.fillElements 0 (items.map filler.read)

end Filler

/-- The lines of a text by Unicode rules. A width beyond the largest one is as good as that. -/
def fillText (text : Text) (width : Nat) (exponent : Float) : Except Failure (List Text) :=
  Filler.unicode { width := min width Settings.maxWidth, exponent } >>= (·.fill text)

end LineFill
