import LineFill.Event
import LineFill.Filler.Basic

/-!
The events of a filler: what there is to say when it is made and for each element of a batch, up to
the element that fails.
-/
namespace LineFill.Filler

variable {K : Type} [Score K]

def localeEvents (locale : Option String) : List (Event K) :=
  (locale.map Event.localeIgnored).toList

def readyEvent (filler : Filler K) : Event K :=
  .fillerReady filler.width filler.method filler.metric

def dropEvents (filler : Filler K) (text : Text) : List (Event K) :=
  let dropped := Offsets.droppedCount text (filler.segmenter text)
  if dropped = 0 then [] else [.offsetsDropped dropped text.byteLength]

/-- An empty list of chunks needs no plan. -/
def planEvents (chunks : List Chunk) (solution : Solution K) : List (Event K) :=
  match solution.total? with
  | some total =>
    if chunks.isEmpty then [] else [.planFound chunks.length total solution.points.length]
  | none => []

def layoutEvents (filler : Filler K) (number : Nat) : Layout K → List (Event K)
  | .unbreakable => []
  | .broken found =>
    match filler.policy with
    | .fail => []
    | .passThrough => [.hardBreakPassed number found.offset]
  | .chunked chunks solution =>
    .chunksMeasured number chunks.length filler.method :: planEvents chunks solution ++
      [.pointsChosen solution.points]

def elementEvents (filler : Filler K) (number : Nat) : Element K → List (Event K)
  | .absent => []
  | .malformed _ validUpTo => [.malformedKept number validUpTo]
  | .text _ text layout => filler.dropEvents text ++ filler.layoutEvents number layout

/-- The events of a batch whose first element has the given number. -/
def batchEvents (filler : Filler K) (number : Nat) : List (Element K) → List (Event K)
  | [] => []
  | element :: rest =>
    filler.elementEvents number element ++
      match filler.elementFailure? number element with
      | some _ => []
      | none => filler.batchEvents (number + 1) rest

end LineFill.Filler
