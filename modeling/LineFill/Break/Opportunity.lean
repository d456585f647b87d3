import LineFill.Break.Transition

/-!
The offsets at which a line of a text may end, by the pair rules. The walk visits every character
once and reports the offset before it when the rules allow a break there; the end of a non-empty
text is always reported (`getLast?_opportunities`).
-/
namespace LineFill.Break

/-- The reported offsets of a text that starts at `offset`, in the given state. -/
def walk (state : State) (joined : Bool) (offset : Nat) : Text → List Nat
  | [] => if (Transition.atEnd state).breaks joined then [offset] else []
  | c :: cs =>
    let cls := BreakClass.ofChar c
    let t := Transition.onClass state cls
    let later := walk t.next (cls = .zeroWidthJoiner) (offset + c.utf8Size) cs
    if t.breaks joined then offset :: later else later

def opportunities (text : Text) : List Nat := walk .startOfText false 0 text

/-- The start of the text and every later opportunity. -/
def offsets (text : Text) : List Nat := 0 :: (opportunities text).filter (0 < ·)

theorem getLast?_walk {state : State} (h : state ≠ .startOfText) (joined : Bool) (offset : Nat)
    (text : Text) : (walk state joined offset text).getLast? = some (offset + text.byteLength) := by
  induction text generalizing state joined offset with
  | nil => simp [walk, Transition.atEnd_breaks h]
  | cons c cs ih =>
    have later := ih (Transition.onClass_next_ne state (BreakClass.ofChar c))
      (BreakClass.ofChar c = .zeroWidthJoiner) (offset + c.utf8Size)
    simp only [walk]
    split <;> simp [List.getLast?_cons, later, Nat.add_assoc]

theorem getLast?_opportunities {text : Text} (h : text ≠ []) :
    (opportunities text).getLast? = some text.byteLength := by
  cases text with
  | nil => exact absurd rfl h
  | cons c cs =>
    have later := getLast?_walk (Transition.onClass_next_ne .startOfText (BreakClass.ofChar c))
      (BreakClass.ofChar c = .zeroWidthJoiner) (0 + c.utf8Size) cs
    simp only [Nat.zero_add] at later
    simp only [opportunities, walk, Nat.zero_add]
    split <;> simp [List.getLast?_cons, later]

end LineFill.Break
