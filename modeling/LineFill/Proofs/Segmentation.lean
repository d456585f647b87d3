import LineFill.Proofs.CanonicalOffsets
import LineFill.Proofs.UnicodeFiller

/-!
Segmentation of parts of a text. At a break the pair rules forget what stands before it, so what
follows has the pieces that it has in the whole text, and a text that ends inside a piece has its last
one cut short.
-/
namespace LineFill

namespace Break

/-- A character before which there is a break leads to the same state as at the start of a text. -/
theorem Transition.next_eq_of_allowed {state : State} {cls : BreakClass}
    (h : (onClass state cls).allowed = true) :
    (onClass state cls).next = (onClass .startOfText cls).next := by
  revert state
  cases cls <;> decide +kernel

theorem Transition.allowed_of_breaks {t : Transition} {joined : Bool} (h : t.breaks joined = true) :
    t.allowed = true :=
  (Bool.and_eq_true_iff.mp h).1

/-- The pieces from the last break on, of which `part` has been read. -/
def piecesFrom (state : State) (joined : Bool) (part : Text) : Text → List Text
  | [] => [part]
  | c :: cs =>
    let cls := BreakClass.ofChar c
    let t := Transition.onClass state cls
    if t.breaks joined then part :: piecesFrom t.next (cls = .zeroWidthJoiner) [c] cs
    else piecesFrom t.next (cls = .zeroWidthJoiner) (part ++ [c]) cs

variable {state : State} {joined : Bool} {part : Text}

theorem flatten_piecesFrom (state : State) (joined : Bool) (part text : Text) :
    (piecesFrom state joined part text).flatten = part ++ text := by
  induction text generalizing state joined part with
  | nil => simp [piecesFrom]
  | cons c cs ih =>
    rw [piecesFrom]
    split
    · rw [List.flatten_cons, ih]
      rfl
    · rw [ih, List.append_assoc]
      rfl

theorem nil_not_mem_piecesFrom (hpart : part ≠ []) (text : Text) :
    [] ∉ piecesFrom state joined part text := by
  induction text generalizing state joined part with
  | nil =>
    rw [piecesFrom, List.mem_singleton]
    exact Ne.symm hpart
  | cons c cs ih =>
    rw [piecesFrom]
    split
    · rw [List.mem_cons, not_or]
      exact ⟨Ne.symm hpart, ih (List.cons_ne_nil c [])⟩
    · exact ih (List.append_ne_nil_of_right_ne_nil part (List.cons_ne_nil c []))

/-- The walk reports where these pieces end. -/
theorem walk_eq_stops (h : state ≠ .startOfText) (start : Nat) (part text : Text) :
    walk state joined (start + part.byteLength) text =
      Text.stops start (piecesFrom state joined part text) := by
  induction text generalizing state joined part start with
  | nil =>
    rw [walk, if_pos (Transition.atEnd_breaks h joined)]
    rfl
  | cons c cs ih =>
    have hnext := Transition.onClass_next_ne state (BreakClass.ofChar c)
    rw [walk, piecesFrom]
    split
    · rw [Text.stops, ← ih hnext, Text.byteLength_cons, Text.byteLength_nil, Nat.add_zero]
    · rw [← ih hnext, Text.byteLength_append, Text.byteLength_cons, Text.byteLength_nil,
        Nat.add_zero, Nat.add_assoc]

theorem pieces_nil : pieces [] = [] := rfl

/-- The first character is read at the start of the text and opens the first piece. -/
theorem offsets_cons (c : Char) (cs : Text) :
    offsets (c :: cs) = 0 :: Text.stops 0
      (piecesFrom (Transition.onClass .startOfText (BreakClass.ofChar c)).next
        (BreakClass.ofChar c = .zeroWidthJoiner) [c] cs) := by
  let parts := piecesFrom (Transition.onClass .startOfText (BreakClass.ofChar c)).next
    (BreakClass.ofChar c = .zeroWidthJoiner) [c] cs
  have hnil : [] ∉ parts := nil_not_mem_piecesFrom (List.cons_ne_nil c []) cs
  have hwalk : walk (Transition.onClass .startOfText (BreakClass.ofChar c)).next
      (BreakClass.ofChar c = .zeroWidthJoiner) (0 + c.utf8Size) cs = Text.stops 0 parts :=
    walk_eq_stops (Transition.onClass_next_ne _ _) 0 [c] cs
  have hpos : (Text.stops 0 parts).filter (0 < ·) = Text.stops 0 parts := by
    rw [List.filter_eq_self]
    intro stop hstop
    exact decide_eq_true (Text.lt_of_mem_stops hnil hstop)
  unfold offsets opportunities
  rw [walk, hwalk]
  split
  · rw [List.filter_cons_of_neg (by decide), hpos]
  · rw [hpos]

theorem pieces_cons (c : Char) (cs : Text) :
    pieces (c :: cs) = piecesFrom (Transition.onClass .startOfText (BreakClass.ofChar c)).next
      (BreakClass.ofChar c = .zeroWidthJoiner) [c] cs := by
  let parts := piecesFrom (Transition.onClass .startOfText (BreakClass.ofChar c)).next
    (BreakClass.ofChar c = .zeroWidthJoiner) [c] cs
  have hnil : [] ∉ parts := nil_not_mem_piecesFrom (List.cons_ne_nil c []) cs
  have hflat : parts.flatten = c :: cs := flatten_piecesFrom _ _ [c] cs
  unfold pieces
  rw [offsets_cons, ← hflat, Offsets.canonical_stops hnil]
  exact Text.pieces_stops [] parts

theorem flatten_pieces (text : Text) : (pieces text).flatten = text := by
  cases text with
  | nil => rfl
  | cons c cs =>
    rw [pieces_cons, flatten_piecesFrom]
    rfl

/-- The offsets of a text are the ends of its pieces. -/
theorem canonical_offsets (text : Text) : Offsets.Canonical text (offsets text) := by
  cases text with
  | nil => exact Offsets.canonical_of_pieces List.not_mem_nil
  | cons c cs =>
    have h := Offsets.canonical_of_pieces (nil_not_mem_pieces (c :: cs))
    rwa [flatten_pieces, pieces_cons, ← offsets_cons] at h

theorem droppedCount_offsets (text : Text) : Offsets.droppedCount text (offsets text) = 0 :=
  (canonical_offsets text).droppedCount_eq_zero

theorem pieces_flatten_of_piecesFrom {text piece : Text} {rest : List Text}
    (h : piecesFrom state joined part text = piece :: rest) : pieces rest.flatten = rest := by
  induction text generalizing state joined part with
  | nil =>
    obtain ⟨-, rfl⟩ := List.cons.inj h
    exact pieces_nil
  | cons c cs ih =>
    rw [piecesFrom] at h
    split at h
    · next hbreaks =>
      -- the rules go on from the break as from the start
      obtain ⟨-, rfl⟩ := List.cons.inj h
      rw [flatten_piecesFrom, List.singleton_append, pieces_cons,
        Transition.next_eq_of_allowed (Transition.allowed_of_breaks hbreaks)]
    · exact ih h

/-- What follows a break has the pieces that it has in the whole text. -/
theorem pieces_of_append {text : Text} {front back : List Text} (h : pieces text = front ++ back) :
    pieces back.flatten = back := by
  induction front generalizing text with
  | nil =>
    have hflat := flatten_pieces text
    rw [h, List.nil_append] at hflat
    rw [hflat, h, List.nil_append]
  | cons piece front ih =>
    cases text with
    | nil => cases h
    | cons c cs =>
      rw [pieces_cons] at h
      exact ih (pieces_flatten_of_piecesFrom h)

theorem prefix_of_piecesFrom {text piece : Text} {rest : List Text}
    (h : piecesFrom state joined part text = piece :: rest) : part <+: piece := by
  induction text generalizing state joined part with
  | nil =>
    obtain ⟨rfl, -⟩ := List.cons.inj h
    exact List.prefix_refl part
  | cons c cs ih =>
    rw [piecesFrom] at h
    split at h
    · obtain ⟨rfl, -⟩ := List.cons.inj h
      exact List.prefix_refl part
    · exact (List.prefix_append part [c]).trans (ih h)

theorem piecesFrom_of_prefix {s t q r : Text} {front back : List Text} (hq : q ≠ [])
    (h : piecesFrom state joined part (s ++ t) = front ++ (q ++ r) :: back)
    (hs : part ++ s = front.flatten ++ q) : piecesFrom state joined part s = front ++ [q] := by
  have hlen := List.length_pos_iff.mpr hq
  induction s generalizing state joined part front with
  | nil =>
    rw [List.append_nil] at hs
    cases front with
    | nil => rw [piecesFrom, hs, List.flatten_nil, List.nil_append, List.nil_append]
    | cons piece front =>
      -- the first piece is no shorter than what has been read of it
      have hle := (prefix_of_piecesFrom h).length_le
      rw [hs, List.flatten_cons, List.length_append, List.length_append] at hle
      omega
  | cons c s ih =>
    rw [List.cons_append, piecesFrom] at h
    rw [piecesFrom]
    split at h
    · next hbreaks =>
      rw [if_pos hbreaks]
      cases front with
      | nil =>
        obtain ⟨hpart, -⟩ := List.cons.inj h
        have hcut := congrArg List.length hs
        rw [hpart] at hcut
        simp at hcut
      | cons piece front =>
        obtain ⟨rfl, hlater⟩ := List.cons.inj h
        rw [List.flatten_cons, List.append_assoc] at hs
        rw [ih hlater (List.append_cancel_left hs), List.cons_append]
    · next hkeeps =>
      rw [if_neg hkeeps]
      exact ih h (by rw [← hs, List.append_assoc, List.singleton_append])

/-- A text that ends inside a piece has the same pieces up to it. -/
theorem pieces_of_prefix {text q r : Text} (front : List Text) {back : List Text} (hq : q ≠ [])
    (h : pieces text = front ++ (q ++ r) :: back) :
    pieces (front.flatten ++ q) = front ++ [q] := by
  have htext : text = (front.flatten ++ q) ++ (r ++ back.flatten) := by
    rw [← flatten_pieces text, h]
    simp
  obtain ⟨c, s, hs⟩ :=
    List.exists_cons_of_ne_nil (List.append_ne_nil_of_right_ne_nil front.flatten hq)
  rw [htext, hs, List.cons_append, pieces_cons] at h
  rw [hs, pieces_cons]
  exact piecesFrom_of_prefix hq h hs.symm

end Break

/-- What is left of one piece without its blanks is one piece. -/
theorem Filler.IsUnicode.pieces_lineOf_singleton {K : Type} {filler : Filler K}
    (h : filler.IsUnicode) {text piece : Text} (hpiece : piece ∈ filler.pieces text)
    (hne : filler.classes.lineOf [piece] ≠ []) :
    filler.pieces (filler.classes.lineOf [piece]) = [filler.classes.lineOf [piece]] := by
  rw [h.pieces_eq] at hpiece ⊢
  obtain ⟨before, after, hpieces⟩ := List.append_of_mem hpiece
  have hink : piece = filler.classes.lineOf [piece] ++ filler.classes.gapOf [piece] := by
    rw [CharClasses.lineOf_append_gapOf, List.flatten_singleton]
  have hsame := Break.pieces_of_append hpieces
  rw [hink] at hsame
  exact Break.pieces_of_prefix [] hne hsame

end LineFill
