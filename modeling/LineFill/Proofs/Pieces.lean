import LineFill.Offsets

/-!
The pieces of a text between its break offsets. Canonical offsets, which every list of two or more
has, cut a text into pieces that are not empty and make up the text.
-/
namespace LineFill

namespace Text

/-- The parts of a text between consecutive offsets. -/
def pieces (text : Text) : List Nat → List Text
  | start :: stop :: later => text.slice start stop :: pieces text (stop :: later)
  | _ => []

/-- The offsets at which pieces end, the first of which starts at `start`. -/
def stops (start : Nat) : List Text → List Nat
  | [] => []
  | piece :: pieces => (start + piece.byteLength) :: stops (start + piece.byteLength) pieces

theorem byteLength_pos {text : Text} (h : text ≠ []) : 0 < text.byteLength := by
  have := mt byteLength_eq_zero.mp h
  omega

/-- What stands between an edge and a later one. -/
theorem exists_piece {s t : Text} {stop : Nat} (hlt : s.byteLength < stop)
    (hedge : isEdge (s ++ t) stop = true) :
    ∃ piece rest, t = piece ++ rest ∧ piece ≠ [] ∧ stop = s.byteLength + piece.byteLength := by
  obtain ⟨u, v, huv, hu⟩ := isEdge_iff.mp hedge
  rcases List.append_eq_append_iff.mp huv with ⟨piece, rfl, rfl⟩ | ⟨c, rfl, rfl⟩
  · refine ⟨piece, v, rfl, ?_, by rw [← hu, byteLength_append]⟩
    rintro rfl
    simp at hu
    omega
  · rw [byteLength_append] at hlt
    omega

/-- The stops of pieces cut their text into these pieces again. -/
theorem pieces_stops (s : Text) (parts : List Text) :
    pieces (s ++ parts.flatten) (s.byteLength :: stops s.byteLength parts) = parts := by
  induction parts generalizing s with
  | nil => rfl
  | cons part parts ih =>
    have hrest := ih (s ++ part)
    rw [byteLength_append, List.append_assoc] at hrest
    rw [stops, pieces, List.flatten_cons, slice_append, hrest]

theorem lt_of_mem_stops {parts : List Text} (hne : [] ∉ parts) {start stop : Nat}
    (h : stop ∈ stops start parts) : start < stop := by
  induction parts generalizing start with
  | nil => cases h
  | cons part parts ih =>
    obtain ⟨hpart, hrest⟩ := not_or.mp (mt List.mem_cons.mpr hne)
    have hpos := byteLength_pos (Ne.symm hpart)
    rcases List.mem_cons.mp h with rfl | hlater
    · omega
    · have hlt := ih hrest hlater
      omega

/-- There are at most as many pieces as bytes. -/
theorem length_le_byteLength {parts : List Text} (hne : [] ∉ parts) :
    parts.length ≤ byteLength parts.flatten := by
  induction parts with
  | nil => exact Nat.zero_le _
  | cons part parts ih =>
    obtain ⟨hpart, hrest⟩ := not_or.mp (mt List.mem_cons.mpr hne)
    have hpos := byteLength_pos (Ne.symm hpart)
    have hlen := ih hrest
    rw [List.length_cons, List.flatten_cons, byteLength_append]
    omega

@[simp] theorem length_stops (start : Nat) (parts : List Text) :
    (stops start parts).length = parts.length := by
  induction parts generalizing start with
  | nil => rfl
  | cons part parts ih => rw [stops, List.length_cons, ih, List.length_cons]

theorem length_le (text : Text) : text.length ≤ text.byteLength := by
  induction text with
  | nil => exact Nat.le_refl 0
  | cons c cs ih =>
    have hsize := c.utf8Size_pos
    rw [List.length_cons, byteLength_cons]
    omega

end Text

namespace Offsets

theorem le_byteLength {text : Text} {n : Nat} (h : text.isEdge n = true) : n ≤ text.byteLength := by
  obtain ⟨s, t, rfl, rfl⟩ := Text.isEdge_iff.mp h
  simp

/-- Each offset that is kept is an edge after the one before it, and the last is the end. -/
theorem canonical_keep {text : Text} {last : Nat} (hlast : text.isEdge last = true)
    (raw : List Nat) :
    (last :: keep text last raw).getLast? = some text.byteLength ∧
      (last :: keep text last raw).Pairwise (· < ·) ∧
      ∀ o ∈ last :: keep text last raw, text.isEdge o = true := by
  induction raw generalizing last with
  | nil =>
    have hle := le_byteLength hlast
    rw [keep]
    split
    · next heq => simp [heq, Text.isEdge_byteLength]
    · next hne =>
      have hlt : last < text.byteLength := by omega
      simp [hlt, hlast, Text.isEdge_byteLength]
  | cons offset rest ih =>
    rw [keep]
    split
    · next hc =>
      simp only [continues, Bool.and_eq_true, decide_eq_true_eq] at hc
      obtain ⟨hend, hpair, hedge⟩ := ih hc.2
      have hlater : ∀ o ∈ offset :: keep text offset rest, last < o := by
        intro o ho
        rcases List.mem_cons.mp ho with rfl | ho
        · exact hc.1
        · exact Nat.lt_trans hc.1 ((List.pairwise_cons.mp hpair).1 o ho)
      refine ⟨?_, List.pairwise_cons.mpr ⟨hlater, hpair⟩, ?_⟩
      · rw [List.getLast?_cons_cons, hend]
      · intro o ho
        rcases List.mem_cons.mp ho with rfl | ho
        · exact hlast
        · exact hedge o ho
    · exact ih hlast

theorem canonical_of_two_le {text : Text} {raw : List Nat} (h : 2 ≤ raw.length) :
    Canonical text (canonical text raw) := by
  obtain ⟨hend, hpair, hedge⟩ := canonical_keep (Text.isEdge_zero text) raw
  have hcanonical : canonical text raw = 0 :: keep text 0 raw := by
    rw [canonical, if_neg (by omega)]
  rw [hcanonical]
  exact ⟨rfl, hend, hpair, hedge⟩

open Text

/-- The rest of a canonical list, where `s` is the text before its first offset. -/
theorem pieces_of_offsets {s t : Text} {later : List Nat}
    (hend : (s.byteLength :: later).getLast? = some (byteLength (s ++ t)))
    (hpair : (s.byteLength :: later).Pairwise (· < ·))
    (hedge : ∀ o ∈ later, isEdge (s ++ t) o = true) :
    (pieces (s ++ t) (s.byteLength :: later)).flatten = t ∧
      [] ∉ pieces (s ++ t) (s.byteLength :: later) ∧
      later = stops s.byteLength (pieces (s ++ t) (s.byteLength :: later)) := by
  induction later generalizing s t with
  | nil =>
    have ht : t = [] := by
      apply byteLength_eq_zero.mp
      simpa using hend
    simp [pieces, stops, ht]
  | cons stop later ih =>
    obtain ⟨hlt, hpair⟩ := List.pairwise_cons.mp hpair
    obtain ⟨piece, rest, rfl, hne, rfl⟩ :=
      exists_piece (hlt stop List.mem_cons_self) (hedge stop List.mem_cons_self)
    have hsplit : s ++ (piece ++ rest) = (s ++ piece) ++ rest := by rw [List.append_assoc]
    have hlen : s.byteLength + piece.byteLength = (s ++ piece).byteLength := by
      rw [byteLength_append]
    have hslice : slice (s ++ (piece ++ rest)) s.byteLength (s.byteLength + piece.byteLength) =
        piece := slice_append s piece rest
    rw [pieces, hslice]
    rw [List.getLast?_cons_cons] at hend
    rw [hsplit, hlen] at hend hedge ⊢
    rw [hlen] at hpair
    have hlater : ∀ o ∈ later, isEdge ((s ++ piece) ++ rest) o = true := by
      intro o ho
      exact hedge o (List.mem_cons_of_mem _ ho)
    obtain ⟨hflat, hnil, hstops⟩ := ih hend hpair hlater
    refine ⟨by rw [List.flatten_cons, hflat], ?_, ?_⟩
    · rw [List.mem_cons, not_or]
      exact ⟨hne.symm, hnil⟩
    · rw [stops, hlen, ← hstops]

/-- Canonical offsets are the ends of the pieces, which make up the text. -/
theorem Canonical.pieces {text : Text} {offsets : List Nat} (h : Canonical text offsets) :
    (text.pieces offsets).flatten = text ∧ [] ∉ text.pieces offsets ∧
      offsets = 0 :: stops 0 (text.pieces offsets) := by
  obtain ⟨later, rfl⟩ : ∃ later, offsets = 0 :: later := by
    cases offsets with
    | nil => simpa using h.first
    | cons o later =>
      obtain rfl := Option.some.inj h.first
      exact ⟨later, rfl⟩
  have hedge : ∀ o ∈ later, isEdge ([] ++ text) o = true := by
    intro o ho
    exact h.edges o (List.mem_cons_of_mem _ ho)
  obtain ⟨hflat, hnil, hstops⟩ := pieces_of_offsets (s := []) h.last h.increasing hedge
  exact ⟨hflat, hnil, congrArg (0 :: ·) hstops⟩

theorem Canonical.length_le {text : Text} {offsets : List Nat} (h : Canonical text offsets) :
    offsets.length ≤ text.byteLength + 1 := by
  obtain ⟨hflat, hnil, hstops⟩ := h.pieces
  have hlen := Text.length_le_byteLength hnil
  rw [hflat] at hlen
  rw [hstops, List.length_cons, Text.length_stops]
  omega

/-- The end of a piece continues the list that ends where the piece starts. -/
theorem continues_stop (s : Text) {part : Text} (hpart : part ≠ []) (rest : Text) :
    continues (s ++ (part ++ rest)) s.byteLength (s.byteLength + part.byteLength) = true := by
  have hpos := Text.byteLength_pos hpart
  have hedge : Text.isEdge (s ++ (part ++ rest)) (s.byteLength + part.byteLength) = true :=
    Text.isEdge_iff.mpr ⟨s ++ part, rest, by simp, Text.byteLength_append s part⟩
  unfold continues
  rw [hedge, Bool.and_true, decide_eq_true_eq]
  omega

/-- The stops of pieces that are not empty are kept. -/
theorem keep_stops (s : Text) {parts : List Text} (hne : [] ∉ parts) :
    keep (s ++ parts.flatten) s.byteLength (Text.stops s.byteLength parts) =
      Text.stops s.byteLength parts := by
  induction parts generalizing s with
  | nil =>
    rw [List.flatten_nil, List.append_nil, Text.stops, keep, if_pos rfl]
  | cons part parts ih =>
    obtain ⟨hpart, hrest⟩ := not_or.mp (mt List.mem_cons.mpr hne)
    have hlater := ih (s ++ part) hrest
    rw [Text.byteLength_append, List.append_assoc] at hlater
    rw [Text.stops, List.flatten_cons, keep, if_pos (continues_stop s (Ne.symm hpart) _), hlater]

theorem dropped_stops (s : Text) {parts : List Text} (hne : [] ∉ parts) :
    dropped (s ++ parts.flatten) s.byteLength (Text.stops s.byteLength parts) = 0 := by
  induction parts generalizing s with
  | nil => rfl
  | cons part parts ih =>
    obtain ⟨hpart, hrest⟩ := not_or.mp (mt List.mem_cons.mpr hne)
    have hlater := ih (s ++ part) hrest
    rw [Text.byteLength_append, List.append_assoc] at hlater
    rw [Text.stops, List.flatten_cons, dropped, if_pos (continues_stop s (Ne.symm hpart) _), hlater]

theorem continues_zero (text : Text) : continues text 0 0 = false := by simp [continues]

/-- None of them is dropped. -/
theorem droppedCount_stops {parts : List Text} (hne : [] ∉ parts) :
    droppedCount parts.flatten (0 :: Text.stops 0 parts) = 0 := by
  have hdropped : dropped parts.flatten 0 (Text.stops 0 parts) = 0 := dropped_stops [] hne
  unfold droppedCount
  split
  · rfl
  · rw [dropped, continues_zero, if_neg Bool.false_ne_true, if_pos rfl, hdropped]

theorem canonical_stops {parts : List Text} (hne : [] ∉ parts) :
    canonical parts.flatten (0 :: Text.stops 0 parts) = 0 :: Text.stops 0 parts := by
  have hkeep : keep parts.flatten 0 (Text.stops 0 parts) = Text.stops 0 parts := keep_stops [] hne
  unfold canonical
  split
  · rfl
  · rw [keep, continues_zero, if_neg Bool.false_ne_true, hkeep]

end Offsets

end LineFill
