import Mathlib.Data.List.DropRight
import LineFill.Chunk
import LineFill.Proofs.Pieces

/-!
Measuring the pieces of a text: the chunks of one scan are those of the pieces taken one by one, and
the scan fails exactly when there is a hard break.
-/
namespace LineFill

/-- The text without the blanks at its end. -/
def CharClasses.ink (classes : CharClasses) (text : Text) : Text := text.rdropWhile classes.isBlank

/-- The blanks at the end of the text. -/
def CharClasses.blanks (classes : CharClasses) (text : Text) : Text :=
  text.rtakeWhile classes.isBlank

@[simp] theorem CharClasses.ink_append_blanks (classes : CharClasses) (text : Text) :
    classes.ink text ++ classes.blanks text = text :=
  List.rdropWhile_append_rtakeWhile

/-- The hard break stands in the text, and no character before it is one. -/
def CharClasses.IsFirstBreak (classes : CharClasses) (text : Text) (found : HardBreak) : Prop :=
  ∃ before after : Text, text = before ++ found.char :: after ∧ found.offset = before.byteLength ∧
    classes.isHardBreak found.char = true ∧ ∀ c ∈ before, classes.isHardBreak c = false

theorem CharClasses.exists_isFirstBreak (classes : CharClasses) {text : Text}
    (h : ∃ c ∈ text, classes.isHardBreak c = true) : ∃ found, classes.IsFirstBreak text found := by
  obtain ⟨c, hc⟩ := Option.isSome_iff_exists.mp (List.find?_isSome.mpr h)
  obtain ⟨hhard, before, after, htext, hbefore⟩ := List.find?_eq_some_iff_append.mp hc
  refine ⟨⟨Text.byteLength before, c⟩, before, after, htext, rfl, hhard, ?_⟩
  intro d hd
  simpa using hbefore d hd

namespace Metric

variable (metric : Metric)

@[simp] theorem width_nil : metric.width [] = 0 := rfl

@[simp] theorem width_cons (c : Char) (text : Text) :
    metric.width (c :: text) = metric.widthOf c + metric.width text := rfl

@[simp] theorem width_append (s t : Text) :
    metric.width (s ++ t) = metric.width s + metric.width t := by
  induction s with
  | nil => simp
  | cons c s ih => simp [ih, Nat.add_assoc]

theorem width_ink_le (classes : CharClasses) (text : Text) :
    metric.width (classes.ink text) ≤ metric.width text := by
  have h := congrArg metric.width (classes.ink_append_blanks text)
  rw [width_append] at h
  omega

theorem width_le (metric : Metric) (text : Text) :
    metric.width text ≤ 3 * text.byteLength := by
  induction text with
  | nil => exact Nat.zero_le _
  | cons c cs ih =>
    have hc := metric.widthOf_le c
    have hsize := c.utf8Size_pos
    rw [width_cons, Text.byteLength_cons]
    omega

end Metric

namespace Chunk

variable (classes : CharClasses) (metric : Metric)

/-- The chunks of pieces that follow one another, the first of which starts at `start`. -/
def ofPieces (start : Nat) : List Text → List Chunk
  | [] => []
  | piece :: pieces =>
    ofSlice classes metric start piece :: ofPieces (start + piece.byteLength) pieces

@[simp] theorem ofSlice_nil (start : Nat) : ofSlice classes metric start [] = emptyAt start := by
  simp [ofSlice, emptyAt]

@[simp] theorem ofSlice_width (start : Nat) (piece : Text) :
    (ofSlice classes metric start piece).width = metric.width piece := rfl

@[simp] theorem ofSlice_inkWidth (start : Nat) (piece : Text) :
    (ofSlice classes metric start piece).inkWidth = metric.width (classes.ink piece) := rfl

@[simp] theorem ofSlice_inkStop (start : Nat) (piece : Text) :
    (ofSlice classes metric start piece).inkStop = start + (classes.ink piece).byteLength := rfl

theorem ofSlice_eq (start : Nat) (piece : Text) :
    ofSlice classes metric start piece = ⟨start, start + piece.byteLength,
      start + (classes.ink piece).byteLength, metric.width piece,
      metric.width (classes.ink piece)⟩ := rfl

/-- A character goes to the open chunk as it goes to the piece. -/
theorem push_ofSlice (start : Nat) (piece : Text) (c : Char) :
    (ofSlice classes metric start piece).push classes metric
      (start + (piece ++ [c]).byteLength) c = ofSlice classes metric start (piece ++ [c]) := by
  have hwidth : metric.width piece + metric.widthOf c = metric.width (piece ++ [c]) := by
    simp
  rw [ofSlice_eq, ofSlice_eq, push, hwidth]
  by_cases hc : classes.isBlank c
  · have hink : classes.ink (piece ++ [c]) = classes.ink piece :=
      List.rdropWhile_concat_pos classes.isBlank piece c hc
    simp [hc, hink]
  · have hink : classes.ink (piece ++ [c]) = piece ++ [c] :=
      List.rdropWhile_concat_neg classes.isBlank piece c hc
    simp [hc, hink]

variable {classes metric}

/-- The scan of what is left of a piece, when `part` of it has gone to the open chunk. -/
theorem scan_piece (metric : Metric) (start : Nat) (part : Text) {rest : Text} (hne : rest ≠ [])
    (soft : ∀ c ∈ rest, classes.isHardBreak c = false) (stops : List Nat) (text : Text) :
    scan classes metric ((start + (part ++ rest).byteLength) :: stops)
      (ofSlice classes metric start part) (start + part.byteLength) (rest ++ text) =
        (scan classes metric stops (emptyAt (start + (part ++ rest).byteLength))
          (start + (part ++ rest).byteLength) text).map
            (ofSlice classes metric start (part ++ rest) :: ·) := by
  induction rest generalizing part with
  | nil => exact absurd rfl hne
  | cons c rest ih =>
    have hc : classes.isHardBreak c = false := soft c List.mem_cons_self
    have hnext : start + part.byteLength + c.utf8Size = start + (part ++ [c]).byteLength := by
      simp [Nat.add_assoc]
    have hpart : part ++ c :: rest = (part ++ [c]) ++ rest := by simp
    rw [List.cons_append, scan, hc, if_neg Bool.false_ne_true]
    simp only [hnext, push_ofSlice, hpart]
    by_cases hrest : rest = []
    · -- the piece is complete, and its stop has been reached
      simp [hrest]
    · have hpos := Text.byteLength_pos hrest
      have hopen : ¬ ((rest ++ text).isEmpty || decide
          (start + ((part ++ [c]) ++ rest).byteLength ≤ start + (part ++ [c]).byteLength)) = true := by
        simp [hrest]
        omega
      rw [if_neg hopen]
      apply ih (part ++ [c]) hrest
      intro d hd
      exact soft d (List.mem_cons_of_mem c hd)

/-- One scan measures the pieces one by one. -/
theorem scan_pieces (metric : Metric) {pieces : List Text} (hne : [] ∉ pieces)
    (soft : ∀ c ∈ pieces.flatten, classes.isHardBreak c = false) (start : Nat) :
    scan classes metric (Text.stops start pieces) (emptyAt start) start pieces.flatten =
      .ok (ofPieces classes metric start pieces) := by
  induction pieces generalizing start with
  | nil => rfl
  | cons piece pieces ih =>
    obtain ⟨hpiece, hrest⟩ := not_or.mp (mt List.mem_cons.mpr hne)
    rw [List.flatten_cons] at soft
    have hsoft : ∀ c ∈ piece, classes.isHardBreak c = false := by
      intro c hc
      exact soft c (List.mem_append_left _ hc)
    have hlater : ∀ c ∈ pieces.flatten, classes.isHardBreak c = false := by
      intro c hc
      exact soft c (List.mem_append_right _ hc)
    have h := scan_piece metric start [] (Ne.symm hpiece) hsoft
      (Text.stops (start + piece.byteLength) pieces) pieces.flatten
    rw [List.nil_append, ofSlice_nil, Text.byteLength_nil, Nat.add_zero, ih hrest hlater] at h
    exact h

/-- The first hard break is found wherever it stands, since the scan does not end before the text. -/
theorem scan_eq_error {before : Text} (soft : ∀ c ∈ before, classes.isHardBreak c = false) {c : Char}
    (hard : classes.isHardBreak c = true) (after : Text) (stops : List Nat) (chunk : Chunk)
    (offset : Nat) :
    scan classes metric stops chunk offset (before ++ c :: after) =
      .error ⟨offset + before.byteLength, c⟩ := by
  induction before generalizing stops chunk offset with
  | nil =>
    rw [List.nil_append, scan, if_pos hard]
    rfl
  | cons d before ih =>
    have hd : classes.isHardBreak d = false := soft d List.mem_cons_self
    have hsoft : ∀ e ∈ before, classes.isHardBreak e = false := by
      intro e he
      exact soft e (List.mem_cons_of_mem d he)
    have hoffset : offset + d.utf8Size + Text.byteLength before =
        offset + Text.byteLength (d :: before) := by
      rw [Text.byteLength_cons, Nat.add_assoc]
    rw [List.cons_append, scan, hd, if_neg Bool.false_ne_true, ← hoffset]
    cases stops with
    | nil => exact ih hsoft [] _ _
    | cons stop later =>
      dsimp only
      split
      · rw [ih hsoft later]
        rfl
      · exact ih hsoft (stop :: later) _ _

/-- Measuring at canonical offsets gives the chunks of the pieces between them. -/
theorem ofOffsets_eq_ofPieces {text : Text} {offsets : List Nat}
    (h : Offsets.Canonical text offsets) (soft : ∀ c ∈ text, classes.isHardBreak c = false) :
    ofOffsets classes metric text offsets =
      .ok (ofPieces classes metric 0 (text.pieces offsets)) := by
  obtain ⟨hflat, hnil, hstops⟩ := h.pieces
  have hscan := scan_pieces metric hnil (by rwa [hflat]) 0
  rw [hflat] at hscan
  cases hp : text.pieces offsets with
  | nil =>
    rw [hp] at hstops
    rw [hstops]
    rfl
  | cons piece pieces =>
    rw [hp] at hstops hscan
    rw [hstops, Text.stops, ofOffsets]
    exact hscan

theorem ofOffsets_eq_error (metric : Metric) {text : Text} {offsets : List Nat}
    (h : Offsets.Canonical text offsets) {found : HardBreak}
    (first : classes.IsFirstBreak text found) :
    ofOffsets classes metric text offsets = .error found := by
  obtain ⟨before, after, htext, hoffset, hard, soft⟩ := first
  obtain ⟨hflat, -, hstops⟩ := h.pieces
  cases hp : text.pieces offsets with
  | nil =>
    rw [hp, htext] at hflat
    simp at hflat
  | cons piece pieces =>
    rw [hp] at hstops
    rw [hstops, Text.stops, ofOffsets, htext, scan_eq_error soft hard, Nat.zero_add, ← hoffset]

end Chunk

end LineFill
