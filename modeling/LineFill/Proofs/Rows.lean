import LineFill.Lines
import LineFill.Proofs.LineEnds
import LineFill.Proofs.Measuring

/-!
Rows of pieces. The ends of lines cut the pieces of a text into rows, one for each line; the line that
is sliced out of the text consists of the pieces of its row, the last without the blanks at its end.
-/
namespace LineFill

variable {α : Type}

/-- The items from number `first` on, in rows that end with the given numbers. -/
def rowsFrom (items : List α) (first : Nat) : List Nat → List (List α)
  | [] => []
  | last :: ends => (items.drop first).take (last + 1 - first) :: rowsFrom items (last + 1) ends

/-- The pieces of a row, the last without the blanks at its end. -/
def CharClasses.lineOf (classes : CharClasses) (row : List Text) : Text :=
  row.dropLast.flatten ++ classes.ink (row.getLastD [])

/-- The blanks at the end of the last piece of a row. -/
def CharClasses.gapOf (classes : CharClasses) (row : List Text) : Text :=
  classes.blanks (row.getLastD [])

@[simp] theorem CharClasses.lineOf_concat (classes : CharClasses) (row : List Text) (piece : Text) :
    classes.lineOf (row ++ [piece]) = row.flatten ++ classes.ink piece := by
  simp [lineOf]

theorem CharClasses.lineOf_append_gapOf (classes : CharClasses) (row : List Text) :
    classes.lineOf row ++ classes.gapOf row = row.flatten := by
  rcases List.eq_nil_or_concat row with rfl | ⟨front, last, rfl⟩
  · rfl
  · simp [lineOf, gapOf, List.append_assoc]

namespace Sets

variable {chunks : List Chunk} {items : List α} {width first stop : Nat} {ends : List Nat}

/-- A row holds the items of a line that fits. -/
theorem exists_of_mem_rowsFrom (h : Sets chunks width first ends stop) {row : List α}
    (hrow : row ∈ rowsFrom items first ends) :
    ∃ i last, i ≤ last ∧ last < chunks.length ∧ Fits chunks width i last ∧
      row = (items.drop i).take (last + 1 - i) := by
  induction h with
  | done first => cases hrow
  | @line first last stop ends hf hl fits rest ih =>
    rw [rowsFrom] at hrow
    rcases List.mem_cons.mp hrow with rfl | hrow
    · exact ⟨first, last, hf, hl, fits, rfl⟩
    · exact ih hrow

theorem flatten_rowsFrom (h : Sets chunks width first ends stop)
    (hlen : items.length = chunks.length) (hstop : stop = chunks.length) :
    (rowsFrom items first ends).flatten = items.drop first := by
  induction h with
  | done first =>
    rw [rowsFrom, List.flatten_nil, List.drop_of_length_le (by omega)]
  | @line first last stop ends hf hl fits rest ih =>
    have hnext : last + 1 = first + (last + 1 - first) := by omega
    rw [rowsFrom, List.flatten_cons, ih hstop]
    conv_lhs => rw [hnext, ← List.drop_drop, ← hnext]
    exact List.take_append_drop _ _

end Sets

/-- A row with more than no items ends with the one that ends its line. -/
theorem take_drop_eq_concat {items : List α} {i last : Nat} (h : i ≤ last)
    (hl : last < items.length) :
    (items.drop i).take (last + 1 - i) = (items.drop i).take (last - i) ++ [items[last]] := by
  have hlen : last - i < (items.drop i).length := by
    rw [List.length_drop]
    omega
  have hsub : last + 1 - i = last - i + 1 := by omega
  have hlast : i + (last - i) = last := by omega
  rw [hsub, List.take_succ_eq_append_getElem hlen]
  simp [hlast]

theorem take_append_take_drop (items : List α) {i j : Nat} (h : i ≤ j) :
    items.take i ++ (items.drop i).take (j - i) = items.take j := by
  have hj : j = i + (j - i) := by omega
  conv_rhs => rw [hj, List.take_add]

/-- A line is no wider than all chunks. -/
theorem Chunk.lineWidth_le_totalWidth {chunks : List Chunk} (measured : Measured chunks)
    {first last : Nat} (hf : first ≤ last) (hl : last < chunks.length) :
    lineWidth chunks first last ≤ totalWidth chunks := by
  have hink := measured chunks[last] (List.getElem_mem hl)
  have hfull := fullWidth_succ (Nat.zero_le last) hl
  have hline : lineWidth chunks 0 last = _ := lineWidth_eq_add hl
  have hsplit := congrArg totalWidth (List.take_append_drop (last + 1) chunks)
  have hle := lineWidth_anti_first chunks (Nat.zero_le first) hf
  rw [totalWidth_append] at hsplit
  have hzero : fullWidth chunks 0 (last + 1) = totalWidth (chunks.take (last + 1)) := rfl
  omega

theorem byteLength_flatten_take (pieces : List Text) {i j : Nat} (h : i ≤ j) :
    Text.byteLength (pieces.take j).flatten = Text.byteLength (pieces.take i).flatten +
      Text.byteLength ((pieces.drop i).take (j - i)).flatten := by
  rw [← take_append_take_drop pieces h, List.flatten_append, Text.byteLength_append]

/-- Where the line of a row stands in the text. -/
theorem slice_lineOf (classes : CharClasses) {pieces : List Text} {first last : Nat}
    (hf : first ≤ last) (hl : last < pieces.length) :
    Text.slice pieces.flatten (Text.byteLength (pieces.take first).flatten)
        (Text.byteLength (pieces.take last).flatten + (classes.ink pieces[last]).byteLength) =
      classes.lineOf ((pieces.drop first).take (last + 1 - first)) := by
  have hrow := classes.lineOf_append_gapOf ((pieces.drop first).take (last + 1 - first))
  have hline := take_drop_eq_concat hf hl
  have hpieces : pieces.flatten = (pieces.take first).flatten ++
      (classes.lineOf ((pieces.drop first).take (last + 1 - first)) ++
        (classes.gapOf ((pieces.drop first).take (last + 1 - first)) ++
          (pieces.drop (last + 1)).flatten)) := by
    rw [← List.append_assoc, ← List.append_assoc, List.append_assoc _ (classes.lineOf _), hrow,
      ← List.flatten_append, take_append_take_drop pieces (by omega), ← List.flatten_append,
      List.take_append_drop]
  have hstop : Text.byteLength (pieces.take last).flatten + (classes.ink pieces[last]).byteLength =
      Text.byteLength (pieces.take first).flatten +
        (classes.lineOf ((pieces.drop first).take (last + 1 - first))).byteLength := by
    rw [hline, CharClasses.lineOf_concat, Text.byteLength_append,
      byteLength_flatten_take pieces hf, Nat.add_assoc]
  rw [hstop]
  conv_lhs => rw [hpieces]
  exact Text.slice_append _ _ _

namespace Chunk

variable (classes : CharClasses) (metric : Metric)

@[simp] theorem length_ofPieces (start : Nat) (pieces : List Text) :
    (ofPieces classes metric start pieces).length = pieces.length := by
  induction pieces generalizing start with
  | nil => rfl
  | cons piece pieces ih => simp [ofPieces, ih]

theorem ofPieces_append (start : Nat) (pieces later : List Text) :
    ofPieces classes metric start (pieces ++ later) = ofPieces classes metric start pieces ++
      ofPieces classes metric (start + Text.byteLength pieces.flatten) later := by
  induction pieces generalizing start with
  | nil => simp [ofPieces]
  | cons piece pieces ih => simp [ofPieces, ih, Nat.add_assoc]

/-- A chunk starts where the pieces before it end. -/
theorem drop_ofPieces (start : Nat) (pieces : List Text) (i : Nat) :
    (ofPieces classes metric start pieces).drop i = ofPieces classes metric
      (start + Text.byteLength (pieces.take i).flatten) (pieces.drop i) := by
  induction pieces generalizing start i with
  | nil => simp [ofPieces]
  | cons piece pieces ih =>
    cases i with
    | zero => simp
    | succ i => simp [ofPieces, ih, Nat.add_assoc]

theorem getElem?_ofPieces (start : Nat) (pieces : List Text) (i : Nat) :
    (ofPieces classes metric start pieces)[i]? =
      pieces[i]?.map (ofSlice classes metric
        (start + Text.byteLength (pieces.take i).flatten)) := by
  rw [← List.head?_drop, ← List.head?_drop, drop_ofPieces]
  cases pieces.drop i with
  | nil => rfl
  | cons piece later => rfl

theorem take_ofPieces (start : Nat) (pieces : List Text) (i : Nat) :
    (ofPieces classes metric start pieces).take i =
      ofPieces classes metric start (pieces.take i) := by
  induction pieces generalizing start i with
  | nil => simp [ofPieces]
  | cons piece pieces ih =>
    cases i with
    | zero => simp [ofPieces]
    | succ i => simp [ofPieces, ih]

theorem totalWidth_ofPieces (start : Nat) (pieces : List Text) :
    totalWidth (ofPieces classes metric start pieces) = metric.width pieces.flatten := by
  induction pieces generalizing start with
  | nil => rfl
  | cons piece pieces ih => simp [ofPieces, ih]

theorem measured_ofPieces (start : Nat) (pieces : List Text) :
    Measured (ofPieces classes metric start pieces) := by
  induction pieces generalizing start with
  | nil => simp [Measured, ofPieces]
  | cons piece pieces ih =>
    intro c hc
    rcases List.mem_cons.mp hc with rfl | hc
    · exact metric.width_ink_le classes piece
    · exact ih _ c hc

/-- The width that is compared with the width of lines is the width of the line in the text. -/
theorem lineWidth_ofPieces (start : Nat) (pieces : List Text) {first last : Nat} (hf : first ≤ last)
    (hl : last < pieces.length) :
    lineWidth (ofPieces classes metric start pieces) first last =
      metric.width (classes.lineOf ((pieces.drop first).take (last + 1 - first))) := by
  rw [take_drop_eq_concat hf hl, CharClasses.lineOf_concat, Metric.width_append, lineWidth,
    drop_ofPieces, take_ofPieces, totalWidth_ofPieces, getElem?_ofPieces,
    List.getElem?_eq_getElem hl]
  rfl

theorem spans_ofPieces {pieces : List Text} (hne : pieces ≠ []) (points : List Nat) :
    spans (ofPieces classes metric 0 pieces) points =
      lineSpans (ofPieces classes metric 0 pieces) 0 (points ++ [pieces.length - 1]) := by
  obtain ⟨piece, later, rfl⟩ := List.exists_cons_of_ne_nil hne
  have hlen := length_ofPieces classes metric 0 (piece :: later)
  rw [← hlen]
  rfl

variable {classes metric}

/-- The span of a line, from the start of its first piece to the end of the ink of its last one. -/
theorem lineSpans_cons_ofPieces {pieces : List Text} {first last : Nat} (hf : first ≤ last)
    (hl : last < pieces.length) (ends : List Nat) :
    ∃ next, (last + 1 < pieces.length → next = Text.byteLength (pieces.take (last + 1)).flatten) ∧
      lineSpans (ofPieces classes metric 0 pieces) (Text.byteLength (pieces.take first).flatten)
          (last :: ends) =
        (Text.byteLength (pieces.take first).flatten,
            Text.byteLength (pieces.take last).flatten + (classes.ink pieces[last]).byteLength) ::
          lineSpans (ofPieces classes metric 0 pieces) next ends := by
  have hmax : max (Text.byteLength (pieces.take last).flatten +
      (classes.ink pieces[last]).byteLength) (Text.byteLength (pieces.take first).flatten) =
        Text.byteLength (pieces.take last).flatten + (classes.ink pieces[last]).byteLength := by
    rw [byteLength_flatten_take pieces hf]
    omega
  refine ⟨(((ofPieces classes metric 0 pieces)[last + 1]?).map Chunk.start).getD
    (Text.byteLength (pieces.take first).flatten), ?_, ?_⟩
  · intro hlt
    simp [getElem?_ofPieces, List.getElem?_eq_getElem hlt, ofSlice_eq]
  · rw [lineSpans, getElem?_ofPieces, List.getElem?_eq_getElem hl, Option.map_some]
    simp only [ofSlice_inkStop, Nat.zero_add, hmax]

/-- The spans of the lines cut the lines of the rows out of the text. -/
theorem lineSpans_ofPieces {pieces : List Text} {width first stop start : Nat} {ends : List Nat}
    (h : Sets (ofPieces classes metric 0 pieces) width first ends stop)
    (hstart : first < pieces.length → start = Text.byteLength (pieces.take first).flatten) :
    (lineSpans (ofPieces classes metric 0 pieces) start ends).map
        (fun (start, stop) => Text.slice pieces.flatten start stop) =
      (rowsFrom pieces first ends).map classes.lineOf := by
  induction h generalizing start with
  | done first => rfl
  | @line first last stop ends hf hl fits rest ih =>
    rw [length_ofPieces] at hl
    obtain rfl := hstart (by omega)
    obtain ⟨next, hnext, hspans⟩ := lineSpans_cons_ofPieces hf hl ends
    rw [hspans, rowsFrom, List.map_cons, List.map_cons, ih hnext]
    dsimp only
    rw [slice_lineOf classes hf hl]

/-- The span of every line is a part of the text. -/
theorem hasSlice_lineSpans {pieces : List Text} {width first stop start : Nat} {ends : List Nat}
    (h : Sets (ofPieces classes metric 0 pieces) width first ends stop)
    (hstart : first < pieces.length → start = Text.byteLength (pieces.take first).flatten) :
    ∀ span ∈ lineSpans (ofPieces classes metric 0 pieces) start ends,
      Text.hasSlice pieces.flatten span.1 span.2 = true := by
  induction h generalizing start with
  | done first =>
    intro span hspan
    cases hspan
  | @line first last stop ends hf hl fits rest ih =>
    rw [length_ofPieces] at hl
    obtain rfl := hstart (by omega)
    obtain ⟨next, hnext, hspans⟩ := lineSpans_cons_ofPieces hf hl ends
    rw [hspans]
    intro span hspan
    rcases List.mem_cons.mp hspan with rfl | hspan
    · have hlen := byteLength_flatten_take pieces hf
      have hedge (i : Nat) :
          Text.isEdge pieces.flatten (Text.byteLength (pieces.take i).flatten) = true := by
        refine Text.isEdge_iff.mpr ⟨(pieces.take i).flatten, (pieces.drop i).flatten, ?_, rfl⟩
        rw [← List.flatten_append, List.take_append_drop]
      have hink : Text.isEdge pieces.flatten (Text.byteLength (pieces.take last).flatten +
          (classes.ink pieces[last]).byteLength) = true := by
        refine Text.isEdge_iff.mpr ⟨(pieces.take last).flatten ++ classes.ink pieces[last],
          classes.blanks pieces[last] ++ (pieces.drop (last + 1)).flatten, ?_,
          Text.byteLength_append _ _⟩
        rw [List.append_assoc, ← List.append_assoc (classes.ink _), classes.ink_append_blanks,
          ← List.flatten_cons, ← List.drop_eq_getElem_cons hl, ← List.flatten_append,
          List.take_append_drop]
      unfold Text.hasSlice
      rw [hedge, hink, Bool.and_true, Bool.and_true, decide_eq_true_eq]
      omega
    · exact ih hnext span hspan

end Chunk

end LineFill
