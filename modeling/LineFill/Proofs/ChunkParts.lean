import LineFill.Proofs.Measuring

/-!
Chunks and the parts of a text that they measure. At canonical offsets each chunk is that of the part
between two of them, taken by itself: the scan carries nothing from one part into the next.
-/
namespace LineFill

namespace Text

theorem pieces_eq_zipWith (text : Text) (offsets : List Nat) :
    text.pieces offsets = List.zipWith text.slice offsets offsets.tail := by
  induction offsets with
  | nil => rfl
  | cons start later ih =>
    cases later with
    | nil => rfl
    | cons stop later =>
      rw [pieces, ih]
      rfl

/-- Between two edges there are as many bytes as they are apart. -/
theorem add_byteLength_slice {text : Text} {start stop : Nat} (hstart : text.isEdge start = true)
    (hstop : text.isEdge stop = true) (hlt : start < stop) :
    start + (text.slice start stop).byteLength = stop := by
  obtain ⟨s, t, rfl, rfl⟩ := isEdge_iff.mp hstart
  obtain ⟨piece, rest, rfl, -, rfl⟩ := exists_piece hlt hstop
  rw [slice_append]

end Text

namespace CharClasses

variable (classes : CharClasses)

theorem byteLength_ink_le (text : Text) : Text.byteLength (classes.ink text) ≤ text.byteLength := by
  have h := congrArg Text.byteLength (classes.ink_append_blanks text)
  rw [Text.byteLength_append] at h
  omega

theorem ink_eq_nil_iff (text : Text) :
    classes.ink text = [] ↔ ∀ c ∈ text, classes.isBlank c = true :=
  List.rdropWhile_eq_nil_iff

end CharClasses

namespace Chunk

variable {classes : CharClasses} {metric : Metric} {text : Text} {offsets : List Nat}

/-- The chunk measures the part of the text from `start` to `stop` and its ink, which is the part
without the blanks at its end, whatever stands around it. -/
structure Measures (classes : CharClasses) (metric : Metric) (text : Text) (start stop : Nat)
    (chunk : Chunk) : Prop where
  start_eq : chunk.start = start
  stop_eq : chunk.stop = stop
  inkStop_eq : chunk.inkStop = start + (classes.ink (text.slice start stop)).byteLength
  width_eq : chunk.width = metric.width (text.slice start stop)
  inkWidth_eq : chunk.inkWidth = metric.width (classes.ink (text.slice start stop))

theorem measures_ofSlice (classes : CharClasses) (metric : Metric) {start stop : Nat}
    (hstart : text.isEdge start = true) (hstop : text.isEdge stop = true) (hlt : start < stop) :
    Measures classes metric text start stop
      (ofSlice classes metric start (text.slice start stop)) :=
  ⟨rfl, Text.add_byteLength_slice hstart hstop hlt, rfl, rfl, rfl⟩

namespace Measures

variable {start stop : Nat} {chunk : Chunk}

theorem start_le_inkStop (h : chunk.Measures classes metric text start stop) :
    chunk.start ≤ chunk.inkStop := by
  rw [h.start_eq, h.inkStop_eq]
  exact Nat.le_add_right _ _

theorem inkStop_le_stop (h : chunk.Measures classes metric text start stop)
    (hstart : text.isEdge start = true) (hstop : text.isEdge stop = true) (hlt : start < stop) :
    chunk.inkStop ≤ chunk.stop := by
  have hink := classes.byteLength_ink_le (text.slice start stop)
  have hslice := Text.add_byteLength_slice hstart hstop hlt
  rw [h.inkStop_eq, h.stop_eq]
  omega

theorem inkWidth_le_width (h : chunk.Measures classes metric text start stop) :
    chunk.inkWidth ≤ chunk.width := by
  rw [h.inkWidth_eq, h.width_eq]
  exact metric.width_ink_le classes _

theorem of_blank (h : chunk.Measures classes metric text start stop)
    (blank : ∀ c ∈ text.slice start stop, classes.isBlank c = true) :
    chunk.inkStop = chunk.start ∧ chunk.inkWidth = 0 := by
  have hink := (classes.ink_eq_nil_iff _).mpr blank
  rw [h.inkStop_eq, h.start_eq, h.inkWidth_eq, hink]
  exact ⟨rfl, rfl⟩

end Measures

theorem ofPieces_eq_zipWith (classes : CharClasses) (metric : Metric) (start : Nat)
    (parts : List Text) : ofPieces classes metric start parts =
      List.zipWith (ofSlice classes metric) (start :: Text.stops start parts) parts := by
  induction parts generalizing start with
  | nil => rfl
  | cons part parts ih => rw [ofPieces, Text.stops, List.zipWith_cons_cons, ih]

/-- A chunk is that of the part between its offset and the next one. -/
theorem getElem?_ofPieces_pieces (classes : CharClasses) (metric : Metric)
    (h : Offsets.Canonical text offsets) {i : Nat} (hi : i + 1 < offsets.length) :
    (ofPieces classes metric 0 (text.pieces offsets))[i]? =
      some (ofSlice classes metric offsets[i] (text.slice offsets[i] offsets[i + 1])) := by
  have hstart : offsets[i]? = some offsets[i] := List.getElem?_eq_getElem _
  have hpart : (text.pieces offsets)[i]? = some (text.slice offsets[i] offsets[i + 1]) := by
    rw [Text.pieces_eq_zipWith, List.getElem?_zipWith, List.getElem?_tail, hstart,
      List.getElem?_eq_getElem hi]
  rw [ofPieces_eq_zipWith, ← h.pieces.2.2, List.getElem?_zipWith, hstart, hpart]

theorem length_ofPieces_pieces (classes : CharClasses) (metric : Metric)
    (h : Offsets.Canonical text offsets) :
    (ofPieces classes metric 0 (text.pieces offsets)).length = offsets.length - 1 := by
  rw [ofPieces_eq_zipWith, ← h.pieces.2.2, Text.pieces_eq_zipWith]
  simp

theorem map_start_stop_ofPieces (classes : CharClasses) (metric : Metric) (start : Nat)
    (parts : List Text) :
    (ofPieces classes metric start parts).map (fun chunk => (chunk.start, chunk.stop)) =
      (start :: Text.stops start parts).zip (Text.stops start parts) := by
  induction parts generalizing start with
  | nil => rfl
  | cons part parts ih =>
    rw [ofPieces, List.map_cons, ih, Text.stops, List.zip_cons_cons]
    rfl

/-- The chunks lie between consecutive offsets. -/
theorem map_start_stop_ofPieces_pieces (classes : CharClasses) (metric : Metric)
    (h : Offsets.Canonical text offsets) :
    (ofPieces classes metric 0 (text.pieces offsets)).map (fun chunk => (chunk.start, chunk.stop)) =
      offsets.zip offsets.tail := by
  have htail := congrArg List.tail h.pieces.2.2
  rw [List.tail_cons] at htail
  rw [map_start_stop_ofPieces, ← h.pieces.2.2, ← htail]

/-- Measuring at canonical offsets gives a chunk for every two that follow one another, which depends
on the part between them only; a hard break anywhere is reported instead. -/
theorem ofOffsets_measures (classes : CharClasses) (metric : Metric)
    (h : Offsets.Canonical text offsets) :
    ((∀ c ∈ text, classes.isHardBreak c = false) →
      ∃ chunks, ofOffsets classes metric text offsets = .ok chunks ∧
        chunks.length = offsets.length - 1 ∧
        ∀ (i : Nat) (hi : i + 1 < offsets.length), ∃ chunk, chunks[i]? = some chunk ∧
          chunk.Measures classes metric text offsets[i] offsets[i + 1] ∧
          chunk.start ≤ chunk.inkStop ∧ chunk.inkStop ≤ chunk.stop ∧
          chunk.inkWidth ≤ chunk.width ∧
          ((∀ c ∈ text.slice offsets[i] offsets[i + 1], classes.isBlank c = true) →
            chunk.inkStop = chunk.start ∧ chunk.inkWidth = 0)) ∧
      ((∃ c ∈ text, classes.isHardBreak c = true) →
        ∃ found, ofOffsets classes metric text offsets = .error found ∧
          classes.IsFirstBreak text found) := by
  constructor
  · intro soft
    refine ⟨_, ofOffsets_eq_ofPieces h soft, length_ofPieces_pieces classes metric h, ?_⟩
    intro i hi
    have hstart := h.edges offsets[i] (List.getElem_mem _)
    have hstop := h.edges offsets[i + 1] (List.getElem_mem _)
    have hlt : offsets[i] < offsets[i + 1] :=
      List.pairwise_iff_getElem.mp h.increasing i (i + 1) _ _ (Nat.lt_succ_self i)
    have measures := measures_ofSlice classes metric hstart hstop hlt
    exact ⟨_, getElem?_ofPieces_pieces classes metric h hi, measures, measures.start_le_inkStop,
      measures.inkStop_le_stop hstart hstop hlt, measures.inkWidth_le_width, measures.of_blank⟩
  · intro hard
    obtain ⟨found, first⟩ := classes.exists_isFirstBreak hard
    exact ⟨found, ofOffsets_eq_error metric h first, first⟩

/-- A run of blanks goes on over an offset, and the part behind it consists of blanks. -/
theorem ofOffsets_measures_blanks :
    Offsets.Canonical "日  \u3000é\u0301 ".toList [0, 4, 8, 13] ∧
      (∀ c ∈ "日  \u3000é\u0301 ".toList, CharClasses.unicode.isHardBreak c = false) ∧
      (∃ chunks, ofOffsets .unicode .cells "日  \u3000é\u0301 ".toList [0, 4, 8, 13] = .ok chunks ∧
        chunks = [⟨0, 4, 3, 3, 2⟩, ⟨4, 8, 4, 3, 0⟩, ⟨8, 13, 12, 2, 1⟩] ∧
        ∃ chunk, chunks[1]? = some chunk ∧ chunk.inkStop = chunk.start ∧ chunk.inkWidth = 0) ∧
      Offsets.Canonical "日 \u2028a\n".toList [0, 4, 9] ∧
      ∃ found, ofOffsets .unicode .codepoints "日 \u2028a\n".toList [0, 4, 9] = .error found ∧
        found = ⟨4, '\u2028'⟩ := by
  have hcanonical : Offsets.Canonical "日  \u3000é\u0301 ".toList [0, 4, 8, 13] :=
    ⟨rfl, by decide +kernel, by decide, by decide +kernel⟩
  have hhard : Offsets.Canonical "日 \u2028a\n".toList [0, 4, 9] :=
    ⟨rfl, by decide +kernel, by decide, by decide +kernel⟩
  have soft : ∀ c ∈ "日  \u3000é\u0301 ".toList, CharClasses.unicode.isHardBreak c = false := by
    simp [CharClasses.unicode, isHardBreak]
  have blank : ∀ c ∈ Text.slice "日  \u3000é\u0301 ".toList 4 8,
      CharClasses.unicode.isBlank c = true := by
    have hslice : Text.slice "日  \u3000é\u0301 ".toList 4 8 = " \u3000".toList := by
      decide +kernel
    rw [hslice]
    simp [CharClasses.unicode, isBlank]
  obtain ⟨chunks, hchunks, -, hmeasures⟩ := (ofOffsets_measures .unicode .cells hcanonical).1 soft
  obtain ⟨chunk, hget, -, -, -, -, hblank⟩ := hmeasures 1 (by decide)
  obtain ⟨found, hfound, -⟩ := (ofOffsets_measures .unicode .codepoints hhard).2
    ⟨'\u2028', by decide, by decide⟩
  refine ⟨hcanonical, soft, ⟨chunks, hchunks, ?_, chunk, hget, hblank blank⟩, hhard, found,
    hfound, ?_⟩
  · have hvalue : ofOffsets .unicode .cells "日  \u3000é\u0301 ".toList [0, 4, 8, 13] =
        .ok [⟨0, 4, 3, 3, 2⟩, ⟨4, 8, 4, 3, 0⟩, ⟨8, 13, 12, 2, 1⟩] := by decide +kernel
    rw [hvalue] at hchunks
    exact (Except.ok.inj hchunks).symm
  · have hvalue : ofOffsets .unicode .codepoints "日 \u2028a\n".toList [0, 4, 9] =
        .error ⟨4, '\u2028'⟩ := by decide +kernel
    rw [hvalue] at hfound
    exact (Except.error.inj hfound).symm

end Chunk

end LineFill
