import LineFill.Checked.Filler
import LineFill.Proofs.CheckedMeasuring
import LineFill.Proofs.CheckedMethod
import LineFill.Proofs.HardBreaks

/-!
No text of less than 2 ^ 61 bytes raises a fault, whatever the segmenter, the character classes and
the method: a run on words returns what the plain functions return.
-/
namespace LineFill

namespace Checked

variable {K : Type}

/-- The offsets and the widths of a text can be counted in words. -/
structure Countable (filler : Filler K) (text : Text) : Prop where
  offsets : (filler.segmenter text).length + 2 < Word.limit
  widths : 3 * text.byteLength + 1 < Word.limit

namespace Countable

variable {filler : Filler K} {text : Text}

/-- A text of less than 2 ^ 61 bytes can be counted if its offsets can be kept in memory. -/
theorem of_lt (hsegmenter : ∀ text : Text, text.byteLength < 2 ^ 61 →
      (filler.segmenter text).length < 2 ^ 63) (h : text.byteLength < 2 ^ 61) :
    Countable filler text := by
  have hraw := hsegmenter text h
  have hlimit : Word.limit = 2 ^ 64 := rfl
  constructor
  · omega
  · omega

theorem totalWidth_chunks_lt (h : Countable filler text) (laid : filler.LaysOut text) :
    Chunk.totalWidth (filler.chunks text) < Word.limit := by
  have hwidth := filler.metric.width_le text
  have hlimit := h.widths
  unfold Filler.chunks
  rw [Chunk.totalWidth_ofPieces, Filler.flatten_pieces laid.offered]
  omega

theorem length_pieces_lt (h : Countable filler text) (laid : filler.LaysOut text) :
    (filler.pieces text).length < Word.limit := by
  have hlen := Text.length_le_byteLength (Filler.nil_not_mem_pieces laid.offered)
  rw [Filler.flatten_pieces laid.offered] at hlen
  have hlimit := h.widths
  omega

end Countable

variable [Score K]

theorem linesFrom_eq {text : Text} {chunks : List Chunk} (hlen : chunks.length < Word.limit)
    {start : Nat} {ends : List Nat} (hends : ∀ last ∈ ends, last < chunks.length)
    (hparts : ∀ span ∈ lineSpans chunks start ends, text.hasSlice span.1 span.2 = true) :
    linesFrom text chunks start ends =
      .ok ((lineSpans chunks start ends).map fun (start, stop) => text.slice start stop) := by
  induction ends generalizing start with
  | nil => rfl
  | cons last ends ih =>
    have hl := hends last List.mem_cons_self
    have hget : chunks[last]? = some chunks[last] := List.getElem?_eq_getElem hl
    have hlater : ∀ later ∈ ends, later < chunks.length := by
      intro later hlater
      exact hends later (List.mem_cons_of_mem last hlater)
    rw [lineSpans, hget] at hparts ⊢
    dsimp only at hparts ⊢
    have hpart := hparts _ List.mem_cons_self
    have hrest := ih hlater fun span hspan => hparts span (List.mem_cons_of_mem _ hspan)
    rw [linesFrom, fetch_eq_ok hget, ok_bind, if_pos hpart, Word.add_eq_ok (by omega), ok_bind]
    dsimp only
    rw [hrest]
    rfl

/-- Points that set the pieces of a text cut lines out of it. -/
theorem cutLines_eq {classes : CharClasses} {metric : Metric} {pieces : List Text}
    (hlen : pieces.length < Word.limit) {width : Nat} {points : List Nat}
    (h : pieces ≠ [] → Sets (Chunk.ofPieces classes metric 0 pieces) width 0
      (points ++ [pieces.length - 1]) (Chunk.ofPieces classes metric 0 pieces).length) :
    cutLines pieces.flatten (Chunk.ofPieces classes metric 0 pieces) points =
      .ok (LineFill.cutLines pieces.flatten (Chunk.ofPieces classes metric 0 pieces) points) := by
  by_cases hne : pieces = []
  · rw [hne]
    rfl
  have hsets := h hne
  have hpos := List.length_pos_iff.mpr hne
  have hempty : (Chunk.ofPieces classes metric 0 pieces).isEmpty = false := by
    rw [List.isEmpty_eq_false_iff, ← List.length_pos_iff, Chunk.length_ofPieces]
    exact hpos
  have hfirst : (Chunk.ofPieces classes metric 0 pieces)[0]? =
      some (Chunk.ofSlice classes metric 0 pieces[0]) := by
    rw [Chunk.getElem?_ofPieces, List.getElem?_eq_getElem hpos]
    rfl
  have hpoints : points.all (· < pieces.length - 1) = true := by
    rw [List.all_eq_true]
    intro point hpoint
    exact decide_eq_true (hsets.lt_of_mem_append hpoint)
  have hcount := hsets.length_le
  rw [List.length_append, List.length_singleton, Chunk.length_ofPieces] at hcount
  have hchunks : (Chunk.ofPieces classes metric 0 pieces).length < Word.limit := by
    rwa [Chunk.length_ofPieces]
  have hlines := linesFrom_eq hchunks (fun last hlast => hsets.lt_length_of_mem hlast)
    (Chunk.hasSlice_lineSpans hsets fun _ => rfl)
  unfold cutLines LineFill.cutLines
  rw [hempty, if_neg Bool.false_ne_true, if_neg Bool.false_ne_true, Chunk.length_ofPieces,
    Word.sub_eq_ok (by omega), ok_bind, if_pos hpoints, Word.add_eq_ok (by omega), ok_bind,
    fetch_eq_ok hfirst, ok_bind, Chunk.spans_ofPieces classes metric hne]
  exact hlines

-- a line must end before the last chunk, or two lines would end there
example : cutLines "ab".toList [⟨0, 1, 1, 1, 1⟩, ⟨1, 2, 2, 1, 1⟩] [1] = .error .latePoint := rfl

theorem totalWidth_eq {used : Nat} {chunks : List Chunk}
    (h : used + Chunk.totalWidth chunks < Word.limit) :
    totalWidth used chunks = .ok (used + Chunk.totalWidth chunks) := by
  induction chunks generalizing used with
  | nil => rfl
  | cons chunk chunks ih =>
    rw [Chunk.totalWidth_cons, ← Nat.add_assoc] at h
    rw [totalWidth, Word.add_eq_ok (by omega), ok_bind, ih h, Chunk.totalWidth_cons, Nat.add_assoc]

/-- Any points are judged without a fault if the width of every line is a word. -/
theorem penaltiesFrom_eq {chunks : List Chunk}
    (hwidths : ∀ first last, first ≤ last → last < chunks.length →
      Chunk.lineWidth chunks first last < Word.limit)
    (hlen : chunks.length < Word.limit) (width : Nat) (exponent : K) (first : Nat)
    (points : List Nat) :
    penaltiesFrom chunks width exponent first points =
      .ok (LineFill.penaltiesFrom chunks width exponent first points) := by
  induction points generalizing first with
  | nil => rfl
  | cons last points ih =>
    rw [penaltiesFrom, LineFill.penaltiesFrom]
    by_cases hline : first ≤ last ∧ last < chunks.length
    · obtain ⟨hf, hl⟩ := hline
      have hlt := hwidths first last hf hl
      have hget : chunks[last]? = some chunks[last] := List.getElem?_eq_getElem hl
      rw [Chunk.lineWidth_eq_add hl] at hlt
      unfold Chunk.fullWidth at hlt
      rw [if_pos ⟨hf, hl⟩, if_pos ⟨hf, hl⟩, totalWidth_eq (by omega), ok_bind, fetch_eq_ok hget,
        ok_bind, Nat.zero_add, Word.add_eq_ok (by omega), ok_bind, penalty_eq, ok_bind,
        Word.add_eq_ok (by omega), ok_bind, ih]
      unfold linePenalty
      rw [Chunk.lineWidth_eq_add hl]
      rfl
    · rw [if_neg hline, if_neg hline]
      rfl

theorem penalties_eq {chunks : List Chunk}
    (hwidths : ∀ first last, first ≤ last → last < chunks.length →
      Chunk.lineWidth chunks first last < Word.limit)
    (hlen : chunks.length < Word.limit) {points : List Nat}
    (hpoints : points.length + 1 < Word.limit) (width : Nat) (exponent : K) :
    penalties chunks points width exponent =
      .ok (LineFill.penalties chunks points width exponent) := by
  unfold penalties LineFill.penalties
  by_cases hempty : chunks.isEmpty = true
  · rw [if_pos hempty, if_pos hempty]
    rfl
  · have hpos : 0 < chunks.length := by
      rw [List.length_pos_iff]
      rintro rfl
      exact hempty rfl
    rw [if_neg hempty, if_neg hempty, Word.sub_eq_ok hpos, ok_bind, Word.add_eq_ok hpoints, ok_bind,
      penaltiesFrom_eq hwidths hlen]

variable {filler : Filler K} {text : Text}

theorem layout_eq (h : Countable filler text) : layout filler text = .ok (filler.layout text) := by
  unfold layout
  by_cases hraw : (filler.segmenter text).length < 2
  · rw [if_pos hraw, Filler.layout_eq_unbreakable hraw]
    rfl
  have hoffered := Nat.not_lt.mp hraw
  have hcanonical : Offsets.Canonical text (Offsets.canonical text (filler.segmenter text)) :=
    Offsets.canonical_of_two_le hoffered
  rw [if_neg hraw, canonical_eq text h.offsets, ok_bind]
  dsimp only
  rw [measure_eq filler.classes filler.metric hcanonical h.widths, ok_bind]
  by_cases soft : ∀ c ∈ text, filler.classes.isHardBreak c = false
  · have laid : filler.LaysOut text := ⟨hoffered, soft⟩
    have hchunks : Chunk.ofOffsets filler.classes filler.metric text
        (Offsets.canonical text (filler.segmenter text)) = .ok (filler.chunks text) :=
      Chunk.ofOffsets_eq_ofPieces hcanonical soft
    have hlen := h.length_pieces_lt laid
    rw [← Filler.length_chunks] at hlen
    rw [hchunks, Filler.layout_eq_chunked laid]
    dsimp only
    rw [solve_eq Filler.measured_chunks (h.totalWidth_chunks_lt laid) hlen]
    rfl
  · have hard : ∃ c ∈ text, filler.classes.isHardBreak c = true := by simpa using soft
    obtain ⟨found, first⟩ := filler.classes.exists_isFirstBreak hard
    rw [Chunk.ofOffsets_eq_error filler.metric hcanonical first,
      Filler.layout_eq_broken hoffered first]
    rfl

theorem linesOf_eq (h : Countable filler text) :
    linesOf text (filler.layout text) = .ok (Filler.linesOf text (filler.layout text)) := by
  by_cases laid : filler.LaysOut text
  · have hsets (hne : filler.pieces text ≠ []) := Filler.sets_rows hne
    have hlines := cutLines_eq (h.length_pieces_lt laid) hsets
    rw [Filler.flatten_pieces laid.offered] at hlines
    rw [Filler.layout_eq_chunked laid]
    exact hlines
  · rcases Filler.not_laysOut_iff.mp laid with hraw | ⟨found, hlayout⟩
    · rw [Filler.layout_eq_unbreakable hraw]
      rfl
    · rw [hlayout]
      rfl

theorem breaksOf_eq (h : Countable filler text) :
    breaksOf filler (filler.layout text) = .ok (filler.breaksOf (filler.layout text)) := by
  by_cases laid : filler.LaysOut text
  · have hlen := h.length_pieces_lt laid
    have hchunks := hlen
    rw [← Filler.length_chunks] at hchunks
    have hpoints :
        (filler.method.points (filler.chunks text) filler.width).length + 1 < Word.limit := by
      by_cases hne : filler.pieces text = []
      · rw [Filler.chunks_eq_nil_iff.mpr hne, Method.points_nil]
        decide
      · have hcount := (Filler.sets_rows hne).length_le
        rw [List.length_append, List.length_singleton] at hcount
        omega
    have hwidths (first last : Nat) (hf : first ≤ last) (hl : last < (filler.chunks text).length) :
        Chunk.lineWidth (filler.chunks text) first last < Word.limit :=
      Nat.lt_of_le_of_lt (Chunk.lineWidth_le_totalWidth Filler.measured_chunks hf hl)
        (h.totalWidth_chunks_lt laid)
    have hpenalties := penalties_eq hwidths hchunks hpoints filler.width filler.method.penaltyExponent
    rw [Filler.layout_eq_chunked laid, breaksOf]
    unfold Method.points at hpenalties
    rw [hpenalties]
    rfl
  · rcases Filler.not_laysOut_iff.mp laid with hraw | ⟨found, hlayout⟩
    · rw [Filler.layout_eq_unbreakable hraw]
      rfl
    · rw [hlayout]
      rfl

theorem fill_eq (h : Countable filler text) : fill filler text = .ok (filler.fill text) := by
  unfold fill Filler.fill
  rw [layout_eq h, ok_bind]
  cases haccept : filler.accept 0 (filler.layout text) with
  | error failure => rfl
  | ok layout =>
    obtain rfl := Filler.eq_of_accept haccept
    dsimp only
    rw [linesOf_eq h]
    rfl

theorem breaks_eq (h : Countable filler text) : breaks filler text = .ok (filler.breaks text) := by
  unfold breaks Filler.breaks
  rw [layout_eq h, ok_bind]
  cases haccept : filler.accept 0 (filler.layout text) with
  | error failure => rfl
  | ok layout =>
    obtain rfl := Filler.eq_of_accept haccept
    dsimp only
    rw [breaksOf_eq h]
    rfl

/-- Every item that is a text can be counted. -/
theorem fillItem_eq (number : Nat) (item : Option (List UInt8))
    (h : ∀ bytes text, item = some bytes → Text.decode bytes = (text, []) → Countable filler text) :
    fillItem filler number item = .ok (filler.fillItem number item) := by
  cases item with
  | none => rfl
  | some bytes =>
    unfold fillItem Filler.fillItem Filler.read
    dsimp only
    rcases hdecode : Text.decode bytes with ⟨text, rest⟩
    cases rest with
    | cons byte rest => rfl
    | nil =>
      have hcount := h bytes text rfl hdecode
      dsimp only
      rw [layout_eq hcount, ok_bind]
      unfold Filler.fillElement
      dsimp only
      cases haccept : filler.accept number (filler.layout text) with
      | error failure => rfl
      | ok layout =>
        obtain rfl := Filler.eq_of_accept haccept
        have hlines := linesOf_eq hcount
        cases hlayout : filler.layout text with
        | broken found => rfl
        | unbreakable => rfl
        | chunked chunks solution =>
          rw [hlayout] at hlines
          dsimp only
          rw [hlines]
          rfl

theorem fillItems_eq {number : Nat} {items : List (Option (List UInt8))}
    (hnumber : number + items.length < Word.limit)
    (h : ∀ bytes text, some bytes ∈ items → Text.decode bytes = (text, []) → Countable filler text) :
    fillItems filler number items = .ok (filler.fillElements number (items.map filler.read)) := by
  induction items generalizing number with
  | nil => rfl
  | cons item items ih =>
    rw [List.length_cons] at hnumber
    have hitem : fillItem filler number item = .ok (filler.fillItem number item) := by
      apply fillItem_eq
      rintro bytes text rfl
      exact h bytes text List.mem_cons_self
    have hrest := @ih (number + 1) (by omega) fun bytes text hbytes =>
      h bytes text (List.mem_cons_of_mem item hbytes)
    rw [fillItems, Word.add_eq_ok (by omega), ok_bind, hitem, ok_bind, List.map_cons,
      Filler.fillElements]
    unfold Filler.fillItem
    cases filler.fillElement number (filler.read item) with
    | error failure => rfl
    | ok filled =>
      dsimp only
      rw [hrest]
      rfl

end Checked

namespace Filler

variable {K : Type} [Score K]

/-- Runs on words end without a fault, with the results of the plain functions, for every filler
whose segmenter reports no more offsets than memory holds, every text of less than 2 ^ 61 bytes and
every batch of such texts. -/
theorem runs_without_fault (filler : Filler K)
    (hsegmenter : ∀ text : Text, text.byteLength < 2 ^ 61 →
      (filler.segmenter text).length < 2 ^ 63) :
    (∀ text : Text, text.byteLength < 2 ^ 61 →
      Checked.fill filler text = .ok (filler.fill text) ∧
        Checked.breaks filler text = .ok (filler.breaks text)) ∧
      (∀ bytes : List UInt8, bytes.length < 2 ^ 61 →
        Checked.fillBytes filler bytes = .ok (filler.fillBytes bytes)) ∧
      ∀ items : List (Option (List UInt8)), items.length < 2 ^ 64 →
        (∀ bytes, some bytes ∈ items → bytes.length < 2 ^ 61) →
          Checked.fillBatch filler items = .ok (filler.fillBatch items) := by
  have hdecoded : ∀ bytes text, bytes.length < 2 ^ 61 → Text.decode bytes = (text, []) →
      Checked.Countable filler text := by
    intro bytes text hbytes hdecode
    have hlen : text.byteLength = bytes.length := by
      simpa [hdecode] using Text.byteLength_decode bytes
    apply Checked.Countable.of_lt hsegmenter
    rwa [hlen]
  refine ⟨?_, ?_, ?_⟩
  · intro text htext
    have hcount := Checked.Countable.of_lt hsegmenter htext
    exact ⟨Checked.fill_eq hcount, Checked.breaks_eq hcount⟩
  · intro bytes hbytes
    apply Checked.fillItem_eq
    rintro bytes' text ⟨⟩ hdecode
    exact hdecoded bytes text hbytes hdecode
  · intro items hitems hbytes
    apply Checked.fillItems_eq
    · rwa [Nat.zero_add]
    · intro bytes text hmem hdecode
      exact hdecoded bytes text (hbytes bytes hmem) hdecode

/-- The offsets of one segmenter are out of order and past the end; the other is that of Unicode. -/
theorem runs_without_fault_scrambled :
    (∀ text : Text, text.byteLength < 2 ^ 61 →
      ((tildes .fail).segmenter text).length < 2 ^ 63) ∧
      Text.byteLength "日 ab".toList < 2 ^ 61 ∧
      Checked.fill (tildes .fail) "日 ab".toList = .ok (.ok ["日".toList, "ab".toList]) ∧
      Checked.fillBatch (tildes .fail) [none, some [0xFF], some (Text.encode "日 ab".toList)] =
        .ok (.ok [.absent, .verbatim [0xFF], .lines ["日".toList, "ab".toList]]) ∧
      ∃ stock, Filler.unicode ⟨3, 0, none, .fail, .codepoints⟩ = .ok stock ∧
        Checked.fill stock "aé b".toList = .ok (.ok ["aé".toList, "b".toList]) := by
  have hsegmenter : ∀ text : Text, text.byteLength < 2 ^ 61 →
      ((tildes .fail).segmenter text).length < 2 ^ 63 := by
    intro text _
    simp [tildes]
  have hlen : Text.byteLength "日 ab".toList < 2 ^ 61 := by decide
  have hfill : (tildes .fail).fill "日 ab".toList = .ok ["日".toList, "ab".toList] := by
    decide +kernel
  have hbatch : (tildes .fail).fillBatch [none, some [0xFF], some (Text.encode "日 ab".toList)] =
      .ok [.absent, .verbatim [0xFF], .lines ["日".toList, "ab".toList]] := by decide +kernel
  have hitems : ∀ bytes, some bytes ∈ [none, some [0xFF], some (Text.encode "日 ab".toList)] →
      bytes.length < 2 ^ 61 := by
    intro bytes hmem
    simp only [List.mem_cons, reduceCtorEq, Option.some.injEq, List.not_mem_nil, or_false,
      false_or] at hmem
    rcases hmem with rfl | rfl <;> decide +kernel
  obtain ⟨htexts, -, hbatches⟩ := runs_without_fault (tildes .fail) hsegmenter
  refine ⟨hsegmenter, hlen, ?_, ?_, ?_⟩
  · rw [(htexts _ hlen).1, hfill]
  · rw [hbatches _ (by decide) hitems, hbatch]
  · let stock : Filler Float := ⟨3, .firstFit, .codepoints, .fail, Break.offsets, .unicode⟩
    have hstock : stock.fill "aé b".toList = .ok ["aé".toList, "b".toList] := by decide +kernel
    have hoffsets : ∀ text : Text, text.byteLength < 2 ^ 61 →
        (stock.segmenter text).length < 2 ^ 63 := by
      intro text htext
      have hle := Break.length_offsets_le text
      have hsame : stock.segmenter text = Break.offsets text := rfl
      rw [hsame]
      omega
    refine ⟨stock, unicode_exponent_zero (show 0 < 3 by decide), ?_⟩
    rw [((runs_without_fault stock hoffsets).1 _ (by decide)).1, hstock]

end Filler

end LineFill
