import LineFill.Checked.Measuring
import LineFill.Proofs.Measuring

/-!
Measuring a text that is short enough raises no fault. No width is more than three times the bytes
that were read, so sums fit in words, and no part of a chunk is wider than the chunk.
-/
namespace LineFill

namespace Checked

theorem keep_eq (text : Text) (last : Nat) {dropped : Nat} {raw : List Nat}
    (h : dropped + raw.length < Word.limit) :
    keep text last dropped raw =
      .ok (Offsets.keep text last raw, dropped + Offsets.dropped text last raw) := by
  induction raw generalizing last dropped with
  | nil => rfl
  | cons offset rest ih =>
    rw [List.length_cons] at h
    rw [keep, Offsets.keep, Offsets.dropped]
    by_cases hcontinues : Offsets.continues text last offset = true
    · rw [if_pos hcontinues, if_pos hcontinues, if_pos hcontinues, ih offset (by omega)]
      rfl
    rw [if_neg hcontinues, if_neg hcontinues, if_neg hcontinues]
    by_cases hzero : offset = 0
    · rw [if_pos hzero, if_pos hzero, ih last (by omega), Nat.zero_add]
    · rw [if_neg hzero, if_neg hzero, Word.add_eq_ok (by omega), ok_bind, ih last (by omega),
        Nat.add_assoc]

theorem canonical_eq (text : Text) {raw : List Nat} (h : raw.length + 2 < Word.limit) :
    canonical text raw = .ok (Offsets.canonical text raw, Offsets.droppedCount text raw) := by
  unfold canonical Offsets.canonical Offsets.droppedCount
  by_cases hraw : raw.length < 2
  · rw [if_pos hraw, if_pos hraw, if_pos hraw]
    rfl
  · rw [if_neg hraw, if_neg hraw, if_neg hraw, Word.add_eq_ok h, ok_bind, keep_eq text 0 (by omega),
      Nat.zero_add]
    rfl

/-- The chunk up to `stop`. -/
def OpenChunk.toChunk (chunk : OpenChunk) (stop : Nat) : Chunk :=
  ⟨chunk.start, stop, chunk.inkStop, chunk.width, chunk.width - chunk.blankWidth⟩

theorem OpenChunk.close_eq {chunk : OpenChunk} (h : chunk.blankWidth ≤ chunk.width) (stop : Nat) :
    chunk.close stop = .ok (chunk.toChunk stop) := by
  unfold close
  rw [Word.sub_eq_ok h]
  rfl

variable (classes : CharClasses) (metric : Metric)

theorem OpenChunk.push_eq {chunk : OpenChunk} (hblank : chunk.blankWidth ≤ chunk.width)
    (hwidth : chunk.width + 3 < Word.limit) (offset stop : Nat) (c : Char) :
    ∃ grown, chunk.push classes metric stop c = .ok grown ∧
      grown.toChunk stop = (chunk.toChunk offset).push classes metric stop c ∧
      grown.blankWidth ≤ grown.width ∧ grown.width ≤ chunk.width + 3 := by
  have hc := metric.widthOf_le c
  unfold push
  rw [Word.add_eq_ok (by omega), ok_bind]
  by_cases hpush : classes.isBlank c = true
  · rw [if_pos hpush, Word.add_eq_ok (by omega)]
    refine ⟨_, rfl, ?_, ?_, ?_⟩
    · have hink : chunk.width + metric.widthOf c - (chunk.blankWidth + metric.widthOf c) =
          chunk.width - chunk.blankWidth := by omega
      simp only [toChunk, Chunk.push, hpush, if_true, hink]
    · dsimp only
      omega
    · dsimp only
      omega
  · rw [if_neg hpush]
    refine ⟨_, rfl, ?_, Nat.zero_le _, ?_⟩
    · simp only [toChunk, Chunk.push, hpush, Nat.sub_zero, Bool.false_eq_true, if_false]
    · dsimp only
      omega

theorem closes_eq {offsets stops : List Nat} {closed : Nat}
    (hstops : offsets.drop (closed + 1) = stops) (hlen : offsets.length ≤ Word.limit) (size next : Nat) :
    closes offsets (offsets.length - 1) size closed next =
      .ok (stops.head?.any fun stop => size ≤ next || stop ≤ next) := by
  unfold closes
  cases stops with
  | nil =>
    have hle := List.drop_eq_nil_iff.mp hstops
    rw [if_neg (by omega)]
    rfl
  | cons stop later =>
    have hget : offsets[closed + 1]? = some stop := by
      rw [← List.head?_drop, hstops, List.head?_cons]
    obtain ⟨hlt, -⟩ := List.getElem?_eq_some_iff.mp hget
    rw [if_pos (by omega), List.head?_cons, Option.any_some]
    by_cases hsize : size ≤ next
    · rw [if_pos hsize, decide_eq_true hsize, Bool.true_or]
      rfl
    · rw [if_neg hsize, decide_eq_false hsize, Bool.false_or, Word.add_eq_ok (by omega), ok_bind,
        fetch_eq_ok hget]
      rfl

/-- The scan is the plain one, where `stops` are the offsets at which no chunk was closed yet. -/
theorem scan_eq {offsets stops : List Nat} (hlen : offsets.length ≤ Word.limit) {size : Nat}
    (hlimit : 3 * size < Word.limit) {closed : List Chunk}
    (hstops : offsets.drop (closed.length + 1) = stops) {chunk : OpenChunk}
    (hblank : chunk.blankWidth ≤ chunk.width) {offset : Nat} (hwidth : chunk.width ≤ 3 * offset)
    {text : Text} (hsize : offset + text.byteLength = size) :
    scan classes metric offsets (offsets.length - 1) size closed chunk offset text =
      .ok ((Chunk.scan classes metric stops (chunk.toChunk offset) offset text).map
        (closed ++ ·)) := by
  induction text generalizing stops closed chunk offset with
  | nil =>
    rw [scan, Chunk.scan, Except.map, List.append_nil]
    rfl
  | cons c cs ih =>
    rw [scan, Chunk.scan]
    by_cases hhard : classes.isHardBreak c = true
    · rw [if_pos hhard, if_pos hhard]
      rfl
    have hc := c.utf8Size_pos
    rw [Text.byteLength_cons, ← Nat.add_assoc] at hsize
    obtain ⟨grown, hpush, hgrown, hink, hle⟩ :=
      OpenChunk.push_eq classes metric hblank (by omega) offset (offset + c.utf8Size) c
    rw [if_neg hhard, if_neg hhard, Word.add_eq_ok (by omega), ok_bind, hpush, ok_bind,
      closes_eq hstops hlen, ok_bind]
    dsimp only
    rw [← hgrown]
    cases stops with
    | nil => exact ih hstops hink (by omega) hsize
    | cons stop later =>
      have hempty : decide (size ≤ offset + c.utf8Size) = cs.isEmpty := by
        rw [Bool.eq_iff_iff, decide_eq_true_eq, List.isEmpty_iff, ← Text.byteLength_eq_zero]
        omega
      dsimp only
      rw [List.head?_cons, Option.any_some, hempty]
      split
      · have hlater : offsets.drop ((closed ++ [grown.toChunk (offset + c.utf8Size)]).length + 1) =
            later := by
          rw [List.length_append, List.length_singleton, ← List.tail_drop, hstops, List.tail_cons]
        have hblank : (OpenChunk.emptyAt (offset + c.utf8Size)).blankWidth ≤
            (OpenChunk.emptyAt (offset + c.utf8Size)).width := Nat.le_refl 0
        have hempty : (OpenChunk.emptyAt (offset + c.utf8Size)).toChunk (offset + c.utf8Size) =
            Chunk.emptyAt (offset + c.utf8Size) := rfl
        rw [OpenChunk.close_eq hink, ok_bind, ih hlater hblank (Nat.zero_le _) hsize, hempty]
        cases Chunk.scan classes metric later (Chunk.emptyAt (offset + c.utf8Size))
          (offset + c.utf8Size) cs with
        | error found => rfl
        | ok chunks => simp [Except.map]
      · exact ih hstops hink (by omega) hsize

theorem measure_eq {text : Text} {offsets : List Nat} (h : Offsets.Canonical text offsets)
    (hlimit : 3 * text.byteLength + 1 < Word.limit) :
    measure classes metric text offsets = .ok (Chunk.ofOffsets classes metric text offsets) := by
  have hlen := h.length_le
  obtain ⟨later, rfl⟩ := List.head?_eq_some_iff.mp h.first
  unfold measure
  cases later with
  | nil => rfl
  | cons stop later =>
    have hshort : ¬ (0 :: stop :: later).length < 2 := by
      rw [List.length_cons, List.length_cons]
      omega
    have hopen : (OpenChunk.emptyAt 0).blankWidth ≤ (OpenChunk.emptyAt 0).width := Nat.le_refl 0
    rw [if_neg hshort, Word.sub_eq_ok (by omega), ok_bind, fetch_eq_ok rfl, ok_bind,
      scan_eq classes metric (by omega) (by omega) rfl hopen (Nat.zero_le _) (Nat.zero_add _)]
    have hmap (plain : Except HardBreak (List Chunk)) : plain.map ([] ++ ·) = plain := by
      cases plain <;> rfl
    exact congrArg Except.ok (hmap _)

end Checked

end LineFill
