import LineFill.Proofs.Encoding
import LineFill.Stream

/-!
Lines in a stream. The lines of filled items are read back as they were written, exactly if none of them
has a line feed or ends with a carriage return. A stream that is read and written again loses the
carriage return at the end of each line, and its last line ends with a line feed.
-/
namespace LineFill

namespace Filled

/-- No line of the item has a line feed or ends with a carriage return. -/
def Plain : Filled → Prop
  | .lines texts => ∀ text ∈ texts, '\n' ∉ text ∧ text.getLast? ≠ some '\r'
  | .verbatim bytes => Stream.lineFeed ∉ bytes ∧ bytes.getLast? ≠ some Stream.carriageReturn
  | .absent => True

instance : DecidablePred Plain
  | .lines texts => inferInstanceAs (Decidable (∀ text ∈ texts, _ ∧ _))
  | .verbatim _ => inferInstanceAs (Decidable (_ ∧ _))
  | .absent => inferInstanceAs (Decidable True)

end Filled

namespace Stream

section Reading

variable {line bytes : List UInt8}

theorem dropReturn_eq_self_iff : dropReturn line = line ↔ line.getLast? ≠ some carriageReturn := by
  unfold dropReturn
  split
  · next hlast =>
    obtain ⟨before, rfl⟩ := List.getLast?_eq_some_iff.mp hlast
    refine iff_of_false ?_ (not_not_intro hlast)
    simp
  · next hlast => exact iff_of_true rfl hlast

theorem dropReturn_cons_cons (b c : UInt8) (line : List UInt8) :
    dropReturn (b :: c :: line) = b :: dropReturn (c :: line) := by
  unfold dropReturn
  rw [List.getLast?_cons_cons, List.dropLast_cons_cons]
  split <;> rfl

theorem linesFrom_append (h : lineFeed ∉ line) (begun bytes : List UInt8) :
    linesFrom begun (line ++ bytes) = linesFrom (line.reverse ++ begun) bytes := by
  induction line generalizing begun with
  | nil => rfl
  | cons b line ih =>
    obtain ⟨hb, hline⟩ := not_or.mp (mt List.mem_cons.mpr h)
    rw [List.cons_append, linesFrom, if_neg (Ne.symm hb), ih hline]
    simp

/-- A line feed ends the first line. -/
theorem elements_append (h : lineFeed ∉ line) (bytes : List UInt8) :
    elements (line ++ lineFeed :: bytes) = dropReturn line :: elements bytes := by
  rw [elements, linesFrom_append h, linesFrom, if_pos rfl]
  simp [elements]

/-- What follows the last line feed is a line unless it is empty. -/
theorem elements_of_not_mem (h : lineFeed ∉ line) :
    elements line = if line = [] then [] else [dropReturn line] := by
  have hlines := linesFrom_append h [] []
  rw [List.append_nil, List.append_nil, linesFrom, List.isEmpty_reverse, List.reverse_reverse] at hlines
  rw [elements, hlines]
  by_cases hempty : line = []
  · simp [hempty]
  · simp [hempty]

/-- A stream is a last line, or a line that a line feed ends and another stream. -/
@[elab_as_elim]
theorem line_induction {motive : List UInt8 → Prop} (bytes : List UInt8)
    (last : ∀ line, lineFeed ∉ line → motive line)
    (append : ∀ line bytes, lineFeed ∉ line → motive bytes → motive (line ++ lineFeed :: bytes)) :
    motive bytes := by
  by_cases h : lineFeed ∈ bytes
  · obtain ⟨line, rest, hsplit, hline⟩ := List.eq_append_cons_of_mem h
    rw [hsplit]
    exact append line rest hline (line_induction rest last append)
  · exact last bytes h
termination_by bytes.length
decreasing_by
  rw [hsplit, List.length_append, List.length_cons]
  omega

theorem lineFeed_not_mem_dropReturn (h : lineFeed ∉ line) : lineFeed ∉ dropReturn line := by
  unfold dropReturn
  split
  · exact mt (List.dropLast_subset line ·) h
  · exact h

theorem lineFeed_not_mem_of_mem_elements (h : line ∈ elements bytes) : lineFeed ∉ line := by
  induction bytes using line_induction with
  | last last hlast =>
    rw [elements_of_not_mem hlast] at h
    split at h
    · cases h
    · obtain rfl := List.mem_singleton.mp h
      exact lineFeed_not_mem_dropReturn hlast
  | append first bytes hfirst ih =>
    rw [elements_append hfirst] at h
    rcases List.mem_cons.mp h with rfl | hrest
    · exact lineFeed_not_mem_dropReturn hfirst
    · exact ih hrest

end Reading

section Writing

variable {lines : List (List UInt8)}

theorem elements_flatMap_terminated (h : ∀ line ∈ lines, lineFeed ∉ line) :
    elements (lines.flatMap terminated) = lines.map dropReturn := by
  induction lines with
  | nil => rfl
  | cons line lines ih =>
    obtain ⟨hline, hlines⟩ := List.forall_mem_cons.mp h
    rw [List.flatMap_cons, terminated, List.append_assoc, List.singleton_append,
      elements_append hline, ih hlines, List.map_cons]

/-- Written lines are read back exactly if a stream can tell where they end. -/
theorem elements_flatMap_terminated_eq_iff : elements (lines.flatMap terminated) = lines ↔
    ∀ line ∈ lines, lineFeed ∉ line ∧ line.getLast? ≠ some carriageReturn := by
  constructor
  · intro h line hline
    have hfeed : ∀ line ∈ lines, lineFeed ∉ line := by
      intro line hline
      rw [← h] at hline
      exact lineFeed_not_mem_of_mem_elements hline
    rw [elements_flatMap_terminated hfeed] at h
    have hsame : ∀ line ∈ lines, dropReturn line = line :=
      List.map_inj_left.mp (h.trans (List.map_id lines).symm)
    exact ⟨hfeed line hline, dropReturn_eq_self_iff.mp (hsame line hline)⟩
  · intro h
    have hsame : ∀ line ∈ lines, dropReturn line = line := fun line hline =>
      dropReturn_eq_self_iff.mpr (h line hline).2
    rw [elements_flatMap_terminated fun line hline => (h line hline).1, List.map_congr_left hsame,
      List.map_id']

theorem plain_iff (item : Filled) : item.Plain ↔
    ∀ line ∈ outputLines item, lineFeed ∉ line ∧ line.getLast? ≠ some carriageReturn := by
  have hfeed (line : Text) : lineFeed ∈ line.encode ↔ '\n' ∈ line :=
    Text.mem_encode_iff (c := '\n') (by decide)
  have hreturn (line : Text) : line.encode.getLast? = some carriageReturn ↔ line.getLast? = some '\r' :=
    Text.getLast?_encode_iff (c := '\r') (by decide)
  cases item with
  | lines texts => simp [Filled.Plain, outputLines, hfeed, hreturn]
  | verbatim bytes => simp [Filled.Plain, outputLines]
  | absent => simp [Filled.Plain, outputLines]

end Writing

/-- The bytes without the carriage returns that end a line: those right before a line feed, and one at the
end of the bytes. -/
def withoutReturns : List UInt8 → List UInt8
  | [] => []
  | b :: bytes =>
    if b = carriageReturn ∧ bytes.head?.all (· = lineFeed) then withoutReturns bytes
    else b :: withoutReturns bytes

section Rewriting

variable {line bytes : List UInt8}

/-- Where a line ends, at most one return is left out. -/
theorem withoutReturns_append (h : lineFeed ∉ line) (hend : bytes.head?.all (· = lineFeed)) :
    withoutReturns (line ++ bytes) = dropReturn line ++ withoutReturns bytes := by
  induction line with
  | nil => rfl
  | cons b line ih =>
    obtain ⟨-, hline⟩ := not_or.mp (mt List.mem_cons.mpr h)
    -- Only the last byte of the line can stand right before its end.
    cases line with
    | nil =>
      by_cases hb : b = carriageReturn
      · simp [withoutReturns, dropReturn, hb, hend]
      · simp [withoutReturns, dropReturn, hb]
    | cons c line =>
      have hc : c ≠ lineFeed := by
        rintro rfl
        simp at hline
      have hkept : withoutReturns (b :: (c :: line ++ bytes)) =
          b :: withoutReturns (c :: line ++ bytes) := by
        rw [List.cons_append, withoutReturns, if_neg (by simp [hc])]
      rw [List.cons_append, hkept, ih hline, dropReturn_cons_cons, List.cons_append]

theorem withoutReturns_lineFeed (bytes : List UInt8) :
    withoutReturns (lineFeed :: bytes) = lineFeed :: withoutReturns bytes := by
  rw [withoutReturns, if_neg (by simp [lineFeed, carriageReturn])]

theorem flatMap_terminated_elements (bytes : List UInt8) :
    (elements bytes).flatMap terminated = withoutReturns bytes ++
      if bytes.getLast? = some lineFeed ∨ bytes = [] then [] else [lineFeed] := by
  induction bytes using line_induction with
  | last line hline =>
    have hreturns : withoutReturns (line ++ []) = _ := withoutReturns_append hline rfl
    rw [List.append_nil] at hreturns
    rw [elements_of_not_mem hline, hreturns]
    by_cases hempty : line = []
    · simp [hempty, dropReturn, withoutReturns]
    · have hlast : line.getLast? ≠ some lineFeed := mt List.mem_of_getLast? hline
      simp [hempty, hlast, terminated, withoutReturns]
  | append line bytes hline ih =>
    -- Whether a line feed is missing at the end is known from the rest, which may be empty.
    have hlast : (line ++ lineFeed :: bytes).getLast? = some lineFeed ∨
        line ++ lineFeed :: bytes = [] ↔ bytes.getLast? = some lineFeed ∨ bytes = [] := by
      cases bytes <;> simp
    rw [elements_append hline, List.flatMap_cons, ih, withoutReturns_append hline (by simp),
      withoutReturns_lineFeed]
    simp only [hlast, terminated, List.append_assoc, List.cons_append, List.nil_append]

end Rewriting

/-- Empty lines, a return within a line and bytes that are no text. -/
def plainItems : List Filled :=
  [.lines ["a\rb".toList, [], "é".toList], .absent, .verbatim [], .verbatim [0xFF, 0x78]]

end Stream

end LineFill
