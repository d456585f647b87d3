import LineFill.PenaltyTable

/-!
Widths of lines, and the table of penalties read off them: a row holds the penalty of every line
that can be set, although it adds up widths as it goes and ends at the first line too wide.
-/
namespace LineFill

namespace Chunk

variable {chunks : List Chunk}

@[simp] theorem totalWidth_nil : totalWidth [] = 0 := rfl

@[simp] theorem totalWidth_cons (c : Chunk) (chunks : List Chunk) :
    totalWidth (c :: chunks) = c.width + totalWidth chunks := rfl

@[simp] theorem totalWidth_append (chunks later : List Chunk) :
    totalWidth (chunks ++ later) = totalWidth chunks + totalWidth later := by
  induction chunks with
  | nil => simp
  | cons c chunks ih => simp [ih, Nat.add_assoc]

instance (chunks : List Chunk) : Decidable (Measured chunks) :=
  inferInstanceAs (Decidable (∀ c ∈ chunks, _))

theorem Measured.tail {c : Chunk} (h : Measured (c :: chunks)) : Measured chunks := by
  intro d hd
  exact h d (List.mem_cons_of_mem c hd)

theorem Measured.drop (h : Measured chunks) (first : Nat) : Measured (chunks.drop first) := by
  intro d hd
  exact h d (List.mem_of_mem_drop hd)

theorem measured_append {front rest : List Chunk} :
    Measured (front ++ rest) ↔ Measured front ∧ Measured rest :=
  List.forall_mem_append

@[simp] theorem lineWidth_cons_zero (c : Chunk) (chunks : List Chunk) :
    lineWidth (c :: chunks) 0 0 = c.inkWidth := by simp [lineWidth]

@[simp] theorem lineWidth_cons_succ (c : Chunk) (chunks : List Chunk) (last : Nat) :
    lineWidth (c :: chunks) 0 (last + 1) = c.width + lineWidth chunks 0 last := by
  simp [lineWidth, Nat.add_assoc]

/-- A line is as wide among the chunks from its first one on as among all of them. -/
theorem lineWidth_drop (chunks : List Chunk) {first last : Nat} (h : first ≤ last) :
    lineWidth (chunks.drop first) 0 (last - first) = lineWidth chunks first last := by
  have hlast : first + (last - first) = last := Nat.add_sub_cancel' h
  simp [lineWidth, hlast]

/-- The chunks around those of a line do not matter for its width. -/
theorem lineWidth_append_left (front rest : List Chunk) {first last : Nat} (hf : first ≤ last)
    (hl : last < front.length) : lineWidth (front ++ rest) first last = lineWidth front first last := by
  have hfirst : first ≤ front.length := by omega
  have hcount : last - first ≤ (front.drop first).length := by
    rw [List.length_drop]
    omega
  unfold lineWidth
  rw [List.drop_append_of_le_length hfirst, List.take_append_of_le_length hcount,
    List.getElem?_append_left hl]

theorem lineWidth_append_right (front rest : List Chunk) (first last : Nat) :
    lineWidth (front ++ rest) (front.length + first) (front.length + last) =
      lineWidth rest first last := by
  unfold lineWidth
  rw [List.drop_length_add_append, List.getElem?_append_right (Nat.le_add_right _ _),
    Nat.add_sub_add_left, Nat.add_sub_cancel_left]

/-- The first chunk of a line takes no more room when chunks follow it. -/
theorem inkWidth_le_lineWidth {c : Chunk} (h : Measured (c :: chunks)) {last : Nat}
    (hlast : last < (c :: chunks).length) : c.inkWidth ≤ lineWidth (c :: chunks) 0 last := by
  cases last with
  | zero => simp
  | succ last =>
    have hc := h c List.mem_cons_self
    rw [lineWidth_cons_succ]
    omega

/-- The width of the chunks from `first` up to `stop` with all their blanks. -/
def fullWidth (chunks : List Chunk) (first stop : Nat) : Nat :=
  totalWidth ((chunks.drop first).take (stop - first))

@[simp] theorem fullWidth_self (chunks : List Chunk) (i : Nat) : fullWidth chunks i i = 0 := by
  simp [fullWidth]

theorem fullWidth_succ {first stop : Nat} (hf : first ≤ stop) (hs : stop < chunks.length) :
    fullWidth chunks first (stop + 1) = fullWidth chunks first stop + chunks[stop].width := by
  have hlen : stop - first < (chunks.drop first).length := by simp; omega
  have hstop : first + (stop - first) = stop := by omega
  rw [fullWidth, Nat.sub_add_comm hf, List.take_succ_eq_append_getElem hlen]
  simp [fullWidth, hstop]

theorem lineWidth_eq_add {first last : Nat} (hl : last < chunks.length) :
    lineWidth chunks first last = fullWidth chunks first last + chunks[last].inkWidth := by
  simp [lineWidth, fullWidth, List.getElem?_eq_getElem hl]

theorem fullWidth_add (chunks : List Chunk) {first mid stop : Nat} (hf : first ≤ mid)
    (hm : mid ≤ stop) :
    fullWidth chunks first stop = fullWidth chunks first mid + fullWidth chunks mid stop := by
  have hcount : stop - first = (mid - first) + (stop - mid) := by omega
  have hdrop : (chunks.drop first).drop (mid - first) = chunks.drop mid := by
    rw [List.drop_drop, Nat.add_sub_cancel' hf]
  rw [fullWidth, hcount, List.take_add, totalWidth_append, hdrop]
  rfl

/-- A line grows when it starts earlier. -/
theorem lineWidth_anti_first (chunks : List Chunk) {start first last : Nat} (hs : start ≤ first)
    (hf : first ≤ last) : lineWidth chunks first last ≤ lineWidth chunks start last := by
  have hfull := fullWidth_add chunks hs hf
  unfold fullWidth at hfull
  unfold lineWidth
  omega

/-- A line grows when it ends later, since blanks at its end then count. -/
theorem lineWidth_mono_last (h : Measured chunks) {first last stop : Nat} (hf : first ≤ last)
    (hl : last ≤ stop) (hs : stop < chunks.length) :
    lineWidth chunks first last ≤ lineWidth chunks first stop := by
  rcases Nat.eq_or_lt_of_le hl with rfl | hlt
  · exact Nat.le_refl _
  have hlast : last < chunks.length := Nat.lt_trans hlt hs
  have hink := h chunks[last] (List.getElem_mem hlast)
  have hfull := fullWidth_add chunks (show first ≤ last + 1 by omega) hlt
  rw [fullWidth_succ hf hlast] at hfull
  rw [lineWidth_eq_add hlast, lineWidth_eq_add hs]
  omega

end Chunk

variable {K : Type} [Score K]

theorem penalty_eq_none_iff {used width : Nat} {single : Bool} {exponent : K} :
    penalty used width single exponent = none ↔ width < used ∧ single = false := by
  by_cases hwide : width < used
  · cases single <;> simp [penalty, hwide]
  · simp [penalty, hwide]

namespace PenaltyTable

/-- The entries of a row, where `used` is the width of the line so far with its blanks. The row may
end early because no longer line is narrower than the one that ended it. -/
theorem getElem?_growing {width : Nat} {exponent : K} {chunks : List Chunk}
    (h : Chunk.Measured chunks) (used : Nat) (single : Bool) (last : Nat) :
    (growing width exponent used single chunks)[last]? =
      if last < chunks.length then
        penalty (used + Chunk.lineWidth chunks 0 last) width (single && last = 0) exponent
      else none := by
  induction chunks generalizing used single last with
  | nil => simp [growing]
  | cons c chunks ih =>
    simp only [growing]
    cases hp : penalty (used + c.inkWidth) width single exponent with
    | some p =>
      have hc := h c List.mem_cons_self
      have hused : used + c.inkWidth + (c.width - c.inkWidth) = used + c.width := by omega
      cases last with
      | zero => simp [hp]
      | succ last =>
        rw [List.getElem?_cons_succ, ih h.tail, hused]
        simp [Nat.add_assoc]
    | none =>
      obtain ⟨hwide, hsingle⟩ := penalty_eq_none_iff.mp hp
      by_cases hlast : last < (c :: chunks).length
      · have hle := Chunk.inkWidth_le_lineWidth h hlast
        have hnone : penalty (used + Chunk.lineWidth (c :: chunks) 0 last) width
            (single && last = 0) exponent = none :=
          penalty_eq_none_iff.mpr ⟨by omega, by simp [hsingle]⟩
        simp [hnone]
      · rw [if_neg hlast, List.getElem?_nil]

theorem getElem?_rowsOf (width : Nat) (exponent : K) (chunks : List Chunk) (first : Nat) :
    (rowsOf width exponent chunks)[first]? =
      if first < chunks.length then some (growing width exponent 0 true (chunks.drop first))
      else none := by
  induction chunks generalizing first with
  | nil => simp [rowsOf]
  | cons c chunks ih =>
    cases first with
    | zero => simp [rowsOf]
    | succ first => simp [rowsOf, ih]

theorem rowsOf_eq_map (width : Nat) (exponent : K) (chunks : List Chunk) :
    rowsOf width exponent chunks =
      (List.range chunks.length).map fun first =>
        growing width exponent 0 true (chunks.drop first) := by
  apply List.ext_getElem?
  intro first
  rw [getElem?_rowsOf, List.getElem?_map]
  by_cases hlt : first < chunks.length
  · rw [if_pos hlt, List.getElem?_range hlt]
    rfl
  · rw [if_neg hlt, List.getElem?_eq_none (by simpa using hlt)]
    rfl

@[simp] theorem length_rowsOf (width : Nat) (exponent : K) (chunks : List Chunk) :
    (rowsOf width exponent chunks).length = chunks.length := by
  induction chunks with
  | nil => rfl
  | cons c chunks ih => simp [rowsOf, ih]

/-- Every entry of the table is the penalty of its line. -/
theorem get?_build {chunks : List Chunk} (h : Chunk.Measured chunks) (width : Nat) (exponent : K)
    {first last : Nat} (hf : first ≤ last) (hl : last < chunks.length) :
    (build chunks width exponent).get? first last =
      linePenalty chunks width exponent first last := by
  have hfirst : first < chunks.length := by omega
  have hsize : last - first < (chunks.drop first).length := by simp; omega
  have hsingle : (last - first = 0) = (first = last) := by apply propext; omega
  simp only [get?, build, if_pos hf, getElem?_rowsOf, if_pos hfirst, Option.bind_some,
    bind, getElem?_growing (h.drop first), if_pos hsize, Chunk.lineWidth_drop chunks hf,
    Nat.zero_add, Bool.true_and, hsingle, linePenalty]

end PenaltyTable

end LineFill
