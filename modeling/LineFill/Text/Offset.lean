/-!
Texts and the byte offsets into them. A text is a list of characters; an offset counts the bytes
of its UTF-8 form, and an edge is an offset at which one character ends and the next begins.
-/
namespace LineFill

abbrev Text := List Char

namespace Text

def byteLength : Text → Nat
  | [] => 0
  | c :: cs => c.utf8Size + byteLength cs

/-- An edge is the start of a character or the end of the text. -/
def isEdge : Text → Nat → Bool
  | _, 0 => true
  | [], _ + 1 => false
  | c :: cs, n + 1 => c.utf8Size ≤ n + 1 && isEdge cs (n + 1 - c.utf8Size)

def dropBytes : Text → Nat → Text
  | [], _ => []
  | c :: cs, n => if n = 0 then c :: cs else dropBytes cs (n - c.utf8Size)

def takeBytes : Text → Nat → Text
  | [], _ => []
  | c :: cs, n => if n = 0 then [] else c :: takeBytes cs (n - c.utf8Size)

/-- The part between two edges. -/
def slice (text : Text) (start stop : Nat) : Text :=
  (text.dropBytes start).takeBytes (stop - start)

/-- Whether the text has a part from `start` to `stop`. -/
def hasSlice (text : Text) (start stop : Nat) : Bool :=
  start ≤ stop && text.isEdge start && text.isEdge stop

@[simp] theorem byteLength_nil : byteLength [] = 0 := rfl

@[simp] theorem byteLength_cons (c : Char) (cs : Text) :
    byteLength (c :: cs) = c.utf8Size + byteLength cs := rfl

@[simp] theorem byteLength_append (s t : Text) :
    byteLength (s ++ t) = byteLength s + byteLength t := by
  induction s with
  | nil => simp
  | cons c cs ih => simp [ih, Nat.add_assoc]

theorem byteLength_eq_zero {text : Text} : byteLength text = 0 ↔ text = [] := by
  cases text with
  | nil => simp
  | cons c cs =>
    have := c.utf8Size_pos
    simp
    omega

@[simp] theorem isEdge_zero (text : Text) : isEdge text 0 = true := by cases text <;> rfl

theorem isEdge_byteLength (text : Text) : isEdge text text.byteLength = true := by
  induction text with
  | nil => rfl
  | cons c cs ih =>
    have := c.utf8Size_pos
    obtain ⟨n, hn⟩ : ∃ n, c.utf8Size + byteLength cs = n + 1 := ⟨_, (Nat.sub_add_cancel (by omega)).symm⟩
    rw [byteLength_cons, hn, isEdge, ← hn]
    simp [ih]

/-- An edge splits the text in two, and every split is at an edge. -/
theorem isEdge_iff {text : Text} {n : Nat} :
    isEdge text n = true ↔ ∃ s t, text = s ++ t ∧ byteLength s = n := by
  induction text generalizing n with
  | nil => cases n <;> simp [isEdge]
  | cons c cs ih =>
    have hc := c.utf8Size_pos
    cases n with
    | zero => exact ⟨fun _ => ⟨[], c :: cs, rfl, rfl⟩, fun _ => rfl⟩
    | succ n =>
      simp only [isEdge, Bool.and_eq_true, decide_eq_true_eq, ih]
      constructor
      · rintro ⟨hle, s, t, rfl, hs⟩
        exact ⟨c :: s, t, rfl, by simp [hs]; omega⟩
      · rintro ⟨s, t, h, hs⟩
        cases s with
        | nil => simp at hs
        | cons d s =>
          simp only [List.cons_append, List.cons.injEq] at h
          obtain ⟨rfl, rfl⟩ := h
          simp only [byteLength_cons] at hs
          exact ⟨by omega, s, t, rfl, by omega⟩

@[simp] theorem dropBytes_zero (text : Text) : dropBytes text 0 = text := by cases text <;> rfl

@[simp] theorem takeBytes_zero (text : Text) : takeBytes text 0 = [] := by cases text <;> rfl

theorem dropBytes_append (s t : Text) : dropBytes (s ++ t) s.byteLength = t := by
  induction s with
  | nil => simp
  | cons c s ih =>
    have := c.utf8Size_pos
    rw [List.cons_append, dropBytes, if_neg (by simp; omega), byteLength_cons]
    simpa using ih

theorem takeBytes_append (s t : Text) : takeBytes (s ++ t) s.byteLength = s := by
  induction s with
  | nil => simp
  | cons c s ih =>
    have := c.utf8Size_pos
    rw [List.cons_append, takeBytes, if_neg (by simp; omega), byteLength_cons]
    simpa using ih

/-- A slice is what stands between what precedes it and what follows it. -/
theorem slice_append (s t u : Text) :
    slice (s ++ (t ++ u)) s.byteLength (s.byteLength + t.byteLength) = t := by
  rw [slice, dropBytes_append, Nat.add_sub_cancel_left, takeBytes_append]

end Text

end LineFill
