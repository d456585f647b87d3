import LineFill.Text.Blank

/-!
Tables of character properties: code-point ranges in ascending order with one value each. Reading a
table finds the value of the range that holds a character (`lookup_eq_value`).
-/
namespace LineFill

structure CharRange (α : Type) where
  first : Nat
  last : Nat
  value : α

namespace CharRange

variable {α : Type}

def contains (r : CharRange α) (c : Char) : Bool := r.first ≤ c.toNat && c.toNat ≤ r.last

/-- No range starts below `least` or before the end of the one before it. -/
def ascending (least : Nat) : List (CharRange α) → Bool
  | [] => true
  | r :: ranges => least ≤ r.first && r.first ≤ r.last && ascending (r.last + 1) ranges

/-- The value of the range that holds the character: the first that does not end before it, unless
it starts after it. -/
def lookup (ranges : List (CharRange α)) (otherwise : α) (c : Char) : α :=
  match ranges.find? (c.toNat ≤ ·.last) with
  | some r => if r.first ≤ c.toNat then r.value else otherwise
  | none => otherwise

theorem le_first_of_mem {least : Nat} {ranges : List (CharRange α)} (h : ascending least ranges)
    {r : CharRange α} (hr : r ∈ ranges) : least ≤ r.first := by
  induction ranges generalizing least with
  | nil => cases hr
  | cons s ranges ih =>
    simp only [ascending, Bool.and_eq_true, decide_eq_true_eq] at h
    rcases List.mem_cons.1 hr with rfl | hr
    · exact h.1.1
    · have := ih h.2 hr
      omega

theorem lookup_eq_value {least : Nat} {ranges : List (CharRange α)} (h : ascending least ranges)
    {r : CharRange α} (hr : r ∈ ranges) {c : Char} (hc : r.contains c) (otherwise : α) :
    lookup ranges otherwise c = r.value := by
  simp only [contains, Bool.and_eq_true, decide_eq_true_eq] at hc
  induction ranges generalizing least with
  | nil => cases hr
  | cons s ranges ih =>
    simp only [ascending, Bool.and_eq_true, decide_eq_true_eq] at h
    rcases List.mem_cons.1 hr with rfl | hr
    · simp [lookup, hc.1, hc.2]
    · have later : ¬ c.toNat ≤ s.last := by
        have := le_first_of_mem h.2 hr
        omega
      have := ih h.2 hr
      simpa [lookup, List.find?_cons, later] using this

theorem lookup_of_forall {ranges : List (CharRange α)} {otherwise : α} {p : α → Prop}
    (hr : ∀ r ∈ ranges, p r.value) (ho : p otherwise) (c : Char) :
    p (lookup ranges otherwise c) := by
  unfold lookup
  split
  · next r h =>
    split
    · exact hr r (List.mem_of_find?_eq_some h)
    · exact ho
  · exact ho

end CharRange

end LineFill
