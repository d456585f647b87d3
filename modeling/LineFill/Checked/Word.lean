/-!
Numbers on a machine: they are words of 64 bits, indices must be in range, and a step that goes
wrong ends the run with a fault.
-/
namespace LineFill

/-- What can go wrong: a sum that does not fit in a word, a difference below zero, an index that is
out of range, a break point that is not before the last chunk, offsets between which a text has no
part, or a loop that takes more steps than it may. -/
inductive Fault
  | overflow
  | underflow
  | outOfRange
  | latePoint
  | noPart
  | endless
  deriving DecidableEq, Repr

abbrev Checked := Except Fault

namespace Word

/-- Words are less than 2 ^ 64. -/
def limit : Nat := 0x10000000000000000

def add (m n : Nat) : Checked Nat := if m + n < limit then .ok (m + n) else .error .overflow

def sub (m n : Nat) : Checked Nat := if n ≤ m then .ok (m - n) else .error .underflow

theorem add_eq_ok {m n : Nat} (h : m + n < limit) : add m n = .ok (m + n) := if_pos h

theorem sub_eq_ok {m n : Nat} (h : n ≤ m) : sub m n = .ok (m - n) := if_pos h

end Word

namespace Checked

variable {α β : Type}

@[simp] theorem ok_bind (x : α) (f : α → Checked β) : (Except.ok x >>= f) = f x := rfl

def fetch (items : List α) (index : Nat) : Checked α :=
  match items[index]? with
  | some item => .ok item
  | none => .error .outOfRange

def store (items : List α) (index : Nat) (item : α) : Checked (List α) :=
  if index < items.length then .ok (items.set index item) else .error .outOfRange

theorem fetch_eq_ok {items : List α} {index : Nat} {item : α} (h : items[index]? = some item) :
    fetch items index = .ok item := by
  unfold fetch
  rw [h]

theorem store_eq_ok {items : List α} {index : Nat} (h : index < items.length) (item : α) :
    store items index item = .ok (items.set index item) :=
  if_pos h

theorem mapM_eq_ok {f : α → Checked β} {g : α → β} {items : List α}
    (h : ∀ item ∈ items, f item = .ok (g item)) : items.mapM f = .ok (items.map g) := by
  induction items with
  | nil => rfl
  | cons item items ih =>
    have hrest : items.mapM f = .ok (items.map g) := by
      apply ih
      intro later hlater
      exact h later (List.mem_cons_of_mem item hlater)
    rw [List.mapM_cons, h item List.mem_cons_self, hrest]
    rfl

end Checked

end LineFill
