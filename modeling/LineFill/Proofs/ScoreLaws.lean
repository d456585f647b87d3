import Mathlib.Data.ENat.Basic
import LineFill.Penalties

/-!
What is asked of scores. For optimality, those from zero to infinity are in order, sums of them are
monotone and infinity absorbs; for a line to stay whole, powers are monotone and no sum is less than
its last summand. Sums may be rounded, so they need not be associative, and they may overflow.
-/
namespace LineFill

variable {K : Type} [Score K]

namespace Score

/-- The first number is the second or less than it. -/
def AtMost (x y : K) : Prop := x = y ∨ less x y = true

/-- The totals that plans add up with the exponent are magnitudes. -/
structure Closed (Magnitude : K → Prop) (exponent : K) : Prop where
  ofNat (n : Nat) : Magnitude (ofNat n)
  add {x y : K} : Magnitude x → Magnitude y → Magnitude (add x y)
  pow {x : K} : Magnitude x → Magnitude (pow x exponent)

theorem Closed.penalty {Magnitude : K → Prop} {exponent p : K} (closed : Closed Magnitude exponent)
    {used width : Nat} {single : Bool} (hp : penalty used width single exponent = some p) :
    Magnitude p := by
  unfold LineFill.penalty at hp
  split at hp
  · split at hp
    · obtain rfl := Option.some.inj hp
      exact closed.ofNat 0
    · cases hp
  · obtain rfl := Option.some.inj hp
    exact closed.pow (closed.ofNat _)

/-- The laws of the magnitudes, the scores from zero to infinity. Of floats these are the numbers
whose sign is plus, infinity among them; minus zero, from which sums start, is none. -/
structure Laws (Magnitude : K → Prop) : Prop where
  ofNat (n : Nat) : Magnitude (ofNat n)
  infinity : Magnitude infinity
  add {x y : K} : Magnitude x → Magnitude y → Magnitude (add x y)
  pow {x exponent : K} : Magnitude x → less zero exponent = true → Magnitude (pow x exponent)
  total {x y : K} : Magnitude x → Magnitude y → AtMost x y ∨ AtMost y x
  trans {x y z : K} : Magnitude x → Magnitude y → Magnitude z →
    AtMost x y → AtMost y z → AtMost x z
  zero_atMost {x : K} : Magnitude x → AtMost zero x
  add_atMost {x x' y y' : K} : Magnitude x → Magnitude x' → Magnitude y → Magnitude y' →
    AtMost x x' → AtMost y y' → AtMost (Score.add x y) (Score.add x' y')
  infinity_add {x : K} : Magnitude x → Score.add Score.infinity x = Score.infinity
  add_infinity {x : K} : Magnitude x → Score.add x Score.infinity = Score.infinity
  zero_add {x : K} : Magnitude x → Score.add zero x = x
  sumStart_add {x : K} : Magnitude x → Score.add sumStart x = x

namespace Laws

variable {Magnitude : K → Prop}

theorem zero (laws : Laws Magnitude) : Magnitude Score.zero := laws.ofNat 0

theorem closed (laws : Laws Magnitude) {exponent : K} (hpos : less Score.zero exponent = true) :
    Closed Magnitude exponent where
  ofNat := laws.ofNat
  add := laws.add
  pow hx := laws.pow hx hpos

theorem atMost_infinity (laws : Laws Magnitude) {x : K} (hx : Magnitude x) :
    AtMost x Score.infinity := by
  have h := laws.add_atMost laws.zero laws.infinity hx hx (laws.zero_atMost laws.infinity)
    (Or.inl rfl)
  rwa [laws.zero_add hx, laws.infinity_add hx] at h

theorem penalty (laws : Laws Magnitude) {used width : Nat} {single : Bool} {exponent p : K}
    (hpos : less Score.zero exponent = true) (hp : penalty used width single exponent = some p) :
    Magnitude p :=
  (laws.closed hpos).penalty hp

/-- Of two numbers the one that is not greater: a later one only if it is less. -/
theorem atMost_of_not_less (laws : Laws Magnitude) {x y : K} (hx : Magnitude x) (hy : Magnitude y)
    (h : less y x ≠ true) : AtMost x y := by
  rcases laws.total hx hy with hxy | hyx
  · exact hxy
  · rcases hyx with rfl | hless
    · exact Or.inl rfl
    · exact absurd hless h

end Laws

/-- More unused width is not judged to be less: numbers and their powers are in order, and a sum is
not below what was added last. Of floats the numbers whose sign is plus have these properties, for a
positive exponent whose powers are in order. -/
structure Monotone (Magnitude : K → Prop) (exponent : K) : Prop
    extends Closed Magnitude exponent where
  trans {x y z : K} : Magnitude x → Magnitude y → Magnitude z →
    less y x = false → less z y = false → less z x = false
  ofNat_mono {m n : Nat} : m ≤ n → less (Score.ofNat n : K) (Score.ofNat m) = false
  pow_mono {x y : K} : Magnitude x → Magnitude y → less y x = false →
    less (Score.pow y exponent) (Score.pow x exponent) = false
  summand {x y : K} : Magnitude x → Magnitude y → less (Score.add x y) y = false
  zero_add {x : K} : Magnitude x → Score.add zero x = x

end Score

/-- Whole scores, whose sums and powers are exact. -/
instance : Score ℕ∞ where
  ofNat n := n
  add := (· + ·)
  less x y := decide (x < y)
  pow
    | some x, some exponent => (x ^ exponent : Nat)
    | _, _ => ⊤
  infinity := ⊤
  sumStart := 0

theorem Score.laws_enat : Score.Laws fun _ : ℕ∞ => True := by
  have atMost_iff (x y : ℕ∞) : Score.AtMost x y ↔ x ≤ y := by
    simp [Score.AtMost, Score.less, le_iff_eq_or_lt]
  constructor
  case total =>
    intro x y _ _
    simp only [atMost_iff]
    exact le_total x y
  case trans =>
    intro x y z _ _ _
    simp only [atMost_iff]
    exact le_trans
  case zero_atMost =>
    intro x _
    simp [atMost_iff, Score.zero, Score.ofNat]
  case add_atMost =>
    intro x x' y y' _ _ _ _
    simp only [atMost_iff]
    exact add_le_add
  all_goals simp [Score.zero, Score.ofNat, Score.add, Score.infinity, Score.sumStart]

theorem Score.monotone_enat (exponent : ℕ∞) : Score.Monotone (fun _ : ℕ∞ => True) exponent := by
  have less_iff (x y : ℕ∞) : Score.less y x = false ↔ x ≤ y := by simp [Score.less]
  constructor
  case toClosed => exact ⟨fun _ => trivial, fun _ _ => trivial, fun _ => trivial⟩
  case trans =>
    intro x y z _ _ _
    simp only [less_iff]
    exact le_trans
  case ofNat_mono =>
    intro m n hle
    rw [less_iff]
    exact Nat.cast_le.mpr hle
  case pow_mono =>
    intro x y _ _
    simp only [less_iff]
    intro hle
    match x, y, exponent with
    | _, ⊤, _ => exact le_top
    | _, (y : ℕ), ⊤ => exact le_top
    | (x : ℕ), (y : ℕ), (exponent : ℕ) =>
      exact Nat.cast_le.mpr (Nat.pow_le_pow_left (Nat.cast_le.mp hle) exponent)
  case summand =>
    intro x y _ _
    rw [less_iff]
    exact le_add_self
  case zero_add =>
    intro x _
    simp [Score.zero, Score.ofNat, Score.add]

end LineFill
