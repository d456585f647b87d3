import Mathlib.Data.List.Induction
import Mathlib.Data.Nat.Digits.Defs
import LineFill.Decimal.Reader
import LineFill.Proofs.Words

/-!
Numbers as they are typed, by their form. A text is read exactly if it has the form of a number, and
it is read as the number of this form.
-/
namespace LineFill.Decimal

/-- A sign, minus or not, before the rest of a text; none is no minus. -/
inductive Signed : Text → Bool → Text → Prop
  | minus (rest : Text) : Signed ('-' :: rest) true rest
  | plus (rest : Text) : Signed ('+' :: rest) false rest
  | unsigned {text : Text} (h : text.head? ≠ some '-' ∧ text.head? ≠ some '+') :
      Signed text false text

def IsDigits (text : Text) : Prop := text ≠ [] ∧ ∀ c ∈ text, isDigit c

/-- The number with these digits, of which the first is the highest. -/
def value (digits : Text) : Nat :=
  Nat.ofDigits 10 (digits.reverse.map fun c => c.toNat - '0'.toNat)

/-- Digits with a sign or none. -/
def IsInt (text : Text) (n : Int) : Prop :=
  ∃ negative digits, Signed text negative digits ∧ IsDigits digits ∧
    n = if negative then -(value digits : Int) else value digits

/-- The power of ten after the digits of a number. -/
inductive IsPower : Text → Int → Prop
  | none : IsPower [] 0
  | some {c : Char} {rest : Text} {e : Int} (h : c = 'e' ∨ c = 'E') (exponent : IsInt rest e) :
      IsPower (c :: rest) e

/-- A number without sign: its digits, and the power of ten of the last of them. -/
inductive IsDecimal : Text → Nat → Int → Prop
  | whole {digits power : Text} {e : Int} (h : IsDigits digits) (exponent : IsPower power e) :
      IsDecimal (digits ++ power) (value digits) e
  | point {digits places power : Text} {e : Int} (h : IsDigits (digits ++ places))
      (exponent : IsPower power e) :
      IsDecimal (digits ++ '.' :: (places ++ power)) (value (digits ++ places)) (e - places.length)

/-- A number, infinity or no number, with a sign or none. -/
inductive IsFloat (text : Text) : Float → Prop
  | infinite {negative : Bool} {name : Text} (sign : Signed text negative name)
      (h : name.Spells "inf" ∨ name.Spells "infinity") :
      IsFloat text (if negative then -1 / 0 else 1 / 0)
  | nan {negative : Bool} {name : Text} (sign : Signed text negative name)
      (h : name.Spells "nan") : IsFloat text (0 / 0)
  | finite {negative : Bool} {number : Text} {digits : Nat} {exponent : Int}
      (sign : Signed text negative number) (h : IsDecimal number digits exponent) :
      IsFloat text (nearestFloat negative digits exponent)

section Int

variable {text rest digits : Text} {negative : Bool} {n : Int} {m : Nat}

theorem splitSign_eq_iff : splitSign text = (negative, rest) ↔ Signed text negative rest := by
  constructor
  · intro h
    unfold splitSign at h
    split at h
    · cases h
      exact .minus _
    · cases h
      exact .plus _
    · next hminus hplus =>
      cases h
      refine .unsigned ⟨?_, ?_⟩
      · intro hhead
        obtain ⟨_, rfl⟩ := List.head?_eq_some_iff.mp hhead
        exact hminus _ rfl
      · intro hhead
        obtain ⟨_, rfl⟩ := List.head?_eq_some_iff.mp hhead
        exact hplus _ rfl
  · rintro (_ | _ | ⟨hminus, hplus⟩)
    · rfl
    · rfl
    · unfold splitSign
      split
      · simp at hminus
      · simp at hplus
      · rfl

theorem digitsValue_eq_value (digits : Text) : digitsValue 0 digits = value digits := by
  induction digits using List.reverseRecOn with
  | nil => rfl
  | append_singleton digits c ih =>
    have hlast : digitsValue 0 (digits ++ [c]) =
        10 * digitsValue 0 digits + (c.toNat - '0'.toNat) := by
      simp [digitsValue]
    rw [hlast, ih, value, value, List.reverse_append, List.reverse_singleton, List.singleton_append,
      List.map_cons, Nat.ofDigits_cons, Nat.add_comm]

theorem readNat?_eq_some_iff : readNat? text = some m ↔ IsDigits text ∧ m = value text := by
  have hdigits : (!text.isEmpty && text.all isDigit) = true ↔ IsDigits text := by
    simp [IsDigits]
  unfold readNat?
  by_cases h : IsDigits text
  · rw [if_pos (hdigits.mpr h), digitsValue_eq_value]
    simp [h, eq_comm]
  · rw [if_neg (mt hdigits.mp h)]
    simp [h]

theorem readInt?_eq_some_iff : readInt? text = some n ↔ IsInt text n := by
  have hread : readInt? text = (readNat? (splitSign text).2).map fun m : Nat =>
      if (splitSign text).1 then -(m : Int) else m := by
    unfold readInt?
    rcases splitSign text with ⟨negative, rest⟩
    cases h : readNat? rest <;> simp [h]
  simp only [hread, Option.map_eq_some_iff, readNat?_eq_some_iff]
  constructor
  · rintro ⟨m, ⟨hdigits, rfl⟩, rfl⟩
    exact ⟨_, _, splitSign_eq_iff.mp rfl, hdigits, rfl⟩
  · rintro ⟨negative, digits, hsign, hdigits, rfl⟩
    rw [splitSign_eq_iff.mpr hsign]
    exact ⟨_, ⟨hdigits, rfl⟩, rfl⟩

theorem readInt64?_eq_some_iff :
    readInt64? text = some n ↔ IsInt text n ∧ -2 ^ 63 ≤ n ∧ n < 2 ^ 63 := by
  simp [readInt64?, Option.filter_eq_some_iff, readInt?_eq_some_iff]

end Int

section Float

variable {text number digits places rest power : Text} {negative : Bool} {n : Nat} {e : Int} {x : Float}

theorem readExponent?_eq_some_iff : readExponent? power = some e ↔ IsPower power e := by
  constructor
  · intro h
    cases power with
    | nil =>
      cases h
      exact .none
    | cons c rest =>
      rw [readExponent?] at h
      split at h
      · next hc => exact .some hc (readInt?_eq_some_iff.mp h)
      · cases h
  · rintro (_ | ⟨hc, hint⟩)
    · rfl
    · rw [readExponent?, if_pos hc, readInt?_eq_some_iff.mpr hint]

theorem stops_of_isPower (h : IsPower power e) : power.Stops isDigit ∧ power.head? ≠ some '.' := by
  cases h with
  | none => simp [Text.Stops]
  | some h exponent =>
    rcases h with rfl | rfl <;> simp [Text.Stops, isDigit]

theorem readFinite?_whole (h : ∀ c ∈ digits, isDigit c) (hrest : rest.Stops isDigit)
    (hpoint : rest.head? ≠ some '.') : readFinite? negative (digits ++ rest) =
      if digits = [] then none
      else (readExponent? rest).map fun e => nearestFloat negative (value digits) e := by
  unfold readFinite?
  simp only [Text.takeWhile_run h hrest, Text.dropWhile_run h hrest]
  split
  · exact absurd rfl hpoint
  · simp [digitsValue_eq_value]

theorem readFinite?_point (h : ∀ c ∈ digits ++ places, isDigit c) (hrest : rest.Stops isDigit) :
    readFinite? negative (digits ++ '.' :: (places ++ rest)) =
      if digits ++ places = [] then none
      else (readExponent? rest).map fun e =>
        nearestFloat negative (value (digits ++ places)) (e - places.length) := by
  have hdigits := List.forall_mem_append.mp h
  have hpoint : Text.Stops isDigit ('.' :: (places ++ rest)) := by
    rintro c hc
    cases hc
    decide
  unfold readFinite?
  simp only [Text.takeWhile_run hdigits.1 hpoint, Text.dropWhile_run hdigits.1 hpoint,
    Text.takeWhile_run hdigits.2 hrest, Text.dropWhile_run hdigits.2 hrest]
  simp [digitsValue_eq_value]

theorem readFinite?_eq_some_iff : readFinite? negative text = some x ↔
    ∃ n e, IsDecimal text n e ∧ x = nearestFloat negative n e := by
  constructor
  · intro h
    obtain ⟨digits, rest, rfl, hdigits, hrest⟩ := Text.exists_run isDigit text
    by_cases hpoint : rest.head? = some '.'
    · obtain ⟨rest, rfl⟩ := List.head?_eq_some_iff.mp hpoint
      obtain ⟨places, power, rfl, hplaces, hpower⟩ := Text.exists_run isDigit rest
      have hall := List.forall_mem_append.mpr ⟨hdigits, hplaces⟩
      rw [readFinite?_point hall hpower] at h
      split at h
      · cases h
      · next hne =>
        obtain ⟨e, he, rfl⟩ := Option.map_eq_some_iff.mp h
        exact ⟨_, _, .point ⟨hne, hall⟩ (readExponent?_eq_some_iff.mp he), rfl⟩
    · rw [readFinite?_whole hdigits hrest hpoint] at h
      split at h
      · cases h
      · next hne =>
        obtain ⟨e, he, rfl⟩ := Option.map_eq_some_iff.mp h
        exact ⟨_, _, .whole ⟨hne, hdigits⟩ (readExponent?_eq_some_iff.mp he), rfl⟩
  · rintro ⟨n, e, h | h, rfl⟩
    · next hpower =>
      obtain ⟨hend, hpoint⟩ := stops_of_isPower hpower
      rw [readFinite?_whole h.2 hend hpoint, if_neg h.1, readExponent?_eq_some_iff.mpr hpower]
      rfl
    · next hpower =>
      rw [readFinite?_point h.2 (stops_of_isPower hpower).1, if_neg h.1,
        readExponent?_eq_some_iff.mpr hpower]
      rfl

/-- The text of a number does not begin as a name does. -/
theorem head?_of_isDecimal (h : IsDecimal text n e) :
    ∃ c rest, text = c :: rest ∧ (isDigit c ∨ c = '.') := by
  rcases h with h | h
  · next digits power _ =>
    obtain ⟨c, digits, rfl⟩ := List.exists_cons_of_ne_nil h.1
    exact ⟨c, digits ++ power, rfl, Or.inl (h.2 c List.mem_cons_self)⟩
  · next digits places power e _ =>
    cases digits with
    | nil => exact ⟨'.', places ++ power, rfl, Or.inr rfl⟩
    | cons c digits => exact ⟨c, _, rfl, Or.inl (h.2 c List.mem_cons_self)⟩

theorem toLower_of_isDigit {c : Char} (h : isDigit c) : c.toLower = c := by
  simp only [isDigit, Bool.and_eq_true, decide_eq_true_eq, Char.le_def,
    UInt32.le_iff_toNat_le] at h
  have hle : c.val.toNat ≤ 57 := h.2
  have hupper : ¬ (c.val ≥ 'A'.val ∧ c.val ≤ 'Z'.val) := by
    simp only [ge_iff_le, UInt32.le_iff_toNat_le]
    rintro ⟨hge, -⟩
    exact absurd (hge.trans hle) (by decide)
  exact dif_neg hupper

theorem not_spells_of_isDecimal {word : String} (h : IsDecimal text n e)
    (hword : word ∈ ["inf", "infinity", "nan"]) : ¬ text.Spells word := by
  obtain ⟨c, rest, rfl, hc⟩ := head?_of_isDecimal h
  have hlower : c.toLower = c := by
    rcases hc with hc | rfl
    · exact toLower_of_isDigit hc
    · rfl
  have hletter : c ≠ 'i' ∧ c ≠ 'n' := by
    rcases hc with hc | rfl
    · refine ⟨?_, ?_⟩ <;> rintro rfl <;> revert hc <;> decide
    · decide
  simp only [List.mem_cons, List.not_mem_nil, or_false] at hword
  intro hspells
  rw [Text.Spells, List.map_cons, hlower] at hspells
  rcases hword with rfl | rfl | rfl
  · exact hletter.1 (List.cons.inj hspells).1
  · exact hletter.1 (List.cons.inj hspells).1
  · exact hletter.2 (List.cons.inj hspells).1

theorem readFloat?_of_infinite (sign : Signed text negative rest)
    (h : rest.Spells "inf" ∨ rest.Spells "infinity") :
    readFloat? text = some (if negative then -1 / 0 else 1 / 0) := by
  unfold readFloat?
  rw [splitSign_eq_iff.mpr sign]
  rcases h with h | h <;> simp only [Text.ofList_lowerAscii_eq_iff.mpr h]

theorem readFloat?_of_nan (sign : Signed text negative rest) (h : rest.Spells "nan") :
    readFloat? text = some (0 / 0) := by
  unfold readFloat?
  rw [splitSign_eq_iff.mpr sign]
  simp only [Text.ofList_lowerAscii_eq_iff.mpr h]

theorem readFloat?_of_not_spells (sign : Signed text negative rest)
    (h : ∀ word ∈ ["inf", "infinity", "nan"], ¬ rest.Spells word) :
    readFloat? text = readFinite? negative rest := by
  unfold readFloat?
  rw [splitSign_eq_iff.mpr sign]
  dsimp only
  split
  · next hinf => exact absurd (Text.ofList_lowerAscii_eq_iff.mp hinf) (h _ (by simp))
  · next hinf => exact absurd (Text.ofList_lowerAscii_eq_iff.mp hinf) (h _ (by simp))
  · next hnan => exact absurd (Text.ofList_lowerAscii_eq_iff.mp hnan) (h _ (by simp))
  · rfl

theorem readFloat?_eq_some_iff : readFloat? text = some x ↔ IsFloat text x := by
  constructor
  · intro h
    obtain ⟨negative, rest, sign⟩ : ∃ negative rest, Signed text negative rest :=
      ⟨_, _, splitSign_eq_iff.mp rfl⟩
    by_cases hinf : rest.Spells "inf" ∨ rest.Spells "infinity"
    · rw [readFloat?_of_infinite sign hinf] at h
      exact Option.some.inj h ▸ .infinite sign hinf
    · by_cases hnan : rest.Spells "nan"
      · rw [readFloat?_of_nan sign hnan] at h
        exact Option.some.inj h ▸ .nan sign hnan
      · rw [readFloat?_of_not_spells sign (by simpa [hnan] using hinf)] at h
        obtain ⟨n, e, hdecimal, rfl⟩ := readFinite?_eq_some_iff.mp h
        exact .finite sign hdecimal
  · rintro (⟨sign, h⟩ | ⟨sign, h⟩ | ⟨sign, h⟩)
    · exact readFloat?_of_infinite sign h
    · exact readFloat?_of_nan sign h
    · rw [readFloat?_of_not_spells sign fun _ => not_spells_of_isDecimal h]
      exact readFinite?_eq_some_iff.mpr ⟨_, _, h, rfl⟩

end Float

end LineFill.Decimal
