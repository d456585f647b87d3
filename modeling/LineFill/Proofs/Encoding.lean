import Mathlib.Tactic.SplitIfs
import LineFill.Text.Utf8

/-!
The UTF-8 form of a text: decoding gives the text back, and it splits any bytes into the longest
well-formed part and the rest.
-/
namespace LineFill.Text

@[simp] theorem encode_nil : encode [] = [] := rfl

@[simp] theorem encode_cons (c : Char) (text : Text) :
    encode (c :: text) = String.utf8EncodeChar c ++ encode text := rfl

theorem scalar?_toNat (c : Char) : scalar? c.toNat c.utf8Size = some c := by
  simp [scalar?]

/-- A form is read as the character with its code point and size only. -/
theorem of_scalar? {p : Prop} [Decidable p] {code size : Nat} {c : Char}
    (h : (if p then scalar? code size else none) = some c) :
    p ∧ c.toNat = code ∧ c.utf8Size = size := by
  unfold scalar? at h
  dsimp only at h
  split at h
  · next hp =>
    split at h
    · next hc =>
      obtain rfl := Option.some.inj h
      exact ⟨hp, hc⟩
    · cases h
  · cases h

section Bytes

variable {a b c d : UInt8} {x : Char} {bytes : List UInt8} {n : Nat}

theorem decode_of_oneByte? (h : oneByte? a = some x) :
    decode (a :: bytes) = (decode bytes).map (x :: ·) id := by
  rw [decode.eq_def]
  simp only [h]

theorem decode_of_twoBytes? (h₁ : oneByte? a = none) (h : twoBytes? a b = some x) :
    decode (a :: b :: bytes) = (decode bytes).map (x :: ·) id := by
  rw [decode.eq_def]
  simp only [h₁, h]

theorem decode_of_threeBytes? (h₁ : oneByte? a = none) (h₂ : twoBytes? a b = none)
    (h : threeBytes? a b c = some x) :
    decode (a :: b :: c :: bytes) = (decode bytes).map (x :: ·) id := by
  rw [decode.eq_def]
  simp only [h₁, h₂, h]

theorem decode_of_fourBytes? (h₁ : oneByte? a = none) (h₂ : twoBytes? a b = none)
    (h₃ : threeBytes? a b c = none) (h : fourBytes? a b c d = some x) :
    decode (a :: b :: c :: d :: bytes) = (decode bytes).map (x :: ·) id := by
  rw [decode.eq_def]
  simp only [h₁, h₂, h₃, h]

theorem oneByte?_eq_none (h : 128 ≤ a.toNat) : oneByte? a = none := by
  rw [oneByte?, if_neg (by omega)]

theorem twoBytes?_eq_none (h : 224 ≤ a.toNat) : twoBytes? a b = none := by
  rw [twoBytes?, if_neg (by omega)]

theorem threeBytes?_eq_none (h : 240 ≤ a.toNat) : threeBytes? a b c = none := by
  rw [threeBytes?, if_neg (by omega)]

theorem isContinuation_of_toNat (h : a.toNat = n % 64 + 128) : isContinuation a = true := by
  rw [isContinuation, decide_eq_true_eq]
  omega

theorem twoBytes?_eq_scalar? (hn : n < 2048) (ha : a.toNat = n / 64 % 32 + 192)
    (hb : b.toNat = n % 64 + 128) : twoBytes? a b = scalar? n 2 := by
  have hcode : a.toNat % 32 * 64 + b.toNat % 64 = n := by omega
  rw [twoBytes?, if_pos ⟨by omega, isContinuation_of_toNat hb⟩, hcode]

theorem threeBytes?_eq_scalar? (hn : n < 65536) (ha : a.toNat = n / 4096 % 16 + 224)
    (hb : b.toNat = n / 64 % 64 + 128) (hc : c.toNat = n % 64 + 128) :
    threeBytes? a b c = scalar? n 3 := by
  have hcode : (a.toNat % 16 * 64 + b.toNat % 64) * 64 + c.toNat % 64 = n := by omega
  rw [threeBytes?, hcode,
    if_pos ⟨by omega, isContinuation_of_toNat hb, isContinuation_of_toNat hc⟩]

theorem fourBytes?_eq_scalar? (hn : n < 2097152) (ha : a.toNat = n / 262144 % 8 + 240)
    (hb : b.toNat = n / 4096 % 64 + 128) (hc : c.toNat = n / 64 % 64 + 128)
    (hd : d.toNat = n % 64 + 128) : fourBytes? a b c d = scalar? n 4 := by
  have hcode : ((a.toNat % 8 * 64 + b.toNat % 64) * 64 + c.toNat % 64) * 64 + d.toNat % 64 = n := by
    omega
  rw [fourBytes?, hcode, if_pos ⟨by omega, isContinuation_of_toNat hb, isContinuation_of_toNat hc,
    isContinuation_of_toNat hd⟩]

end Bytes

theorem utf8Size_eq (c : Char) : c.utf8Size =
    if c.toNat ≤ 127 then 1 else if c.toNat ≤ 2047 then 2 else if c.toNat ≤ 65535 then 3 else 4 := by
  simp only [Char.utf8Size, UInt32.le_iff_toNat_le, Char.toNat_val]
  rfl

theorem toNat_ofNat {n : Nat} (h : n < 256) : (UInt8.ofNat n).toNat = n := by
  rw [UInt8.toNat_ofNat', Nat.mod_eq_of_lt h]

/-- The bytes of a character, followed by any others, are read as this character. -/
theorem decode_utf8EncodeChar (c : Char) (bytes : List UInt8) :
    decode (String.utf8EncodeChar c ++ bytes) = (decode bytes).map (c :: ·) id := by
  have hscalar := scalar?_toNat c
  have hlt : c.toNat < 1114112 := by
    rcases c.valid with h | h <;> simp at h <;> omega
  rw [utf8Size_eq] at hscalar
  unfold String.utf8EncodeChar
  rw [Char.toNat_val]
  generalize c.toNat = n at hscalar hlt ⊢
  dsimp only
  split_ifs at hscalar ⊢ with h₁ h₂ h₃
  · apply decode_of_oneByte?
    have ha : (UInt8.ofNat n).toNat = n := toNat_ofNat (by omega)
    rw [oneByte?, ha, if_pos (by omega), hscalar]
  · have ha := toNat_ofNat (show n / 64 % 32 + 192 < 256 by omega)
    have hb := toNat_ofNat (show n % 64 + 128 < 256 by omega)
    apply decode_of_twoBytes? (oneByte?_eq_none (by omega))
    rw [twoBytes?_eq_scalar? (by omega) ha hb, hscalar]
  · have ha := toNat_ofNat (show n / 4096 % 16 + 224 < 256 by omega)
    have hb := toNat_ofNat (show n / 64 % 64 + 128 < 256 by omega)
    have hc := toNat_ofNat (show n % 64 + 128 < 256 by omega)
    apply decode_of_threeBytes? (oneByte?_eq_none (by omega)) (twoBytes?_eq_none (by omega))
    rw [threeBytes?_eq_scalar? (by omega) ha hb hc, hscalar]
  · have ha := toNat_ofNat (show n / 262144 % 8 + 240 < 256 by omega)
    have hb := toNat_ofNat (show n / 4096 % 64 + 128 < 256 by omega)
    have hc := toNat_ofNat (show n / 64 % 64 + 128 < 256 by omega)
    have hd := toNat_ofNat (show n % 64 + 128 < 256 by omega)
    apply decode_of_fourBytes? (oneByte?_eq_none (by omega)) (twoBytes?_eq_none (by omega))
      (threeBytes?_eq_none (by omega))
    rw [fourBytes?_eq_scalar? (by omega) ha hb hc hd, hscalar]

/-- A text before other bytes is read back, and then what they begin with. -/
theorem decode_encode_append (text : Text) (bytes : List UInt8) :
    decode (encode text ++ bytes) = (text ++ (decode bytes).1, (decode bytes).2) := by
  induction text with
  | nil => rfl
  | cons c text ih => rw [encode_cons, List.append_assoc, decode_utf8EncodeChar, ih]; rfl

theorem decode_encode (text : Text) : decode (encode text) = (text, []) := by
  simpa [decode] using decode_encode_append text []

theorem length_encode (text : Text) : (encode text).length = text.byteLength := by
  induction text with
  | nil => rfl
  | cons c text ih => simp [ih]

section Ascii

variable {c d : Char} {text : Text}

theorem utf8EncodeChar_of_lt (h : c.toNat < 128) :
    String.utf8EncodeChar c = [UInt8.ofNat c.toNat] := by
  unfold String.utf8EncodeChar
  rw [Char.toNat_val, if_pos (by omega)]

theorem forall_mem_utf8EncodeChar_le (h : 128 ≤ d.toNat) :
    ∀ b ∈ String.utf8EncodeChar d, 128 ≤ b.toNat := by
  unfold String.utf8EncodeChar
  rw [Char.toNat_val, if_neg (by omega)]
  split_ifs <;> simp only [List.forall_mem_cons, UInt8.toNat_ofNat', List.not_mem_nil,
    false_implies, implies_true, and_true, Nat.reducePow] <;> omega

/-- A byte below 128 stands for one character, and no longer form contains it. -/
theorem mem_utf8EncodeChar_iff (h : c.toNat < 128) :
    UInt8.ofNat c.toNat ∈ String.utf8EncodeChar d ↔ d = c := by
  constructor
  · intro hmem
    rcases Nat.lt_or_ge d.toNat 128 with hd | hd
    · rw [utf8EncodeChar_of_lt hd, List.mem_singleton] at hmem
      have hcode := congrArg UInt8.toNat hmem
      rw [toNat_ofNat (by omega), toNat_ofNat (by omega)] at hcode
      exact Char.toNat_inj.mp hcode.symm
    · have hle := forall_mem_utf8EncodeChar_le hd _ hmem
      rw [toNat_ofNat (by omega)] at hle
      omega
  · rintro rfl
    simp [utf8EncodeChar_of_lt h]

theorem mem_encode_iff (h : c.toNat < 128) : UInt8.ofNat c.toNat ∈ encode text ↔ c ∈ text := by
  simp [encode, List.mem_flatMap, mem_utf8EncodeChar_iff h]

theorem getLast?_encode_iff (h : c.toNat < 128) :
    (encode text).getLast? = some (UInt8.ofNat c.toNat) ↔ text.getLast? = some c := by
  rcases List.eq_nil_or_concat text with rfl | ⟨before, d, rfl⟩
  · simp
  · have hform : encode (before.concat d) = encode before ++ String.utf8EncodeChar d := by
      simp [encode]
    rw [hform, List.getLast?_append, List.getLast?_eq_some_getLast String.utf8EncodeChar_ne_nil,
      Option.some_or, Option.some_inj, List.concat_eq_append, List.getLast?_concat, Option.some_inj]
    constructor
    · intro hlast
      exact (mem_utf8EncodeChar_iff h).mp (hlast ▸ List.getLast_mem _)
    · rintro rfl
      simp [utf8EncodeChar_of_lt h]

end Ascii

section Forms

variable {a b c d : UInt8} {x : Char}

theorem ofNat_eq {n : Nat} (h : n = a.toNat) : UInt8.ofNat n = a := by
  rw [h, UInt8.ofNat_toNat]

theorem toNat_div_of_isContinuation (h : isContinuation b = true) : b.toNat / 64 = 2 :=
  of_decide_eq_true h

theorem utf8EncodeChar_of_oneByte? (h : oneByte? a = some x) : String.utf8EncodeChar x = [a] := by
  obtain ⟨ha, hcode, -⟩ := of_scalar? h
  unfold String.utf8EncodeChar
  rw [Char.toNat_val, if_pos (by omega), ofNat_eq hcode]

theorem utf8EncodeChar_of_twoBytes? (h : twoBytes? a b = some x) :
    String.utf8EncodeChar x = [a, b] := by
  obtain ⟨⟨ha, hb⟩, hcode, hsize⟩ := of_scalar? h
  have hb := toNat_div_of_isContinuation hb
  rw [utf8Size_eq] at hsize
  have h : 127 < x.toNat ∧ x.toNat ≤ 2047 := by split_ifs at hsize <;> omega
  unfold String.utf8EncodeChar
  rw [Char.toNat_val, if_neg (by omega), if_pos h.2, ofNat_eq (a := a) (by omega),
    ofNat_eq (a := b) (by omega)]

theorem utf8EncodeChar_of_threeBytes? (h : threeBytes? a b c = some x) :
    String.utf8EncodeChar x = [a, b, c] := by
  obtain ⟨⟨ha, hb, hc⟩, hcode, hsize⟩ := of_scalar? h
  have hb := toNat_div_of_isContinuation hb
  have hc := toNat_div_of_isContinuation hc
  rw [utf8Size_eq] at hsize
  have h : 2047 < x.toNat ∧ x.toNat ≤ 65535 := by split_ifs at hsize <;> omega
  unfold String.utf8EncodeChar
  rw [Char.toNat_val, if_neg (by omega), if_neg (by omega), if_pos h.2, ofNat_eq (a := a) (by omega),
    ofNat_eq (a := b) (by omega), ofNat_eq (a := c) (by omega)]

theorem utf8EncodeChar_of_fourBytes? (h : fourBytes? a b c d = some x) :
    String.utf8EncodeChar x = [a, b, c, d] := by
  obtain ⟨⟨ha, hb, hc, hd⟩, hcode, hsize⟩ := of_scalar? h
  have hb := toNat_div_of_isContinuation hb
  have hc := toNat_div_of_isContinuation hc
  have hd := toNat_div_of_isContinuation hd
  rw [utf8Size_eq] at hsize
  have h : 65535 < x.toNat := by split_ifs at hsize <;> omega
  unfold String.utf8EncodeChar
  rw [Char.toNat_val, if_neg (by omega), if_neg (by omega), if_neg (by omega), ofNat_eq (a := a) (by omega),
    ofNat_eq (a := b) (by omega), ofNat_eq (a := c) (by omega), ofNat_eq (a := d) (by omega)]

end Forms

/-- Decoding loses no byte: what is not read as text is the rest. -/
theorem encode_decode (bytes : List UInt8) :
    encode (decode bytes).1 ++ (decode bytes).2 = bytes := by
  fun_induction decode bytes with
  | case2 a r x hx ih => simp [utf8EncodeChar_of_oneByte? hx, ih]
  | case4 a _ b r x hx ih => simp [utf8EncodeChar_of_twoBytes? hx, ih]
  | case6 a _ b _ c r x hx ih => simp [utf8EncodeChar_of_threeBytes? hx, ih]
  | case8 a _ b _ c _ d r x hx ih => simp [utf8EncodeChar_of_fourBytes? hx, ih]
  | _ => simp

theorem byteLength_decode (bytes : List UInt8) :
    byteLength (decode bytes).1 + (decode bytes).2.length = bytes.length := by
  have h := congrArg List.length (encode_decode bytes)
  rwa [List.length_append, length_encode] at h

/-- The bytes up to number `n` are the form of a text, and no longer part of them from the start is. -/
def IsLongestForm (bytes : List UInt8) (n : Nat) : Prop :=
  (∃ text rest, bytes = encode text ++ rest ∧ (encode text).length = n) ∧
    ∀ text rest, bytes = encode text ++ rest → (encode text).length ≤ n

theorem isLongestForm_decode (bytes : List UInt8) :
    IsLongestForm bytes (decode bytes).1.byteLength := by
  constructor
  · exact ⟨_, _, (encode_decode bytes).symm, length_encode _⟩
  · rintro text rest rfl
    rw [length_encode, decode_encode_append, byteLength_append]
    exact Nat.le_add_right _ _

/-- Only a text leaves no rest. -/
theorem decode_rest_ne_nil {bytes : List UInt8} (h : ∀ text, bytes ≠ encode text) :
    (decode bytes).2 ≠ [] := by
  intro hrest
  apply h (decode bytes).1
  rw [← List.append_nil (encode _), ← hrest, encode_decode]

end LineFill.Text
