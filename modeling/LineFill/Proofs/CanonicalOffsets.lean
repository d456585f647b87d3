import LineFill.Proofs.Pieces

/-!
The canonical form of break offsets. Two offsets or more, however many of them are wrong, keep every
edge that lies past the edges named before it, and nothing is changed in a list that is canonical
already.
-/
namespace LineFill.Offsets

/-- The list names the offset, which is an edge past all edges named before it. -/
def Advances (text : Text) (raw : List Nat) (offset : Nat) : Prop :=
  ∃ before after, raw = before ++ offset :: after ∧ text.isEdge offset = true ∧
    ∀ earlier ∈ before, text.isEdge earlier = true → earlier < offset

variable {text : Text} {raw : List Nat}

theorem not_advances_nil (text : Text) (offset : Nat) : ¬ Advances text [] offset := by
  rintro ⟨before, after, hraw, -⟩
  simp at hraw

/-- The first offset advances if it is an edge, and a later one must also be past it then. -/
theorem advances_cons_iff {first offset : Nat} :
    Advances text (first :: raw) offset ↔
      (first = offset ∧ text.isEdge first = true) ∨
        (Advances text raw offset ∧ (text.isEdge first = true → first < offset)) := by
  constructor
  · rintro ⟨before, after, hraw, hedge, hpast⟩
    cases before with
    | nil =>
      obtain ⟨rfl, rfl⟩ := List.cons.inj hraw
      exact Or.inl ⟨rfl, hedge⟩
    | cons earlier before =>
      obtain ⟨rfl, rfl⟩ := List.cons.inj hraw
      refine Or.inr ⟨⟨before, after, rfl, hedge, ?_⟩, hpast first List.mem_cons_self⟩
      intro earlier hearlier
      exact hpast earlier (List.mem_cons_of_mem first hearlier)
  · rintro (⟨rfl, hedge⟩ | ⟨⟨before, after, rfl, hedge, hpast⟩, hfirst⟩)
    · exact ⟨[], raw, rfl, hedge, by simp⟩
    · refine ⟨first :: before, after, rfl, hedge, ?_⟩
      intro earlier hearlier
      rcases List.mem_cons.mp hearlier with rfl | hearlier
      · exact hfirst
      · exact hpast earlier hearlier

theorem Advances.mem {offset : Nat} (h : Advances text raw offset) : offset ∈ raw := by
  obtain ⟨before, after, rfl, -⟩ := h
  simp

/-- Of increasing offsets, every edge advances. -/
theorem advances_iff_of_pairwise (h : raw.Pairwise (· < ·)) {offset : Nat} :
    Advances text raw offset ↔ offset ∈ raw ∧ text.isEdge offset = true := by
  constructor
  · intro hadvances
    refine ⟨hadvances.mem, ?_⟩
    obtain ⟨before, after, -, hedge, -⟩ := hadvances
    exact hedge
  · rintro ⟨hmem, hedge⟩
    obtain ⟨before, after, rfl⟩ := List.append_of_mem hmem
    refine ⟨before, after, rfl, hedge, ?_⟩
    intro earlier hearlier _
    exact (List.pairwise_append.mp h).2.2 earlier hearlier offset List.mem_cons_self

section Bound

variable {first last offset : Nat}

/-- An edge past the bound becomes the bound. -/
theorem advances_past_kept (hlt : last < first) (hedge : text.isEdge first = true) :
    (last < offset ∧ Advances text (first :: raw) offset) ↔
      offset = first ∨ (first < offset ∧ Advances text raw offset) := by
  rw [advances_cons_iff]
  constructor
  · rintro ⟨-, ⟨rfl, -⟩ | ⟨hadvances, hpast⟩⟩
    · exact Or.inl rfl
    · exact Or.inr ⟨hpast hedge, hadvances⟩
  · rintro (rfl | ⟨hpast, hadvances⟩)
    · exact ⟨hlt, Or.inl ⟨rfl, hedge⟩⟩
    · exact ⟨Nat.lt_trans hlt hpast, Or.inr ⟨hadvances, fun _ => hpast⟩⟩

/-- Any other offset leaves the bound as it is. -/
theorem advances_past_dropped (hle : text.isEdge first = true → first ≤ last) :
    (last < offset ∧ Advances text (first :: raw) offset) ↔
      last < offset ∧ Advances text raw offset := by
  rw [advances_cons_iff]
  constructor
  · rintro ⟨hpast, ⟨rfl, hedge⟩ | ⟨hadvances, -⟩⟩
    · exact absurd (hle hedge) (Nat.not_le.mpr hpast)
    · exact ⟨hpast, hadvances⟩
  · rintro ⟨hpast, hadvances⟩
    refine ⟨hpast, Or.inr ⟨hadvances, ?_⟩⟩
    intro hedge
    exact Nat.lt_of_le_of_lt (hle hedge) hpast

/-- The last offset that was kept is the bound for the rest of the list. -/
theorem mem_cons_keep_iff :
    offset ∈ last :: keep text last raw ↔
      offset = last ∨ offset = text.byteLength ∨ (last < offset ∧ Advances text raw offset) := by
  induction raw generalizing last with
  | nil =>
    have hnone := not_advances_nil text offset
    rw [keep]
    split
    · next hend => simp [hnone, hend]
    · simp [hnone]
  | cons first rest ih =>
    rw [keep]
    split
    · next hkept =>
      simp only [continues, Bool.and_eq_true, decide_eq_true_eq] at hkept
      rw [List.mem_cons, ih, advances_past_kept hkept.1 hkept.2]
      exact or_congr_right or_left_comm
    · next hdropped =>
      have hle : text.isEdge first = true → first ≤ last := by
        intro hedge
        simpa [continues, hedge] using hdropped
      rw [ih, advances_past_dropped hle]

end Bound

theorem mem_canonical_iff (h : 2 ≤ raw.length) {offset : Nat} :
    offset ∈ canonical text raw ↔
      offset = 0 ∨ offset = text.byteLength ∨ Advances text raw offset := by
  rw [canonical, if_neg (Nat.not_lt.mpr h), mem_cons_keep_iff]
  by_cases hzero : offset = 0
  · simp [hzero]
  · simp [hzero, Nat.pos_of_ne_zero hzero]

theorem Canonical.canonical_eq_self (h : Canonical text raw) : canonical text raw = raw := by
  obtain ⟨hflat, hnil, hstops⟩ := h.pieces
  have hsame := canonical_stops hnil
  rwa [hflat, ← hstops] at hsame

theorem Canonical.droppedCount_eq_zero (h : Canonical text raw) : droppedCount text raw = 0 := by
  obtain ⟨hflat, hnil, hstops⟩ := h.pieces
  have hnone := droppedCount_stops hnil
  rwa [hflat, ← hstops] at hnone

/-- The stops of pieces that are not empty are canonical, as canonical offsets are such stops. -/
theorem canonical_of_pieces {parts : List Text} (hne : [] ∉ parts) :
    Canonical parts.flatten (0 :: Text.stops 0 parts) := by
  cases parts with
  | nil => exact ⟨rfl, rfl, List.pairwise_singleton _ _, by simp [Text.stops]⟩
  | cons part parts =>
    have h : Canonical (part :: parts).flatten
        (canonical (part :: parts).flatten (0 :: Text.stops 0 (part :: parts))) :=
      canonical_of_two_le (by simp)
    rwa [canonical_stops hne] at h

/-- Only the empty text is marked by a single offset. -/
theorem Canonical.length_lt_two_iff (h : Canonical text raw) : raw.length < 2 ↔ text = [] := by
  obtain ⟨hflat, -, hstops⟩ := h.pieces
  constructor
  · intro hlen
    rw [hstops, List.length_cons, Text.length_stops] at hlen
    have hpieces : text.pieces raw = [] := List.length_eq_zero_iff.mp (by omega)
    rw [← hflat, hpieces, List.flatten_nil]
  · rintro rfl
    have hle := h.length_le
    rw [Text.byteLength_nil] at hle
    omega

theorem length_canonical_lt_two_iff (text : Text) (raw : List Nat) :
    (canonical text raw).length < 2 ↔ raw.length < 2 ∨ text = [] := by
  by_cases hraw : raw.length < 2
  · rw [canonical, if_pos hraw]
    exact iff_of_true hraw (Or.inl hraw)
  · rw [(canonical_of_two_le (Nat.not_lt.mp hraw)).length_lt_two_iff]
    exact (or_iff_right hraw).symm

theorem canonical_idempotent (text : Text) (raw : List Nat) :
    canonical text (canonical text raw) = canonical text raw := by
  by_cases hraw : raw.length < 2
  · have hsame : canonical text raw = raw := by rw [canonical, if_pos hraw]
    rw [hsame, hsame]
  · exact (canonical_of_two_le (Nat.not_lt.mp hraw)).canonical_eq_self

/-- Two offsets or more become canonical; besides the start and the end of the text just the edges
stay that advance, which are all edges if the offsets increase. Shorter lists and canonical ones stay
as they are, so doing this twice changes nothing. -/
theorem canonical_keeps_advancing (text : Text) (raw : List Nat) :
    (raw.length < 2 → canonical text raw = raw) ∧
      (2 ≤ raw.length → Canonical text (canonical text raw) ∧
        (∀ offset, offset ∈ canonical text raw ↔
          offset = 0 ∨ offset = text.byteLength ∨ Advances text raw offset) ∧
        (raw.Pairwise (· < ·) → ∀ offset, offset ∈ canonical text raw ↔
          offset = 0 ∨ offset = text.byteLength ∨ (offset ∈ raw ∧ text.isEdge offset = true))) ∧
      (Canonical text raw → canonical text raw = raw ∧ droppedCount text raw = 0) ∧
      canonical text (canonical text raw) = canonical text raw := by
  refine ⟨?_, ?_, ?_, canonical_idempotent text raw⟩
  · intro hraw
    rw [canonical, if_pos hraw]
  · intro hraw
    refine ⟨canonical_of_two_le hraw, fun _ => mem_canonical_iff hraw, ?_⟩
    intro hpair offset
    rw [mem_canonical_iff hraw, advances_iff_of_pairwise hpair]
  · intro h
    exact ⟨h.canonical_eq_self, h.droppedCount_eq_zero⟩

theorem canonical_keeps_advancing_scrambled :
    canonical "é b日x".toList [5] = [5] ∧
      Canonical "é b日x".toList (canonical "é b日x".toList [3, 1, 0, 2, 7, 7, 5, 99]) ∧
      canonical "é b日x".toList [3, 1, 0, 2, 7, 7, 5, 99] = [0, 3, 7, 8] ∧
      Advances "é b日x".toList [3, 1, 0, 2, 7, 7, 5, 99] 7 ∧
      ¬ Advances "é b日x".toList [3, 1, 0, 2, 7, 7, 5, 99] 2 ∧
      [1, 2, 5, 7, 9].Pairwise (· < ·) ∧ 2 ∈ canonical "é b日x".toList [1, 2, 5, 7, 9] ∧
      Canonical "é b日x".toList [0, 3, 7, 8] ∧
      canonical "é b日x".toList [0, 3, 7, 8] = [0, 3, 7, 8] ∧
      canonical [] (canonical [] [0, 4]) = canonical [] [0, 4] := by
  have hform : canonical "é b日x".toList [3, 1, 0, 2, 7, 7, 5, 99] = [0, 3, 7, 8] := by
    decide +kernel
  have hpair : [1, 2, 5, 7, 9].Pairwise (· < ·) := by decide
  obtain ⟨-, hlong, -, -⟩ :=
    canonical_keeps_advancing "é b日x".toList [3, 1, 0, 2, 7, 7, 5, 99]
  obtain ⟨hcanonical, hmem, -⟩ := hlong (by decide)
  obtain ⟨-, -, hincreasing⟩ :=
    (canonical_keeps_advancing "é b日x".toList [1, 2, 5, 7, 9]).2.1 (by decide)
  have hadvances := (hmem 7).mp (by rw [hform]; decide)
  have hbehind := mt (hmem 2).mpr (by rw [hform]; decide)
  have hsame := hcanonical
  rw [hform] at hsame
  refine ⟨(canonical_keeps_advancing _ [5]).1 (by decide), hcanonical, hform, ?_, ?_, hpair, ?_,
    hsame, ((canonical_keeps_advancing _ _).2.2.1 hsame).1,
    (canonical_keeps_advancing [] [0, 4]).2.2.2⟩
  · simpa [Text.byteLength, Char.utf8Size] using hadvances
  · intro h
    exact hbehind (Or.inr (Or.inr h))
  · exact (hincreasing hpair 2).mpr (Or.inr (Or.inr ⟨by decide, by decide +kernel⟩))

end LineFill.Offsets
