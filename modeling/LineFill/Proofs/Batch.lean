import Mathlib.Tactic.Choose
import LineFill.Proofs.HardBreaks

/-!
Batches. Each item is filled as it would be alone, absent and malformed ones included; the first item
that fails leaves no result, and its failure counts the items before it.
-/
namespace LineFill

namespace Failure

/-- The failure of an element in a batch that has `n` more elements before it. -/
def after (n : Nat) : Failure → Failure
  | .embeddedLineBreak element found => .embeddedLineBreak (n + element) found
  | failure => failure

@[simp] theorem after_embeddedLineBreak (n element : Nat) (found : HardBreak) :
    after n (.embeddedLineBreak element found) = .embeddedLineBreak (n + element) found := rfl

@[simp] theorem after_zero (failure : Failure) : failure.after 0 = failure := by
  cases failure <;> simp [after]

theorem after_after (m n : Nat) (failure : Failure) :
    (failure.after m).after n = failure.after (n + m) := by
  cases failure <;> simp [after, Nat.add_assoc]

end Failure

namespace Filler

variable {K : Type}

/-- Bytes that are the form of no text cannot be filled. -/
theorem read_malformed [Score K] (filler : Filler K) {bytes : List UInt8}
    (h : ∀ text, bytes ≠ Text.encode text) :
    filler.read (some bytes) = .malformed bytes (Text.decode bytes).1.byteLength := by
  have hrest := Text.decode_rest_ne_nil h
  unfold read
  cases hdecode : Text.decode bytes with
  | mk text rest =>
    rw [hdecode] at hrest
    cases rest with
    | nil => exact absurd rfl hrest
    | cons b rest => simp only [hdecode]

/-- Bytes are the form of a text or of none. -/
theorem exists_encode_or (bytes : List UInt8) :
    (∃ text, bytes = Text.encode text) ∨ ∀ text, bytes ≠ Text.encode text := by
  by_cases h : ∃ text, bytes = Text.encode text
  · exact Or.inl h
  · exact Or.inr (not_exists.mp h)

/-- By policy the text is kept as it is for its hard break. -/
structure PassesThrough (filler : Filler K) (text : Text) : Prop where
  policy : filler.policy = .passThrough
  offered : 2 ≤ (filler.segmenter text).length
  hard : ∃ c ∈ text, filler.classes.isHardBreak c = true

section Numbers

variable (filler : Filler K) (n number : Nat)

theorem failure?_add (layout : Layout K) :
    filler.failure? (n + number) layout = (filler.failure? number layout).map (.after n) := by
  cases layout with
  | broken found =>
    unfold failure?
    cases filler.policy <;> rfl
  | _ => rfl

theorem fillElement_add (element : Element K) :
    filler.fillElement (n + number) element =
      (filler.fillElement number element).mapError (.after n) := by
  cases element with
  | text bytes text layout =>
    simp only [fillElement, accept, failure?_add]
    cases filler.failure? number layout <;> rfl
  | _ => rfl

theorem fillElements_add (elements : List (Element K)) :
    filler.fillElements (n + number) elements =
      (filler.fillElements number elements).mapError (.after n) := by
  induction elements generalizing number with
  | nil => rfl
  | cons element rest ih =>
    rw [fillElements, fillElements, fillElement_add, Nat.add_assoc, ih]
    cases filler.fillElement number element with
    | error failure => rfl
    | ok filled => cases filler.fillElements (number + 1) rest <;> rfl

end Numbers

theorem eq_embeddedLineBreak_of_accept {filler : Filler K} {number : Nat} {layout : Layout K}
    {failure : Failure} (h : filler.accept number layout = .error failure) :
    ∃ found, layout = .broken found ∧ failure = .embeddedLineBreak number found := by
  cases layout with
  | broken found =>
    cases hpolicy : filler.policy with
    | fail =>
      rw [accept_broken_of_fail hpolicy] at h
      exact ⟨found, rfl, (Except.error.inj h).symm⟩
    | passThrough =>
      rw [accept_broken_of_passThrough hpolicy] at h
      cases h
  | _ => cases h

/-- Nothing but a hard break keeps an element from being filled. -/
theorem eq_embeddedLineBreak_of_fillElement {filler : Filler K} {number : Nat}
    {element : Element K} {failure : Failure}
    (h : filler.fillElement number element = .error failure) :
    ∃ found, failure = .embeddedLineBreak number found := by
  cases element with
  | text bytes text layout =>
    rw [fillElement] at h
    cases haccept : filler.accept number layout with
    | error failure' =>
      rw [haccept] at h
      obtain rfl := Except.error.inj h
      obtain ⟨found, -, hfound⟩ := eq_embeddedLineBreak_of_accept haccept
      exact ⟨found, hfound⟩
    | ok accepted =>
      rw [haccept] at h
      cases h
  | _ => cases h

variable [Score K] {filler : Filler K} {items : List (Option (List UInt8))}

theorem fillBatch_cons (filler : Filler K) (item : Option (List UInt8))
    (items : List (Option (List UInt8))) :
    filler.fillBatch (item :: items) =
      match filler.fillItem 0 item, filler.fillBatch items with
      | .error failure, _ => .error failure
      | .ok filled, .ok results => .ok (filled :: results)
      | .ok _, .error failure => .error (failure.after 1) := by
  unfold fillBatch fillItem
  rw [List.map_cons, fillElements, fillElements_add filler 1 0]
  cases filler.fillElement 0 (filler.read item) with
  | error failure => rfl
  | ok filled => cases filler.fillElements 0 (items.map filler.read) <;> rfl

/-- A batch has a result if every item has one. -/
theorem fillBatch_eq_map {results : Option (List UInt8) → Filled}
    (h : ∀ item ∈ items, filler.fillItem 0 item = .ok (results item)) :
    filler.fillBatch items = .ok (items.map results) := by
  induction items with
  | nil => rfl
  | cons item items ih =>
    rw [fillBatch_cons, h item List.mem_cons_self, ih fun item hitem => h item (by simp [hitem])]
    rfl

/-- An absent item always has a result. -/
theorem forall_fillItem_iff :
    (∀ item ∈ items, ∃ filled, filler.fillItem 0 item = .ok filled) ↔
      ∀ bytes, some bytes ∈ items → ∃ filled, filler.fillBytes bytes = .ok filled := by
  constructor
  · intro h bytes hbytes
    exact h (some bytes) hbytes
  · intro h item hitem
    cases item with
    | none => exact ⟨.absent, rfl⟩
    | some bytes => exact h bytes hitem

/-- The first item that fails decides the failure of the batch. -/
theorem fillBatch_eq_error {before : List (Option (List UInt8))} {item : Option (List UInt8)}
    {failure : Failure} (after : List (Option (List UInt8)))
    (hbefore : ∀ item ∈ before, ∃ filled, filler.fillItem 0 item = .ok filled)
    (h : filler.fillItem 0 item = .error failure) :
    filler.fillBatch (before ++ item :: after) = .error (failure.after before.length) := by
  induction before with
  | nil => rw [List.nil_append, fillBatch_cons, h, List.length_nil, Failure.after_zero]
  | cons first before ih =>
    obtain ⟨filled, hfirst⟩ := hbefore first List.mem_cons_self
    have hrest := ih fun item hitem => hbefore item (List.mem_cons_of_mem _ hitem)
    rw [List.cons_append, fillBatch_cons, hfirst, hrest, List.length_cons, Nat.add_comm]
    simp [Failure.after_after]

/-- A batch that does not succeed has a first item that fails. -/
theorem exists_first_failure (h : ¬ ∀ item ∈ items, ∃ filled, filler.fillItem 0 item = .ok filled) :
    ∃ before item after found, items = before ++ item :: after ∧
      (∀ item ∈ before, ∃ filled, filler.fillItem 0 item = .ok filled) ∧
      filler.fillItem 0 item = .error (.embeddedLineBreak 0 found) := by
  induction items with
  | nil => simp at h
  | cons item items ih =>
    cases hitem : filler.fillItem 0 item with
    | error failure =>
      obtain ⟨found, rfl⟩ := eq_embeddedLineBreak_of_fillElement hitem
      exact ⟨[], item, items, found, rfl, by simp, hitem⟩
    | ok filled =>
      have hrest : ¬ ∀ item ∈ items, ∃ filled, filler.fillItem 0 item = .ok filled := by
        simpa [hitem] using h
      obtain ⟨before, failing, after, found, rfl, hbefore, hfailing⟩ := ih hrest
      refine ⟨item :: before, failing, after, found, rfl, ?_, hfailing⟩
      simpa [hitem] using hbefore

theorem fillBatch_append (filler : Filler K) (front back : List (Option (List UInt8))) :
    filler.fillBatch (front ++ back) =
      match filler.fillBatch front, filler.fillBatch back with
      | .error failure, _ => .error failure
      | .ok results, .ok more => .ok (results ++ more)
      | .ok _, .error failure => .error (failure.after front.length) := by
  induction front with
  | nil =>
    have hnil : filler.fillBatch [] = .ok [] := rfl
    rw [List.nil_append, hnil]
    cases filler.fillBatch back <;> simp
  | cons item front ih =>
    rw [List.cons_append, fillBatch_cons, fillBatch_cons, ih]
    cases filler.fillItem 0 item with
    | error failure => rfl
    | ok filled =>
      cases filler.fillBatch front with
      | error failure => rfl
      | ok results =>
        cases filler.fillBatch back with
        -- The failure is counted on by the rest of the front and then by its first item.
        | error failure => simp [Failure.after_after, Nat.add_comm]
        | ok more => rfl

theorem fillBytes_malformed {bytes : List UInt8} (h : ∀ text, bytes ≠ Text.encode text) :
    filler.fillBytes bytes = .ok (.verbatim bytes) := by
  unfold fillBytes fillItem
  rw [read_malformed filler h]
  rfl

theorem fillBytes_of_passesThrough {text : Text} (h : filler.PassesThrough text) :
    filler.fillBytes text.encode = .ok (.verbatim text.encode) := by
  obtain ⟨found, first⟩ := filler.classes.exists_isFirstBreak h.hard
  exact (passes_of_isFirstBreak h.offered first h.policy).2.2

/-- Bytes are filled as their text, unless that is passed through. -/
theorem fillBytes_encode {text : Text} (h : ¬ filler.PassesThrough text) :
    filler.fillBytes text.encode = (filler.fill text).map .lines := by
  unfold fillBytes fill
  rw [fillItem_encode]
  by_cases laid : filler.LaysOut text
  · rw [layout_eq_chunked laid]
    rfl
  · rcases Nat.lt_or_ge (filler.segmenter text).length 2 with hraw | hraw
    · rw [layout_eq_unbreakable hraw]
      rfl
    · have hard : ∃ c ∈ text, filler.classes.isHardBreak c = true := by
        by_contra hsoft
        exact laid ⟨hraw, by simpa using hsoft⟩
      obtain ⟨found, first⟩ := filler.classes.exists_isFirstBreak hard
      have hpolicy : filler.policy = .fail := by
        cases hpolicy : filler.policy with
        | fail => rfl
        | passThrough => exact absurd ⟨hpolicy, hraw, hard⟩ h
      rw [layout_eq_broken hraw first, accept_broken_of_fail hpolicy]
      rfl

/-- Every item of a batch is filled by itself: the results stand in the order of the items, and the
first item that fails leaves no result but its failure, with its number. -/
theorem fillBatch_itemwise (filler : Filler K) (items : List (Option (List UInt8))) :
    ((∀ bytes, some bytes ∈ items → ∃ filled, filler.fillBytes bytes = .ok filled) →
      ∃ results : List Filled, filler.fillBatch items = .ok results ∧
        results.length = items.length ∧
        ∀ i : Nat, (items[i]? = some none → results[i]? = some Filled.absent) ∧
          ∀ bytes, items[i]? = some (some bytes) →
            ∃ filled, filler.fillBytes bytes = .ok filled ∧ results[i]? = some filled) ∧
      (¬ (∀ bytes, some bytes ∈ items → ∃ filled, filler.fillBytes bytes = .ok filled) →
        ∃ (i : Nat) (bytes : List UInt8) (found : HardBreak), items[i]? = some (some bytes) ∧
          (∀ j < i, ∀ earlier, items[j]? = some (some earlier) →
            ∃ filled, filler.fillBytes earlier = .ok filled) ∧
          filler.fillBytes bytes = .error (.embeddedLineBreak 0 found) ∧
          filler.fillBatch items = .error (.embeddedLineBreak i found)) ∧
      (∀ bytes, (∀ text, bytes ≠ Text.encode text) →
        filler.fillBytes bytes = .ok (.verbatim bytes)) ∧
      (∀ text, filler.PassesThrough text →
        filler.fillBytes text.encode = .ok (.verbatim text.encode)) ∧
      (∀ text, ¬ filler.PassesThrough text →
        filler.fillBytes text.encode = (filler.fill text).map .lines) ∧
      ∀ front back, filler.fillBatch (front ++ back) =
        match filler.fillBatch front, filler.fillBatch back with
        | .error failure, _ => .error failure
        | .ok results, .ok more => .ok (results ++ more)
        | .ok _, .error failure => .error (failure.after front.length) := by
  refine ⟨?_, ?_, fun _ => fillBytes_malformed, fun _ => fillBytes_of_passesThrough,
    fun _ => fillBytes_encode, fillBatch_append filler⟩
  · intro hitems
    have : Nonempty Filled := ⟨.absent⟩
    choose! result hresult using forall_fillItem_iff.mpr hitems
    refine ⟨items.map result, fillBatch_eq_map hresult, by simp, ?_⟩
    intro i
    constructor
    · intro hitem
      have habsent := hresult none (List.mem_of_getElem? hitem)
      simp [hitem, ← Except.ok.inj habsent]
    · intro bytes hitem
      exact ⟨_, hresult (some bytes) (List.mem_of_getElem? hitem), by simp [hitem]⟩
  · intro hitems
    rw [← forall_fillItem_iff] at hitems
    obtain ⟨before, item, after, found, rfl, hbefore, hfails⟩ := exists_first_failure hitems
    have hbatch := fillBatch_eq_error after hbefore hfails
    cases item with
    | none => cases hfails
    | some bytes =>
      refine ⟨before.length, bytes, found, by simp, ?_, hfails, by simpa using hbatch⟩
      intro j hj earlier hearlier
      rw [List.getElem?_append_left hj] at hearlier
      exact hbefore (some earlier) (List.mem_of_getElem? hearlier)

/-- An absent item, one that is malformed, and two with a hard break of which the first counts. -/
theorem fillBatch_itemwise_tildes :
    ∃ (i : Nat) (bytes : List UInt8) (found : HardBreak),
      [none, some [0xFF, 0x7E], some (Text.encode "日 a~b~".toList), some [0x7E]][i]? =
        some (some bytes) ∧
      (tildes .fail).fillBytes bytes = .error (.embeddedLineBreak 0 found) ∧
      (tildes .fail).fillBatch
        [none, some [0xFF, 0x7E], some (Text.encode "日 a~b~".toList), some [0x7E]] =
          .error (.embeddedLineBreak i found) ∧
      i = 2 ∧ found = ⟨5, '~'⟩ := by
  have hbatch : (tildes .fail).fillBatch
      [none, some [0xFF, 0x7E], some (Text.encode "日 a~b~".toList), some [0x7E]] =
        .error (.embeddedLineBreak 2 ⟨5, '~'⟩) := by decide +kernel
  have hfails : ¬ ∀ bytes, some bytes ∈
      [none, some [0xFF, 0x7E], some (Text.encode "日 a~b~".toList), some [0x7E]] →
        ∃ filled, (tildes .fail).fillBytes bytes = .ok filled := by
    intro h
    have htilde : (tildes .fail).fillBytes [0x7E] = .error (.embeddedLineBreak 0 ⟨0, '~'⟩) := by
      decide +kernel
    obtain ⟨filled, hfilled⟩ := h [0x7E] (by simp)
    rw [htilde] at hfilled
    cases hfilled
  obtain ⟨i, bytes, found, hitem, -, hbytes, hsame⟩ := (fillBatch_itemwise (tildes .fail)
    [none, some [0xFF, 0x7E], some (Text.encode "日 a~b~".toList), some [0x7E]]).2.1 hfails
  have hfound := hbatch.symm.trans hsame
  simp only [Except.error.injEq, Failure.embeddedLineBreak.injEq] at hfound
  exact ⟨i, bytes, found, hitem, hbytes, hsame, hfound.1.symm, hfound.2.symm⟩

end Filler

end LineFill
