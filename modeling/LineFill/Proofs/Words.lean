import Mathlib.Data.List.TakeWhile
import LineFill.Text.Blank

/-!
Words as they are typed: with blanks around them, and in letters of either case. A text is cut where a
run of characters ends.
-/
namespace LineFill.Text

/-- A run of characters with `p` ends before the text. -/
def Stops (p : Char → Bool) (text : Text) : Prop := ∀ c, text.head? = some c → p c = false

/-- The text without the blanks around it. -/
structure Trimmed (text inner : Text) : Prop where
  blanks : ∃ before after, text = before ++ (inner ++ after) ∧ ∀ c ∈ before ++ after, isBlank c
  first : inner.Stops isBlank
  last : Stops isBlank inner.reverse

/-- A word in letters of either case. -/
def Spells (text : Text) (word : String) : Prop := text.map Char.toLower = word.toList

section Run

variable {p : Char → Bool} {run rest : Text}

theorem exists_run (p : Char → Bool) (text : Text) :
    ∃ run rest, text = run ++ rest ∧ (∀ c ∈ run, p c) ∧ rest.Stops p := by
  refine ⟨text.takeWhile p, text.dropWhile p, ?_, ?_, ?_⟩
  · rw [List.takeWhile_append_dropWhile]
  · exact fun c => List.mem_takeWhile_imp
  · intro c hc
    simpa [hc] using List.head?_dropWhile_not p text

theorem dropWhile_run (h : ∀ c ∈ run, p c) (hrest : rest.Stops p) :
    (run ++ rest).dropWhile p = rest := by
  rw [List.dropWhile_append_of_pos h]
  cases rest with
  | nil => rfl
  | cons c rest => rw [List.dropWhile_cons_of_neg (by simp [hrest c rfl])]

theorem takeWhile_run (h : ∀ c ∈ run, p c) (hrest : rest.Stops p) :
    (run ++ rest).takeWhile p = run := by
  rw [List.takeWhile_append_of_pos h]
  cases rest with
  | nil => simp
  | cons c rest => simp [hrest c rfl]

end Run

section Trim

variable {text inner : Text} {word : String}

theorem exists_trimmed (text : Text) : ∃ inner, Trimmed text inner := by
  obtain ⟨before, rest, rfl, hbefore, hrest⟩ := exists_run isBlank text
  obtain ⟨after, inner, hreverse, hafter, hinner⟩ := exists_run isBlank rest.reverse
  obtain rfl : rest = inner.reverse ++ after.reverse := by
    rw [← List.reverse_append, ← hreverse, List.reverse_reverse]
  refine ⟨inner.reverse, ⟨before, after.reverse, rfl, ?_⟩, ?_, by rwa [List.reverse_reverse]⟩
  · rw [List.forall_mem_append]
    exact ⟨hbefore, by simpa using hafter⟩
  · intro c hc
    exact hrest c (by rw [List.head?_append, hc, Option.some_or])

theorem trim_of_trimmed (h : Trimmed text inner) : text.trim = inner := by
  obtain ⟨before, after, rfl, hblanks⟩ := h.blanks
  obtain ⟨hbefore, hafter⟩ := List.forall_mem_append.mp hblanks
  have hreverse : ∀ c ∈ after.reverse, isBlank c := by simpa using hafter
  have hend : trimEnd (inner ++ after) = inner := by
    rw [trimEnd, List.reverse_append, dropWhile_run hreverse h.last, List.reverse_reverse]
  cases inner with
  | nil =>
    -- All of the text is blank, and what is left of it begins with no character.
    have hall : ∀ c ∈ before ++ ([] ++ after), isBlank c := by simpa using hblanks
    rw [trim, trimStart, List.dropWhile_eq_nil_iff.mpr hall]
    rfl
  | cons c inner =>
    have hrest : Stops isBlank (c :: inner ++ after) := fun first hfirst => h.first first hfirst
    rw [trim, trimStart, dropWhile_run hbefore hrest, hend]

theorem trim_eq_iff : text.trim = inner ↔ Trimmed text inner := by
  refine ⟨?_, trim_of_trimmed⟩
  rintro rfl
  obtain ⟨inner, h⟩ := exists_trimmed text
  rwa [trim_of_trimmed h]

theorem ofList_lowerAscii_eq_iff : String.ofList text.lowerAscii = word ↔ text.Spells word := by
  rw [Spells, ← String.toList_inj, String.toList_ofList, lowerAscii]

theorem keyword_mem_iff {words : List String} :
    text.keyword ∈ words ↔ ∃ word ∈ words, text.trim.Spells word := by
  simp only [← ofList_lowerAscii_eq_iff, exists_eq_right', keyword]

end Trim

end LineFill.Text
