import LineFill.Proofs.ChunkParts
import LineFill.Proofs.Segmentation
import LineFill.Proofs.Unbroken

/-!
The line breaks of Unicode as offsets. The walk reports the end of every piece once and in order, so
its offsets are canonical as they are: nothing is dropped, each piece is measured as one chunk, and
only the empty text cannot be broken.
-/
namespace LineFill

namespace Filler

variable {K : Type} [Score K] {filler : Filler K} {text : Text}

theorem IsUnicode.breaks_eq_none_iff (h : filler.IsUnicode) :
    filler.breaks text = .ok none ↔ text = [] ∨ filler.PassesThrough text := by
  rw [Filler.breaks_eq_none_iff, h.length_segmenter_lt]

end Filler

namespace Break

/-- The offsets increase strictly from the start of the text to its end and lie on edges. Putting them
in canonical form changes nothing and drops nothing, they delimit one chunk each, and a text that
offers none but its start is empty. -/
theorem offsets_need_no_change (text : Text) :
    Offsets.Canonical text (offsets text) ∧ (text = [] → offsets text = [0]) ∧
      (text ≠ [] → 2 ≤ (offsets text).length) ∧
      Offsets.canonical text (offsets text) = offsets text ∧
      Offsets.droppedCount text (offsets text) = 0 ∧
      (∀ (classes : CharClasses) (metric : Metric),
        (∀ c ∈ text, classes.isHardBreak c = false) →
          ∃ chunks, Chunk.ofOffsets classes metric text (offsets text) = .ok chunks ∧
            chunks.length + 1 = (offsets text).length ∧
            chunks.map (fun chunk => (chunk.start, chunk.stop)) =
              (offsets text).zip (offsets text).tail) ∧
      ∀ settings stock, Filler.unicode settings = .ok stock →
        (stock.layout text = .unbreakable ↔ text = []) ∧
          (stock.breaks text = .ok none ↔ text = [] ∨ stock.PassesThrough text) := by
  have h := canonical_offsets text
  refine ⟨h, ?_, two_le_length_offsets, h.canonical_eq_self, droppedCount_offsets text, ?_, ?_⟩
  · rintro rfl
    rfl
  · intro classes metric soft
    have hpos : 0 < (offsets text).length := Nat.succ_pos _
    have hlen := Chunk.length_ofPieces_pieces classes metric h
    exact ⟨_, Chunk.ofOffsets_eq_ofPieces h soft, by omega,
      Chunk.map_start_stop_ofPieces_pieces classes metric h⟩
  · intro settings stock hstock
    have hunicode := Filler.isUnicode_of_unicode hstock
    exact ⟨(Filler.layout_eq_unbreakable_iff stock text).trans hunicode.length_segmenter_lt,
      hunicode.breaks_eq_none_iff⟩

/-- The joiner holds back the break before the ideograph. -/
theorem offsets_need_no_change_joined :
    "a\u200D日 b".toList ≠ [] ∧ 2 ≤ (offsets "a\u200D日 b".toList).length ∧
      (∀ c ∈ "a\u200D日 b".toList, CharClasses.unicode.isHardBreak c = false) ∧
      (∃ chunks, Chunk.ofOffsets .unicode .cells "a\u200D日 b".toList
          (offsets "a\u200D日 b".toList) = .ok chunks ∧
        chunks.map (fun chunk => (chunk.start, chunk.stop)) = [(0, 8), (8, 9)]) ∧
      offsets [] = [0] ∧
      ∃ stock, Filler.unicode ⟨5, 0, none, .fail, .codepoints⟩ = .ok stock ∧
        stock.layout "a\u200D日 b".toList ≠ .unbreakable ∧ stock.breaks [] = .ok none := by
  have hne : "a\u200D日 b".toList ≠ [] := by decide
  have soft : ∀ c ∈ "a\u200D日 b".toList, CharClasses.unicode.isHardBreak c = false := by
    simp [CharClasses.unicode, isHardBreak]
  have hoffsets : offsets "a\u200D日 b".toList = [0, 8, 9] := by decide +kernel
  have hstock := Filler.unicode_exponent_zero (show 0 < 5 by decide)
  obtain ⟨-, -, htwo, -, -, hchunks, hlayout⟩ := offsets_need_no_change "a\u200D日 b".toList
  obtain ⟨-, hzero, -, -, -, -, hnil⟩ := offsets_need_no_change []
  obtain ⟨chunks, hmeasured, -, hspans⟩ := hchunks .unicode .cells soft
  rw [hoffsets] at hspans
  exact ⟨hne, htwo hne, soft, ⟨chunks, hmeasured, hspans⟩, hzero rfl, _, hstock,
    mt (hlayout _ _ hstock).1.mp hne, (hnil _ _ hstock).2.mpr (Or.inl rfl)⟩

end Break

end LineFill
