import LineFill.Proofs.SettablePoints
import LineFill.Proofs.UnicodeFiller

/-!
Breaks and lines. The breaks of a text are judged without its lines, from the widths of chunks; they
fail as the lines do, and each penalty is that of the line that is cut out of the text.
-/
namespace LineFill

variable {K : Type} [Score K]

theorem length_rowsFrom {α : Type} (items : List α) (first : Nat) (ends : List Nat) :
    (rowsFrom items first ends).length = ends.length := by
  induction ends generalizing first with
  | nil => rfl
  | cons last ends ih => rw [rowsFrom, List.length_cons, ih, List.length_cons]

namespace Chunk

variable {classes : CharClasses} {metric : Metric} {pieces : List Text} {width first last : Nat}

/-- The penalty of some chunks is that of the line of their pieces. -/
theorem linePenalty_ofPieces (exponent : K) (hf : first ≤ last) (hl : last < pieces.length) :
    linePenalty (ofPieces classes metric 0 pieces) width exponent first last =
      penalty (metric.width (classes.lineOf ((pieces.drop first).take (last + 1 - first)))) width
        (((pieces.drop first).take (last + 1 - first)).length = 1) exponent := by
  have hsingle : (first = last) = (((pieces.drop first).take (last + 1 - first)).length = 1) := by
    rw [List.length_take, List.length_drop]
    apply propext
    omega
  unfold linePenalty
  rw [lineWidth_ofPieces classes metric 0 pieces hf hl]
  simp only [hsingle]

/-- Lines that can be set have the penalties of their rows. -/
theorem penaltiesFrom_ofPieces (exponent : K) {stop : Nat} {ends : List Nat}
    (h : Sets (ofPieces classes metric 0 pieces) width first ends stop) :
    penaltiesFrom (ofPieces classes metric 0 pieces) width exponent first ends =
      (rowsFrom pieces first ends).map fun row =>
        penalty (metric.width (classes.lineOf row)) width (row.length = 1) exponent := by
  induction h with
  | done first => rfl
  | @line first last stop ends hf hl fits rest ih =>
    have hpieces : last < pieces.length := by rwa [length_ofPieces] at hl
    rw [penaltiesFrom, if_pos ⟨hf, hl⟩, ih, linePenalty_ofPieces exponent hf hpieces, rowsFrom,
      List.map_cons]

end Chunk

theorem map_some_map_getD {α : Type} {options : List (Option α)} (h : none ∉ options)
    (otherwise : α) : (options.map (·.getD otherwise)).map some = options := by
  induction options with
  | nil => rfl
  | cons option options ih =>
    obtain ⟨hsome, hrest⟩ := not_or.mp (mt List.mem_cons.mpr h)
    obtain ⟨value, rfl⟩ := Option.ne_none_iff_exists'.mp (Ne.symm hsome)
    rw [List.map_cons, List.map_cons, ih hrest, Option.getD_some]

namespace Filler

/-- The penalty of the line of a row, by its width in the text. -/
def rowPenalty (filler : Filler K) (row : List Text) : Option K :=
  penalty (filler.metric.width (filler.classes.lineOf row)) filler.width (row.length = 1)
    filler.method.penaltyExponent

variable {filler : Filler K} {text : Text}

theorem breaks_eq_error_iff (filler : Filler K) (text : Text) (failure : Failure) :
    filler.breaks text = .error failure ↔ filler.fill text = .error failure := by
  unfold breaks fill
  cases filler.accept 0 (filler.layout text) with
  | error failure' => simp [Except.map]
  | ok layout => simp [Except.map]

theorem fill_of_breaks_eq_none (h : filler.breaks text = .ok none) :
    filler.fill text = .ok [text] := by
  unfold breaks at h
  unfold fill
  cases haccept : filler.accept 0 (filler.layout text) with
  | error failure =>
    rw [haccept] at h
    cases h
  | ok layout =>
    rw [haccept] at h
    cases layout with
    | unbreakable => rfl
    | broken found => rfl
    | chunked chunks solution => cases h

/-- Only a text that is laid out has breaks. -/
theorem laysOut_of_breaks {breaks : Breaks K} (h : filler.breaks text = .ok (some breaks)) :
    filler.LaysOut text := by
  by_contra hwhole
  rcases not_laysOut_iff.mp hwhole with hraw | ⟨found, hlayout⟩
  · unfold Filler.breaks at h
    rw [layout_eq_unbreakable hraw] at h
    cases h
  · unfold Filler.breaks at h
    rw [hlayout] at h
    cases haccept : filler.accept 0 (.broken found) with
    | error failure =>
      rw [haccept] at h
      cases h
    | ok layout =>
      rw [haccept, eq_of_accept haccept] at h
      cases h

/-- The breaks of a text that is laid out judge its rows. -/
theorem breaks_eq_of_laysOut (laid : filler.LaysOut text) (hne : filler.pieces text ≠ []) :
    filler.breaks text = .ok (some
      ⟨filler.method.points (filler.chunks text) filler.width,
        (filler.rows text).map filler.rowPenalty,
        totalPenalty ((filler.rows text).map filler.rowPenalty)⟩) := by
  have hpenalties : penalties (filler.chunks text)
      (filler.method.points (filler.chunks text) filler.width) filler.width
        filler.method.penaltyExponent = (filler.rows text).map filler.rowPenalty := by
    rw [penalties_of_ne_nil (mt chunks_eq_nil_iff.mp hne), length_chunks]
    exact Chunk.penaltiesFrom_ofPieces filler.method.penaltyExponent (sets_rows hne)
  unfold breaks
  rw [layout_eq_chunked laid, ← hpenalties]
  rfl

theorem none_not_mem_rowPenalty (hne : filler.pieces text ≠ []) :
    none ∉ (filler.rows text).map filler.rowPenalty := by
  have hnone := (sets_rows hne).none_not_mem_penaltiesFrom filler.method.penaltyExponent
  have hrows := Chunk.penaltiesFrom_ofPieces filler.method.penaltyExponent (sets_rows hne)
  exact Eq.subst (motive := (none ∉ ·)) hrows hnone

theorem length_rows (filler : Filler K) (text : Text) : (filler.rows text).length =
    (filler.method.points (filler.chunks text) filler.width).length + 1 := by
  unfold rows
  rw [length_rowsFrom, List.length_append, List.length_singleton]

/-- Breaks fail as lines do and are none only if the text is its only line. Otherwise they end the
lines of the text, each penalty is that of its line, and the total is their sum from left to right. -/
theorem breaks_agree (filler : Filler K) {text : Text} (hne : text ≠ []) :
    (∀ failure, filler.breaks text = .error failure ↔ filler.fill text = .error failure) ∧
      (filler.breaks text = .ok none → filler.fill text = .ok [text]) ∧
      ∀ breaks, filler.breaks text = .ok (some breaks) →
        ∃ (rows : List (List Text)) (scores : List K),
          rows = rowsFrom (filler.pieces text) 0
            (breaks.points ++ [(filler.pieces text).length - 1]) ∧
          rows.flatten = filler.pieces text ∧
          filler.fill text = .ok (rows.map filler.classes.lineOf) ∧
          rows.length = breaks.points.length + 1 ∧
          breaks.penalties = rows.map (fun row =>
            penalty (filler.metric.width (filler.classes.lineOf row)) filler.width (row.length = 1)
              filler.method.penaltyExponent) ∧
          breaks.penalties = scores.map some ∧
          breaks.total = scores.foldl Score.add Score.sumStart := by
  refine ⟨breaks_eq_error_iff filler text, fill_of_breaks_eq_none, ?_⟩
  intro breaks hbreaks
  have laid := laysOut_of_breaks hbreaks
  have hpieces : filler.pieces text ≠ [] := mt (pieces_eq_nil_iff laid.offered).mp hne
  rw [breaks_eq_of_laysOut laid hpieces] at hbreaks
  obtain rfl := Option.some.inj (Except.ok.inj hbreaks)
  exact ⟨filler.rows text,
    ((filler.rows text).map filler.rowPenalty).map (·.getD Score.infinity), rfl,
    flatten_rows filler text, fill_eq_lines laid, length_rows filler text, rfl,
    (map_some_map_getD (none_not_mem_rowPenalty hpieces) _).symm, rfl⟩

/-- Six cells, which least ragged filling leaves over where they cost least. -/
def ragged : Filler ℕ∞ := ⟨6, .leastRagged (Score.ofNat 2), .cells, .fail, Break.offsets, .unicode⟩

theorem breaks_agree_ragged :
    "aaa 日 cc \tddddddd".toList ≠ [] ∧
      (∃ breaks, ragged.breaks "aaa 日 cc \tddddddd".toList = .ok (some breaks) ∧
        ragged.fill "aaa 日 cc \tddddddd".toList =
          .ok ["aaa".toList, "日 cc ".toList, "ddddddd".toList] ∧
        breaks.points.length + 1 = 3 ∧ breaks.penalties = [some 9, some 0, some 0] ∧
        breaks.total = 9) ∧
      ∃ stock breaks, ∃ scores : List Float,
        Filler.unicode ⟨6, 0, none, .fail, .codepoints⟩ = .ok stock ∧
        stock.breaks "aaa 日 cc \tddddddd".toList = .ok (some breaks) ∧
        breaks.penalties = scores.map some ∧ breaks.total = scores.foldl (· + ·) (-0.0) := by
  have hne : "aaa 日 cc \tddddddd".toList ≠ [] := by decide
  have soft : ∀ c ∈ "aaa 日 cc \tddddddd".toList, CharClasses.unicode.isHardBreak c = false := by
    simp [CharClasses.unicode, isHardBreak]
  have hpieces : Break.pieces "aaa 日 cc \tddddddd".toList ≠ [] := by decide +kernel
  have hraw : 2 ≤ (Break.offsets "aaa 日 cc \tddddddd".toList).length := by decide +kernel
  refine ⟨hne, ?_, ?_⟩
  · have laid : ragged.LaysOut "aaa 日 cc \tddddddd".toList := ⟨hraw, soft⟩
    have hbreaks := breaks_eq_of_laysOut laid hpieces
    obtain ⟨rows, scores, hrows, -, hfill, hlen, -, -, -⟩ :=
      (breaks_agree ragged hne).2.2 _ hbreaks
    have hlines : rows.map ragged.classes.lineOf =
        ["aaa".toList, "日 cc ".toList, "ddddddd".toList] := by
      rw [hrows]
      decide +kernel
    rw [hlines] at hfill
    refine ⟨_, hbreaks, hfill, ?_, by decide +kernel, by decide +kernel⟩
    rw [← hlen, ← List.length_map (f := ragged.classes.lineOf), hlines]
    rfl
  · have hstock := unicode_exponent_zero (show 0 < 6 by decide)
    let filler : Filler Float := ⟨6, .firstFit, .codepoints, .fail, Break.offsets, .unicode⟩
    have laid : filler.LaysOut "aaa 日 cc \tddddddd".toList := ⟨hraw, soft⟩
    have hbreaks := breaks_eq_of_laysOut laid hpieces
    obtain ⟨rows, scores, -, -, -, -, -, hscores, htotal⟩ := (breaks_agree filler hne).2.2 _ hbreaks
    exact ⟨_, _, scores, hstock, hbreaks, hscores, htotal⟩

end Filler

end LineFill
