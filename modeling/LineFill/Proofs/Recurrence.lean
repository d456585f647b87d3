import LineFill.Proofs.CheckedMethod
import LineFill.Proofs.Optimality

/-!
The recurrence of least ragged filling without memory: the value for some chunks is found by trying
all starts of their last line in order, each after the value for the chunks before it. The fill ends
with this value, and so does the fill on words, which reads its points off backwards. Nothing is
asked of the scores, so sums may overflow and comparisons fail.
-/
namespace LineFill

variable {K : Type} [Score K]

namespace Recurrence

/-- The sum of the penalties of some lines, and the chunks that end all of them but the last. -/
structure Value (K : Type) where
  total : K
  points : List Nat

/-- One line more, from chunk `first` on. The line before it, if there is one, ends there. -/
def Value.addLine (before : Value K) (first : Nat) (penalty : K) : Value K :=
  ⟨Score.add before.total penalty,
    match first with
    | 0 => before.points
    | point + 1 => before.points ++ [point]⟩

/-- The first value is kept in any case, a later one only if its total is less. -/
def keep (kept? : Option (Value K)) (next : Value K) : Option (Value K) :=
  match kept? with
  | none => some next
  | some kept => if Score.less next.total kept.total then some next else some kept

/-- Tries the line from chunk `first` on, after the value for the chunks before it. A line without a
penalty is too wide and is passed over. -/
def consider (kept? : Option (Value K)) (first : Nat) (before? : Option (Value K))
    (penalty? : Option K) : Option (Value K) :=
  match before?, penalty? with
  | some before, some penalty => keep kept? (before.addLine first penalty)
  | _, _ => kept?

/-- The value for the chunks before a number. -/
def value? (chunks : List Chunk) (width : Nat) (exponent : K) : Nat → Option (Value K)
  | 0 => some ⟨Score.zero, []⟩
  | last + 1 =>
    (List.finRange (last + 1)).foldl
      (fun (kept? : Option (Value K)) (first : Fin (last + 1)) =>
        consider kept? first (value? chunks width exponent first)
          (linePenalty chunks width exponent first last))
      none
termination_by stop => stop
decreasing_by exact first.isLt

variable {chunks : List Chunk} {width : Nat} {exponent : K}

@[simp] theorem value?_zero : value? chunks width exponent 0 = some ⟨Score.zero, []⟩ := by
  rw [value?]

theorem value?_succ (chunks : List Chunk) (width : Nat) (exponent : K) (last : Nat) :
    value? chunks width exponent (last + 1) =
      (List.range (last + 1)).foldl
        (fun kept? first => consider kept? first (value? chunks width exponent first)
          (linePenalty chunks width exponent first last))
        none := by
  rw [value?, range_eq_map_finRange, List.foldl_map]

/-- What a plan comes to. -/
def valueOf (plan : Plan K) : Value K := ⟨plan.total, plan.points⟩

theorem addLine_valueOf (first last : Nat) (penalty : K) :
    (valueOf (Plan.best chunks width exponent first)).addLine first penalty =
      valueOf ((Plan.best chunks width exponent first).addLine last penalty) := by
  cases first with
  | zero =>
    rw [Plan.best_zero]
    rfl
  | succ point => exact congrArg (Value.mk _) Plan.points_best_append

theorem keep_valueOf (plans : List (Plan K)) (next : Plan K) :
    keep ((Plan.best? plans).map valueOf) (valueOf next) =
      (Plan.best? (plans ++ [next])).map valueOf := by
  rw [Plan.map_best?_concat]
  cases Plan.best? plans with
  | none => rfl
  | some plan => rfl

/-- Trying more starts finds the best of more plans. -/
theorem foldl_consider (last : Nat) {starts : List Nat}
    (hvalues : ∀ first ∈ starts, value? chunks width exponent first =
      some (valueOf (Plan.best chunks width exponent first))) (plans : List (Plan K)) :
    starts.foldl
        (fun kept? first => consider kept? first (value? chunks width exponent first)
          (linePenalty chunks width exponent first last))
        ((Plan.best? plans).map valueOf) =
      (Plan.best? (plans ++ starts.filterMap fun first =>
        (linePenalty chunks width exponent first last).map
          ((Plan.best chunks width exponent first).addLine last))).map valueOf := by
  induction starts generalizing plans with
  | nil => rw [List.foldl_nil, List.filterMap_nil, List.append_nil]
  | cons first starts ih =>
    obtain ⟨hvalue, hvalues⟩ := List.forall_mem_cons.mp hvalues
    rw [List.foldl_cons, hvalue, List.filterMap_cons]
    cases hp : linePenalty chunks width exponent first last with
    | none => exact ih hvalues plans
    | some p =>
      have hkeep := keep_valueOf plans ((Plan.best chunks width exponent first).addLine last p)
      have hrest := ih hvalues (plans ++ [(Plan.best chunks width exponent first).addLine last p])
      rw [← hkeep, ← addLine_valueOf, List.append_assoc] at hrest
      exact hrest

/-- The value is that of the best plan. -/
theorem value?_eq_best (chunks : List Chunk) (width : Nat) (exponent : K) (stop : Nat) :
    value? chunks width exponent stop = some (valueOf (Plan.best chunks width exponent stop)) := by
  induction stop using Nat.strongRecOn with
  | ind stop ih =>
    cases stop with
    | zero =>
      rw [value?_zero, Plan.best_zero]
      rfl
    | succ last =>
      have hvalues : ∀ first ∈ List.range (last + 1), value? chunks width exponent first =
          some (valueOf (Plan.best chunks width exponent first)) := by
        intro first hfirst
        exact ih first (List.mem_range.mp hfirst)
      have hfold := foldl_consider last hvalues []
      have hbest := Plan.best?_candidates chunks width exponent last
      unfold Plan.candidates at hbest
      rw [List.nil_append, hbest] at hfold
      rw [value?_succ]
      exact hfold

end Recurrence

/-- Least ragged filling ends with the value of the recurrence, its points and its total, and so it
does on words if no sum of widths is too large for one. -/
theorem leastRagged_eq_recurrence {chunks : List Chunk} (measured : Chunk.Measured chunks)
    (width : Nat) (exponent : K) :
    ∃ value, Recurrence.value? chunks width exponent chunks.length = some value ∧
      leastRagged chunks width exponent = value.points ∧
      (leastRaggedPlan chunks width exponent).total = value.total ∧
      (Chunk.totalWidth chunks < Word.limit →
        Checked.leastRagged chunks width exponent = .ok (value.points, value.total)) := by
  have hvalue := Recurrence.value?_eq_best chunks width exponent chunks.length
  rw [← leastRaggedPlan_eq_best measured] at hvalue
  exact ⟨_, hvalue, rfl, rfl, fun hwidth => Checked.leastRagged_eq measured hwidth⟩

/-- With exponent 1 the points 0, 2 and 1, 2 cost the same, and the earlier point is kept. -/
theorem leastRagged_eq_recurrence_raggedWords :
    Chunk.Measured raggedWords ∧ Chunk.totalWidth raggedWords < Word.limit ∧
      penaltyOf raggedWords [0, 2] 6 (1 : ℕ∞) = penaltyOf raggedWords [1, 2] 6 1 ∧
      Recurrence.value? raggedWords 6 (1 : ℕ∞) 4 = some ⟨5, [0, 2]⟩ ∧
      Checked.leastRagged raggedWords 6 (1 : ℕ∞) = .ok ([0, 2], 5) ∧
      ∃ value, Recurrence.value? raggedWords 6 (0 / 0 : Float) 4 = some value ∧
        leastRagged raggedWords 6 (0 / 0 : Float) = value.points ∧
        Checked.leastRagged raggedWords 6 (0 / 0 : Float) = .ok (value.points, value.total) := by
  have measured : Chunk.Measured raggedWords := by decide
  have hwidth : Chunk.totalWidth raggedWords < Word.limit := by decide
  have hpoints : leastRagged raggedWords 6 (1 : ℕ∞) = [0, 2] := by decide
  have htotal : (leastRaggedPlan raggedWords 6 (1 : ℕ∞)).total = 5 := by decide
  obtain ⟨⟨total, points⟩, hvalue, rfl, rfl, hchecked⟩ :=
    leastRagged_eq_recurrence measured 6 (1 : ℕ∞)
  rw [hpoints, htotal] at hvalue hchecked
  obtain ⟨value, hfloat, hsame, -, hword⟩ :=
    leastRagged_eq_recurrence measured 6 (0 / 0 : Float)
  exact ⟨measured, hwidth, by decide, hvalue, hchecked hwidth, value, hfloat, hsame, hword hwidth⟩

end LineFill
