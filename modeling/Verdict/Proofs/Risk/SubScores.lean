import Mathlib.Tactic.Linarith
import Verdict.Proofs.Number.Exact
import Verdict.Risk.Factors

/-!
# Sub-scores in exact arithmetic

The points of a factor are never negative, and infinite at most where the request has an infinite
number of units.  So every table has points (`points_nonneg`), and whatever they are, each sub-score
and the weighted sum of all five is a rational between 0 and 100 (`weighted_isBetween`).
-/

namespace Verdict

open Number (Exact)

namespace Number.Exact

/-- Whether a number is zero or above, infinity included. -/
def Nonneg (x : Exact) : Prop :=
  Scalar.atMost (.finite 0) x = true

/-- Whether a number is a rational between two bounds. -/
def IsBetween (low high : ℚ) (x : Exact) : Prop :=
  ∃ q, x = .finite q ∧ low ≤ q ∧ q ≤ high

theorem nonneg_iff {x : Exact} :
    Nonneg x ↔ x = .infinite false ∨ ∃ q : ℚ, x = .finite q ∧ 0 ≤ q := by
  cases x with
  | finite q => simp [Nonneg]
  | infinite negative => cases negative <;> simp [Nonneg, Scalar.atMost, atMost]
  | nan => simp [Nonneg, Scalar.atMost, atMost]

theorem isBetween_of_atMost {low high : ℚ} {x : Exact}
    (above : Scalar.atMost (.finite low) x = true) (below : Scalar.atMost x (.finite high) = true) :
    IsBetween low high x := by
  cases x with
  | finite q =>
    rw [atMost_finite, decide_eq_true_eq] at above below
    exact ⟨q, rfl, above, below⟩
  | infinite negative =>
    cases negative
    · cases below
    · cases above
  | nan => cases above

/-- What floats compare as is what they are. -/
theorem nonneg_ofFloat {x : Float} (above : Number.atMost 0 x = true) : Nonneg (ofFloat x) := by
  rw [Nonneg, ← ofFloat_zero, atMost_ofFloat]
  exact above

theorem nonneg_finite {q : ℚ} (nonneg : 0 ≤ q) : Nonneg (.finite q) :=
  nonneg_iff.mpr (.inr ⟨q, rfl, nonneg⟩)

theorem Nonneg.add {x y : Exact} (nonneg : Nonneg x) (nonneg' : Nonneg y) : Nonneg (x + y) := by
  rcases nonneg_iff.mp nonneg with rfl | ⟨a, rfl, above⟩ <;>
    rcases nonneg_iff.mp nonneg' with rfl | ⟨b, rfl, above'⟩
  case inr.inr => exact nonneg_finite (add_nonneg above above')
  all_goals exact nonneg_iff.mpr (.inl rfl)

theorem Nonneg.sum {xs : List Exact} (nonneg : ∀ x ∈ xs, Nonneg x) : Nonneg (Scalar.sum xs) := by
  have from_ (s : Exact) (start : Nonneg s) : Nonneg (xs.foldl (· + ·) s) := by
    induction xs generalizing s with
    | nil => exact start
    | cons x xs ih =>
      obtain ⟨here, later⟩ := List.forall_mem_cons.mp nonneg
      exact ih later _ (start.add here)
  refine from_ _ ?_
  rw [nat_eq]
  exact nonneg_finite (Nat.cast_nonneg 0)

/-- An infinity may be scaled by a positive number. -/
theorem Nonneg.mul_finite {x : Exact} (nonneg : Nonneg x) {q : ℚ} (positive : 0 < q) :
    Nonneg (x * .finite q) := by
  rcases nonneg_iff.mp nonneg with rfl | ⟨a, rfl, above⟩
  · have product : (.infinite false * .finite q : Exact) = scaleInfinite false q := rfl
    rw [product, scaleInfinite, if_neg positive.ne', decide_eq_false positive.not_gt]
    exact nonneg_iff.mpr (.inl rfl)
  · exact nonneg_finite (mul_nonneg above positive.le)

end Number.Exact

open Number.Exact

/-- What is a number is brought between 0 and 100. -/
theorem capScore_isBetween {x : Exact} (isNumber : x ≠ .nan) : IsBetween 0 100 (capScore x) := by
  have bounds : capScore x = Scalar.between (.finite 0) (.finite 100) x := by
    rw [capScore, nat_eq, nat_eq, Nat.cast_zero, Nat.cast_ofNat]
  rw [bounds]
  cases x with
  | finite q =>
    rw [between_finite]
    exact ⟨_, rfl, le_min (by norm_num) (le_max_right q 0), min_le_left 100 _⟩
  | infinite negative =>
    cases negative
    · exact ⟨100, rfl, by norm_num, le_refl _⟩
    · exact ⟨0, rfl, le_refl _, by norm_num⟩
  | nan => exact absurd rfl isNumber

/-- The tenths of points that a contribution counts. -/
def Contribution.tenths : Contribution → Nat
  | .flag tenths => tenths
  | .perUnit tenths => tenths

theorem pointsOf_nonneg (ctx : Context) (factor : String) {c : Contribution}
    (positive : 0 < c.tenths) : Nonneg (ctx.pointsOf factor c) := by
  have points : (0 : ℚ) < c.tenths / 10 := by positivity
  have zero : Nonneg (Scalar.nat 0) := by
    rw [nat_eq]
    exact nonneg_finite (Nat.cast_nonneg 0)
  have whenActive :
      Nonneg (if ctx.isActive factor then Scalar.ratio c.tenths 10 else Scalar.nat 0) := by
    split
    · exact nonneg_finite points.le
    · exact zero
  cases c with
  | flag tenths => exact whenActive
  | perUnit tenths =>
    simp only [Context.pointsOf]
    split
    next n units =>
      have above : Number.less 0 n = true := (Option.filter_eq_some_iff.mp units).2
      have atLeast : Number.atMost 0 n = true := by rw [Number.atMost_eq, above, Bool.true_or]
      exact (nonneg_ofFloat atLeast).mul_finite points
    next => exact whenActive

theorem points_nonneg (ctx : Context) {table : PointTable}
    (positive : ∀ entry ∈ table, 0 < entry.2.tenths) : Nonneg (ctx.points table) := by
  apply Nonneg.sum
  intro x member
  obtain ⟨entry, inside, rfl⟩ := List.mem_map.mp member
  exact pointsOf_nonneg ctx entry.1 (positive entry inside)

/-- Whatever is taken from 100, a number is left. -/
theorem sub_ne_nan {q : ℚ} {x : Exact} (nonneg : Nonneg x) : (.finite q - x : Exact) ≠ .nan := by
  rcases nonneg_iff.mp nonneg with rfl | ⟨a, rfl, -⟩
  · exact fun equal => Exact.noConfusion equal
  · rw [finite_sub]
    exact fun equal => Exact.noConfusion equal

theorem Number.Exact.Nonneg.ne_nan {x : Exact} (nonneg : Nonneg x) : x ≠ .nan := by
  rcases nonneg_iff.mp nonneg with rfl | ⟨a, rfl, -⟩ <;> exact fun equal => Exact.noConfusion equal

/-- Whatever the factors of a request are, its sub-scores are rationals between 0 and 100. -/
theorem subScores_isBetween (ctx : Context) :
    let s : SubScores Exact := ctx.subScores
    IsBetween 0 100 s.sensitivity ∧ IsBetween 0 100 s.exposure ∧ IsBetween 0 100 s.controls ∧
      IsBetween 0 100 s.vulnerability ∧ IsBetween 0 100 s.compliance := by
  have points {table : PointTable} (positive : ∀ entry ∈ table, 0 < entry.2.tenths) :
      IsBetween 0 100 (capScore (ctx.points table : Exact)) :=
    capScore_isBetween (points_nonneg ctx positive).ne_nan
  have controls : ∀ entry ∈ PointTable.controls, 0 < entry.2.tenths := by decide
  refine ⟨points (by decide), points (by decide), ?_, points (by decide), points (by decide)⟩
  apply capScore_isBetween
  rw [nat_eq]
  exact sub_ne_nan (points_nonneg ctx controls)

/-- The weights of the sub-scores add up to one. -/
theorem weighted_isBetween (ctx : Context) :
    IsBetween 0 100 (ctx.subScores : SubScores Exact).weighted := by
  obtain ⟨⟨a, sensitivity, lowA, highA⟩, ⟨b, exposure, lowB, highB⟩, ⟨c, controls, lowC, highC⟩,
    ⟨d, vulnerability, lowD, highD⟩, ⟨e, compliance, lowE, highE⟩⟩ := subScores_isBetween ctx
  rw [SubScores.weighted, sensitivity, exposure, controls, vulnerability, compliance]
  simp only [ratio_eq, finite_mul, finite_add]
  refine ⟨_, rfl, ?_, ?_⟩ <;> norm_num <;> linarith

end Verdict
