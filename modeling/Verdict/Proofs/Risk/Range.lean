import Verdict.Proofs.Number.Ordered
import Verdict.Proofs.Risk.SubScores
import Verdict.Proofs.Risk.Turns

/-!
# The range of scores

Whatever the factors of a request, the numbers of its profile and those of the scoring rules are,
the sub-scores, the weighted score and the final score lie between 0 and 100, in exact arithmetic
and in that of floats, where points and products may overflow and an infinity may meet a zero
(`assess_inRange`).  Points are never negative and so have sums that are numbers; the weighted sum
cannot be rounded above 100, as rounding keeps the order; and the final score is brought into the
range at the end.
-/

namespace Verdict

open Number (Exact)
open Number.Exact

/-! ## Bringing floats into the range -/

theorem isNaN_ofFloat (x : Float) : Scalar.isNaN (ofFloat x) = Number.isNaN x := by
  rw [ofFloat, Number.isNaN, Number.rank?]
  cases Number.Binary.ofFloat x <;> rfl

/-- Floats are brought between two bounds as the numbers that they stand for. -/
theorem ofFloat_between (low high x : Float) :
    ofFloat (Scalar.between low high x) =
      Scalar.between (ofFloat low) (ofFloat high) (ofFloat x) := by
  have less (x y : Float) : Scalar.less (ofFloat x) (ofFloat y) = Scalar.less x y :=
    less_ofFloat x y
  unfold Scalar.between
  dsimp only
  rw [less]
  split
  · rw [less]
    split <;> rfl
  · rw [less]
    split <;> rfl

theorem ofFloat_nat_zero : ofFloat (Scalar.nat 0) = Scalar.nat 0 := by decide +kernel

theorem ofFloat_nat_hundred : ofFloat (Scalar.nat 100) = Scalar.nat 100 := by decide +kernel

theorem ofFloat_capScore (x : Float) : ofFloat (capScore x) = capScore (ofFloat x) := by
  rw [capScore, ofFloat_between, ofFloat_nat_zero, ofFloat_nat_hundred, capScore]

theorem ofFloat_clampScore (x : Float) : ofFloat (clampScore x) = clampScore (ofFloat x) := by
  have same : Scalar.isNaN x = Number.isNaN x := rfl
  unfold clampScore
  rw [isNaN_ofFloat, same]
  split
  · exact ofFloat_nat_zero
  · exact ofFloat_capScore x

/-- Clamping leaves a number of the range, whatever there was. -/
theorem clampScore_isBetween (x : Exact) : IsBetween 0 100 (clampScore x) := by
  unfold clampScore
  cases x with
  | nan => exact ⟨0, nat_eq 0, le_refl 0, by norm_num⟩
  | finite q => exact capScore_isBetween fun equal => Exact.noConfusion equal
  | infinite negative => exact capScore_isBetween fun equal => Exact.noConfusion equal

/-! ## Points in floats -/

theorem isNaN_of_nonneg {x : Float} (nonneg : Number.atMost 0 x = true) :
    Number.isNaN x = false := by
  obtain ⟨a, b, -, rank, -⟩ := Number.ranked_of_atMost nonneg
  rw [Number.isNaN, rank]
  rfl

theorem atMost_self {x : Float} (nonneg : Number.atMost 0 x = true) :
    Number.atMost x x = true := by
  obtain ⟨a, b, -, rank, -⟩ := Number.ranked_of_atMost nonneg
  exact (Number.atMost_iff rank rank).mpr (Int.le_refl b)

/-- Whether points of a contribution are a positive float. -/
def Contribution.IsPositive (c : Contribution) : Prop :=
  Number.isFinite (Scalar.ratio c.tenths 10) = true ∧
    Number.less 0 (Scalar.ratio c.tenths 10) = true

instance (c : Contribution) : Decidable c.IsPositive :=
  inferInstanceAs (Decidable (_ ∧ _))

theorem pointsOf_atLeast (ctx : Context) (factor : String) {c : Contribution}
    (positive : c.IsPositive) : Number.atMost 0 (ctx.pointsOf factor c) = true := by
  obtain ⟨finite, above⟩ := positive
  have whenActive : Number.atMost 0
      (if ctx.isActive factor then Scalar.ratio c.tenths 10 else Scalar.nat 0) = true := by
    split
    · rw [Number.atMost_eq, above, Bool.true_or]
    · decide +kernel
  cases c with
  | flag tenths => exact whenActive
  | perUnit tenths =>
    simp only [Context.pointsOf]
    split
    next n units =>
      have units : Number.less 0 n = true := (Option.filter_eq_some_iff.mp units).2
      have nonneg : Number.atMost 0 n = true := by rw [Number.atMost_eq, units, Bool.true_or]
      exact (Number.mul_ordered nonneg (atMost_self nonneg) finite above).1
    next => exact whenActive

theorem sum_atLeast {xs : List Float} (nonneg : ∀ x ∈ xs, Number.atMost 0 x = true) :
    Number.atMost 0 (Scalar.sum xs) = true := by
  have from_ (s : Float) (start : Number.atMost 0 s = true) :
      Number.atMost 0 (xs.foldl (· + ·) s) = true := by
    induction xs generalizing s with
    | nil => exact start
    | cons x xs ih =>
      obtain ⟨here, later⟩ := List.forall_mem_cons.mp nonneg
      exact ih later _ (Number.add_ordered start here (atMost_self start) (atMost_self here)).1
  exact from_ _ (by decide +kernel)

theorem points_atLeast (ctx : Context) {table : PointTable}
    (positive : ∀ entry ∈ table, entry.2.IsPositive) :
    Number.atMost 0 (ctx.points table) = true := by
  apply sum_atLeast
  intro x member
  obtain ⟨entry, inside, rfl⟩ := List.mem_map.mp member
  exact pointsOf_atLeast ctx entry.1 (positive entry inside)

/-- Read as the numbers that they stand for, the sub-scores in floats lie between 0 and 100. -/
theorem subScores_isBetween_float (ctx : Context) :
    let s : SubScores Float := ctx.subScores
    IsBetween 0 100 (ofFloat s.sensitivity) ∧ IsBetween 0 100 (ofFloat s.exposure) ∧
      IsBetween 0 100 (ofFloat s.controls) ∧ IsBetween 0 100 (ofFloat s.vulnerability) ∧
      IsBetween 0 100 (ofFloat s.compliance) := by
  have capped {x : Float} (isNumber : Number.isNaN x = false) :
      IsBetween 0 100 (ofFloat (capScore x)) := by
    rw [ofFloat_capScore]
    apply capScore_isBetween
    intro none
    rw [← isNaN_ofFloat, none] at isNumber
    cases isNumber
  have points {table : PointTable} (positive : ∀ entry ∈ table, entry.2.IsPositive) :
      IsBetween 0 100 (ofFloat (capScore (ctx.points table))) :=
    capped (isNaN_of_nonneg (points_atLeast ctx positive))
  have controls : ∀ entry ∈ PointTable.controls, entry.2.IsPositive := by decide +kernel
  have hundred : Number.Binary.ofFloat (Scalar.nat 100) = .finite false 7036874417766400 (-46) := by
    decide +kernel
  refine ⟨points (by decide +kernel), points (by decide +kernel), ?_, points (by decide +kernel),
    points (by decide +kernel)⟩
  exact capped (Number.isNaN_sub hundred (by decide)
    (isNaN_of_nonneg (points_atLeast ctx controls)))

/-! ## The weighted score in floats -/

/-- No sub-scores up to 100 have a weighted sum that is rounded above 100. -/
theorem weighted_isBetween_float (ctx : Context) :
    IsBetween 0 100 (ofFloat (ctx.subScores : SubScores Float).weighted) := by
  have sound {x : Float} (between : IsBetween 0 100 (ofFloat x)) :
      Number.atMost 0 x = true ∧ Number.atMost x 100 = true := by
    obtain ⟨q, value, low, high⟩ := between
    rw [← atMost_ofFloat, ← atMost_ofFloat, ofFloat_zero, ofFloat_hundred, value]
    exact ⟨by simpa using low, by simpa using high⟩
  have scaled {x w : Float} (between : IsBetween 0 100 (ofFloat x))
      (weight : Number.isFinite w = true ∧ Number.less 0 w = true) :=
    Number.mul_ordered (sound between).1 (sound between).2 weight.1 weight.2
  obtain ⟨sensitivity, exposure, controls, vulnerability, compliance⟩ :=
    subScores_isBetween_float ctx
  have a := scaled sensitivity (w := Scalar.ratio 30 100) (by decide +kernel)
  have b := scaled exposure (w := Scalar.ratio 20 100) (by decide +kernel)
  have c := scaled controls (w := Scalar.ratio 20 100) (by decide +kernel)
  have d := scaled vulnerability (w := Scalar.ratio 15 100) (by decide +kernel)
  have e := scaled compliance (w := Scalar.ratio 15 100) (by decide +kernel)
  have ab := Number.add_ordered a.1 b.1 a.2 b.2
  have abc := Number.add_ordered ab.1 c.1 ab.2 c.2
  have abcd := Number.add_ordered abc.1 d.1 abc.2 d.2
  have total := Number.add_ordered abcd.1 e.1 abcd.2 e.2
  have most : Number.atMost (100 * Scalar.ratio 30 100 + 100 * Scalar.ratio 20 100 +
      100 * Scalar.ratio 20 100 + 100 * Scalar.ratio 15 100 + 100 * Scalar.ratio 15 100) 100 =
      true := by decide +kernel
  have below := Number.atMost_trans total.2 most
  have above := total.1
  rw [← atMost_ofFloat] at above below
  rw [ofFloat_zero] at above
  rw [ofFloat_hundred] at below
  exact isBetween_of_atMost above below

/-! ## Assessments -/

section

variable {ν : Type} [Scalar ν]

/-- No turn of a scoring rule leaves a score that is not finite. -/
theorem scoreAfter_isFinite {score : ν} (finite : Scalar.isFinite score = true)
    (rules : List ScoringRule) : Scalar.isFinite (scoreAfter score rules) = true := by
  induction rules generalizing score with
  | nil => exact finite
  | cons r rest ih =>
    have next : Scalar.isFinite (ScoringTurn.after ⟨r, score⟩) = true := by
      rcases ScoringTurn.cases (⟨r, score⟩ : ScoringTurn ν) with ⟨-, -, left⟩ | ⟨-, stays, -⟩
      · exact left
      · rw [stays]
        exact finite
    exact ih next

/-- What is in its range in an assessment under a profile, where `running` is the score that the
    scoring rules leave and scores are read as exact numbers. -/
structure Assessment.InRange (read : ν → Exact) (ctx : Context) (p : Profile) (running : ν)
    (a : Assessment ν) : Prop where
  sensitivity : IsBetween 0 100 (read a.breakdown.subScores.sensitivity)
  exposure : IsBetween 0 100 (read a.breakdown.subScores.exposure)
  controls : IsBetween 0 100 (read a.breakdown.subScores.controls)
  vulnerability : IsBetween 0 100 (read a.breakdown.subScores.vulnerability)
  compliance : IsBetween 0 100 (read a.breakdown.subScores.compliance)
  weighted : IsBetween 0 100 (read a.breakdown.weightedScore)
  finite : Scalar.isFinite (Scalar.ofFloat p.baseScore : ν) = true →
    Scalar.isFinite running = true
  adjusted : a.breakdown.adjustedScore = (Tally.scaleAll ctx p ⟨running, []⟩).score
  score : IsBetween 0 100 (read a.score)
  level : a.level = p.thresholds.levelFor a.score

/-- An assessment is in range if sub-scores, weighted scores and clamped scores are. -/
theorem inRange_of {read : ν → Exact} {ctx : Context}
    (subScores : let s : SubScores ν := ctx.subScores
      IsBetween 0 100 (read s.sensitivity) ∧ IsBetween 0 100 (read s.exposure) ∧
        IsBetween 0 100 (read s.controls) ∧ IsBetween 0 100 (read s.vulnerability) ∧
        IsBetween 0 100 (read s.compliance))
    (weighted : IsBetween 0 100 (read (ctx.subScores : SubScores ν).weighted))
    (clamped : ∀ x : ν, IsBetween 0 100 (read (clampScore x))) (id : String) (p : Profile)
    (rules : List ScoringRule) (cache : PatternCache) :
    (((assess id ctx p rules).run cache).1 : Assessment ν).InRange read ctx p
      (p.adjustedBy ((matchingOf ctx (orderedRules rules)).run cache).1).score := by
  obtain ⟨sensitivity, exposure, controls, vulnerability, compliance⟩ := subScores
  rw [fst_assess]
  exact
    { sensitivity, exposure, controls, vulnerability, compliance, weighted
      finite := fun finite => by
        rw [Profile.adjustedBy, foldl_adjust]
        exact scoreAfter_isFinite finite _
      adjusted := rfl
      score := clamped _
      level := rfl }

end

/-- Whatever the request, the profile and the scoring rules are, valid or not: the sub-scores, the
    weighted score and the final score of an assessment are numbers between 0 and 100, the score is
    finite after the scoring rules if it was before, and the level is that of the final score.  This
    is so in exact arithmetic with infinities, and for floats read as the numbers that they stand
    for, which overflow. -/
theorem assess_inRange (id : String) (ctx : Context) (p : Profile) (rules : List ScoringRule)
    (cache : PatternCache) :
    let matching := ((matchingOf ctx (orderedRules rules)).run cache).1
    (((assess id ctx p rules).run cache).1 : Assessment Exact).InRange (fun x => x) ctx p
        (p.adjustedBy matching).score ∧
      (((assess id ctx p rules).run cache).1 : Assessment Float).InRange ofFloat ctx p
        (p.adjustedBy matching).score := by
  constructor
  · exact inRange_of (subScores_isBetween ctx) (weighted_isBetween ctx) clampScore_isBetween id p
      rules cache
  · refine inRange_of (subScores_isBetween_float ctx) (weighted_isBetween_float ctx)
      (fun x => ?_) id p rules cache
    rw [ofFloat_clampScore]
    exact clampScore_isBetween _

/-- Two factors of `10 ^ 200` overflow: in floats the adjusted score is infinite times zero and no
    number, and the final score is zero. -/
example :
    let p := (((Profile.new default "p" .medium 100).withMultiplier "a" 1e200).withMultiplier "b"
      1e200).withMultiplier "c" 0
    let ctx : Context :=
      { requestId := "q", method := "GET", path := "/", timestamp := default
        dataFactors := .ofList [("a", .bool true), ("b", .bool true), ("c", .bool true)] }
    let a : Assessment Float := ((assess "" ctx p []).run .empty).1
    Number.isNaN a.breakdown.adjustedScore = true ∧ ofFloat a.score = .finite 0 := by
  decide +kernel

end Verdict
