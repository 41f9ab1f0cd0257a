import Verdict.Proofs.Risk.SubScores
import Verdict.Proofs.Risk.Turns

/-!
# More points, no less risk

In exact arithmetic everything that happens to a score rises with it: the turns of valid rules, the
multipliers of a valid profile, the blend with the weighted sub-scores, the final clamp and the
choice of a level (`assessmentOf_rises`).  So one more rule that adds points, wherever it stands
among the others, lowers none of the scores and not the level (`assess_insert_add`), unless a
pattern of it stands in the place of one that another rule needs (`assess_insert_lowers`).
-/

namespace Verdict

open Number (Exact)

namespace Number.Exact

/-- Whether two numbers are rationals, the second one at least as large as the first. -/
def Rises (x y : Exact) : Prop :=
  ∃ a b : ℚ, x = .finite a ∧ y = .finite b ∧ a ≤ b

namespace Rises

theorem refl (q : ℚ) : Rises (.finite q) (.finite q) :=
  ⟨q, q, rfl, rfl, le_rfl⟩

variable {x y : Exact} (rises : Rises x y)

include rises

theorem atMost : Scalar.atMost x y = true := by
  obtain ⟨a, b, rfl, rfl, le⟩ := rises
  rw [atMost_finite, decide_eq_true le]

/-- A bound that is reached stays reached, infinite or not. -/
theorem atMost_of_atMost {bound : Exact} (reached : Scalar.atMost bound x = true) :
    Scalar.atMost bound y = true := by
  obtain ⟨a, b, rfl, rfl, le⟩ := rises
  cases bound with
  | finite q =>
    rw [atMost_finite, decide_eq_true_eq] at reached ⊢
    exact reached.trans le
  | infinite negative => exact reached
  | nan => exact reached

theorem add (c : ℚ) : Rises (x + .finite c) (y + .finite c) := by
  obtain ⟨a, b, rfl, rfl, le⟩ := rises
  exact ⟨a + c, b + c, rfl, rfl, add_le_add_left le c⟩

theorem sub (c : ℚ) : Rises (x - .finite c) (y - .finite c) := by
  obtain ⟨a, b, rfl, rfl, le⟩ := rises
  exact ⟨a - c, b - c, finite_sub a c, finite_sub b c, sub_le_sub_right le c⟩

theorem mul {c : ℚ} (nonneg : 0 ≤ c) : Rises (x * .finite c) (y * .finite c) := by
  obtain ⟨a, b, rfl, rfl, le⟩ := rises
  exact ⟨a * c, b * c, rfl, rfl, mul_le_mul_of_nonneg_right le nonneg⟩

theorem div {c : ℚ} (positive : 0 < c) : Rises (x / .finite c) (y / .finite c) := by
  obtain ⟨a, b, rfl, rfl, le⟩ := rises
  exact ⟨a / c, b / c, finite_div positive.ne', finite_div positive.ne',
    (div_le_div_iff_of_pos_right positive).mpr le⟩

theorem between (low high : ℚ) :
    Rises (Scalar.between (.finite low) (.finite high) x)
      (Scalar.between (.finite low) (.finite high) y) := by
  obtain ⟨a, b, rfl, rfl, le⟩ := rises
  exact ⟨_, _, between_finite low high a, between_finite low high b,
    min_le_min_left high (max_le_max_right low le)⟩

end Rises

end Number.Exact

open Number.Exact

/-! ## Valid rules and profiles -/

/-- The value of a valid rule is a rational, and positive where it scales the score. -/
theorem ScoringRule.value_of_valid {r : ScoringRule} (valid : r.issues = []) :
    ∃ v : ℚ, Exact.ofFloat r.adjustment.value = .finite v ∧
      (r.adjustment.adjustmentType = .multiply ∨ r.adjustment.adjustmentType = .divide →
        0 < v) := by
  simp only [issues, List.append_eq_nil_iff, ite_eq_left_iff, ite_eq_right_iff, List.cons_ne_nil,
    imp_false, Bool.not_eq_true, Bool.not_eq_false, Bool.and_eq_false_imp, Bool.or_eq_true,
    beq_iff_eq] at valid
  obtain ⟨⟨⟨-, finite⟩, positive⟩, -⟩ := valid
  have read := ofFloat_of_isFinite finite
  refine ⟨_, read, fun scales => ?_⟩
  have above := positive scales
  rw [← atMost_ofFloat, read, ofFloat_zero, atMost_finite, decide_eq_false_iff_not, not_le] at above
  exact above

/-- The base score of a valid profile is within bounds, and its multipliers are rationals, none of
    them negative. -/
theorem Profile.scores_of_valid {p : Profile} (valid : p.issues = []) :
    IsBetween 0 100 (Exact.ofFloat p.baseScore) ∧
      ∀ entry ∈ p.multipliers.entries, ∃ m : ℚ, Exact.ofFloat entry.2 = .finite m ∧ 0 ≤ m := by
  simp only [issues, List.append_eq_nil_iff, ite_eq_left_iff, List.cons_ne_nil, imp_false, not_not,
    Bool.and_eq_true, List.map_eq_nil_iff, List.filter_eq_nil_iff, Bool.not_eq_true',
    Bool.not_eq_false, Condition.isWeight] at valid
  obtain ⟨⟨⟨-, above, below⟩, -⟩, weights⟩ := valid
  constructor
  · rw [← atMost_ofFloat, ofFloat_zero] at above
    rw [← atMost_ofFloat, ofFloat_hundred] at below
    exact isBetween_of_atMost above below
  · intro entry member
    obtain ⟨finite, notBelow⟩ := weights entry member
    exact ⟨_, ofFloat_of_not_less finite notBelow⟩

/-! ## Turns -/

theorem ScoringTurn.after_of_result {t : ScoringTurn Exact} {q : ℚ}
    (result : t.result? = some (.finite q)) : t.after = .finite q :=
  (after_of_next (next_of_finite result (isFinite_finite q))).2

/-- What an adjustment gives rises with the score, where scaling is by positive numbers. -/
theorem AdjustmentType.apply_rises (type : AdjustmentType) {v : ℚ}
    (positive : type = .multiply ∨ type = .divide → 0 < v) {x y : Exact} (rises : Rises x y) :
    ∃ x' y' : Exact, type.apply x (.finite v) = some x' ∧ type.apply y (.finite v) = some y' ∧
      Rises x' y' := by
  cases type with
  | add => exact ⟨_, _, rfl, rfl, rises.add v⟩
  | subtract => exact ⟨_, _, rfl, rfl, rises.sub v⟩
  | multiply => exact ⟨_, _, rfl, rfl, rises.mul (positive (.inl rfl)).le⟩
  | divide =>
    have above := positive (.inr rfl)
    have nonzero : Scalar.same (Exact.finite v) (Scalar.nat 0) = false := by
      rw [nat_eq, same_finite, Nat.cast_zero, decide_eq_false above.ne']
    have divided (z : Exact) : apply .divide z (.finite v) = some (z / .finite v) := by
      rw [apply, nonzero]
      rfl
    exact ⟨_, _, divided x, divided y, rises.div above⟩
  | set => exact ⟨_, _, rfl, rfl, .refl v⟩

/-- The turns of a valid rule at two scores. -/
theorem ScoringTurn.after_rises {r : ScoringRule} (valid : r.issues = []) {x y : Exact}
    (rises : Rises x y) : Rises (after ⟨r, x⟩) (after ⟨r, y⟩) := by
  obtain ⟨v, value, positive⟩ := ScoringRule.value_of_valid valid
  obtain ⟨x', y', result, result', a, b, rfl, rfl, le⟩ :=
    r.adjustment.adjustmentType.apply_rises positive rises
  rw [← value] at result result'
  exact ⟨a, b, after_of_result result, after_of_result result', le⟩

/-- A turn of a rule that adds points. -/
theorem ScoringTurn.rises_of_add {r : ScoringRule} (isAdd : r.adjustment.adjustmentType = .add)
    (nonneg : Number.atMost 0 r.adjustment.value = true) (q : ℚ) :
    Rises (.finite q) (after ⟨r, .finite q⟩) := by
  have result : (⟨r, .finite q⟩ : ScoringTurn Exact).result? =
      some (.finite q + Exact.ofFloat r.adjustment.value) := by
    rw [result?, isAdd]
    rfl
  rcases nonneg_iff.mp (nonneg_ofFloat nonneg) with value | ⟨v, value, above⟩ <;>
    rw [value] at result
  · -- infinitely many points are not added
    have next : (⟨r, .finite q⟩ : ScoringTurn Exact).next? = none := by
      rw [next?, result]
      rfl
    rw [(after_of_none next).2]
    exact .refl q
  · exact ⟨q, q + v, rfl, after_of_result result, le_add_of_nonneg_right above⟩

/-- The turns of valid rules from two scores on. -/
theorem scoreAfter_rises {rules : List ScoringRule} (valid : ∀ r ∈ rules, r.issues = [])
    {x y : Exact} (rises : Rises x y) : Rises (scoreAfter x rules) (scoreAfter y rules) := by
  induction rules generalizing x y with
  | nil => exact rises
  | cons r rest ih =>
    obtain ⟨here, later⟩ := List.forall_mem_cons.mp valid
    exact ih later (ScoringTurn.after_rises here rises)

/-- One more turn of a rule that adds points, among those of valid rules. -/
theorem scoreAfter_insert_rises {front back : List ScoringRule} {r : ScoringRule}
    (valid : ∀ s ∈ front ++ back, s.issues = []) (isAdd : r.adjustment.adjustmentType = .add)
    (nonneg : Number.atMost 0 r.adjustment.value = true) (q : ℚ) :
    Rises (scoreAfter (.finite q) (front ++ back))
      (scoreAfter (.finite q) (front ++ r :: back)) := by
  obtain ⟨validFront, validBack⟩ := List.forall_mem_append.mp valid
  obtain ⟨a, -, before, -⟩ := scoreAfter_rises validFront (Rises.refl q)
  rw [scoreAfter_append, scoreAfter_append, before]
  exact scoreAfter_rises validBack (ScoringTurn.rises_of_add isAdd nonneg a)

/-! ## Assessments -/

/-- Scaling two scores by the same multipliers. -/
theorem foldl_scale_rises {entries : List (String × Float)}
    (multipliers : ∀ entry ∈ entries, ∃ m : ℚ, Exact.ofFloat entry.2 = .finite m ∧ 0 ≤ m)
    {t t' : Tally Exact (AppliedMultiplier Exact)} (rises : Rises t.score t'.score) :
    Rises (entries.foldl (fun t entry => t.scale entry.1 entry.2) t).score
      (entries.foldl (fun t entry => t.scale entry.1 entry.2) t').score := by
  induction entries generalizing t t' with
  | nil => exact rises
  | cons entry rest ih =>
    obtain ⟨⟨m, value, nonneg⟩, later⟩ := List.forall_mem_cons.mp multipliers
    have scaled (t : Tally Exact (AppliedMultiplier Exact)) :
        (t.scale entry.1 entry.2).score = t.score * .finite m :=
      congrArg (t.score * ·) value
    refine ih later ?_
    rw [scaled, scaled]
    exact rises.mul nonneg

theorem scaleAll_rises {ctx : Context} {p : Profile} (valid : p.issues = []) {x y : Exact}
    (rises : Rises x y) :
    Rises (Tally.scaleAll ctx p ⟨x, []⟩).score (Tally.scaleAll ctx p ⟨y, []⟩).score := by
  have multipliers := (Profile.scores_of_valid valid).2
  exact foldl_scale_rises (fun entry member => multipliers entry (List.mem_of_mem_filter member))
    rises

theorem blend_rises {w x y : Exact} (weighted : IsBetween 0 100 w) (rises : Rises x y) :
    Rises (blend w x) (blend w y) := by
  obtain ⟨q, rfl, -⟩ := weighted
  obtain ⟨a, b, rfl, rfl, le⟩ := rises
  simp only [blend, ratio_eq, finite_mul, finite_add]
  refine ⟨_, _, rfl, rfl, ?_⟩
  gcongr

theorem clampScore_rises {x y : Exact} (rises : Rises x y) :
    Rises (clampScore x) (clampScore y) := by
  have bounded := rises.between 0 100
  obtain ⟨a, b, rfl, rfl, -⟩ := rises
  simp only [clampScore, capScore, nat_eq, isNaN_finite]
  exact_mod_cast bounded

/-- How severe a level is. -/
def RiskLevel.severity : RiskLevel → Nat
  | .low => 0
  | .medium => 1
  | .high => 2
  | .critical => 3

/-- Whatever the thresholds are, a score that rises does not fall below one of them. -/
theorem Thresholds.levelFor_rises (t : Thresholds) {x y : Exact} (rises : Rises x y) :
    (t.levelFor x).severity ≤ (t.levelFor y).severity := by
  have stays (threshold : Float) : Scalar.atMost (Scalar.ofFloat threshold) x = true →
      Scalar.atMost (Scalar.ofFloat threshold) y = true := rises.atMost_of_atMost
  have critical := stays t.critical
  have high := stays t.high
  have medium := stays t.medium
  simp only [levelFor]
  split_ifs <;> simp_all [RiskLevel.severity]

/-- An assessment under a valid profile rises with the score that the rules leave. -/
theorem assessmentOf_rises {ctx : Context} {p : Profile} (valid : p.issues = [])
    {t t' : Tally Exact (AppliedAdjustment Exact)} (rises : Rises t.score t'.score)
    (id id' : String) :
    let a := assessmentOf id ctx p t
    let a' := assessmentOf id' ctx p t'
    Rises a.breakdown.adjustedScore a'.breakdown.adjustedScore ∧
      Rises a.breakdown.blendedScore a'.breakdown.blendedScore ∧
      Rises a.score a'.score ∧ a.level.severity ≤ a'.level.severity := by
  intro a a'
  have adjusted : Rises a.breakdown.adjustedScore a'.breakdown.adjustedScore :=
    scaleAll_rises valid rises
  have blended : Rises a.breakdown.blendedScore a'.breakdown.blendedScore :=
    blend_rises (weighted_isBetween ctx) adjusted
  have score : Rises a.score a'.score := clampScore_rises blended
  exact ⟨adjusted, blended, score, p.thresholds.levelFor_rises score⟩

/-- An enabled rule that matches has its turn between two parts of the others' turns. -/
theorem exists_matching_insert {ctx : Context} {r : ScoringRule} (enabled : r.enabled = true)
    (matched : r.matchesAlone ctx = true) (front back : List ScoringRule) :
    ∃ before after, (∀ s ∈ before ++ after, s ∈ front ++ back) ∧
      (orderedRules (front ++ back)).filter (fun s => s.matchesAlone ctx) = before ++ after ∧
      (orderedRules (front ++ r :: back)).filter (fun s => s.matchesAlone ctx) =
        before ++ r :: after := by
  obtain ⟨before, after, without, inserted⟩ := exists_sortByPriority_insert ScoringRule.priority
    (front.filter ScoringRule.enabled) (back.filter ScoringRule.enabled) r
  have order : orderedRules (front ++ back) = before ++ after := by
    rw [orderedRules, List.filter_append, without]
  have order' : orderedRules (front ++ r :: back) = before ++ r :: after := by
    rw [orderedRules, List.filter_append, List.filter_cons_of_pos enabled, inserted]
  refine ⟨before.filter fun s => s.matchesAlone ctx, after.filter fun s => s.matchesAlone ctx,
    fun s member => ?_, by rw [order, List.filter_append], ?_⟩
  · rw [← List.filter_append, ← order] at member
    exact (List.mem_filter.mp (List.mem_mergeSort.mp (List.mem_of_mem_filter member))).1
  · rw [order', List.filter_append, List.filter_cons, if_pos matched]

/-- Under a valid profile and valid rules, one more enabled rule that matches and adds points,
    wherever it stands in the list and whatever its priority is, lowers neither the adjusted nor the
    blended nor the final score, and not the level.  That is so from all caches that were used for
    the patterns of the enabled rules and for some others, as long as none of these patterns judges
    the request otherwise than one of which it may stand in the place. -/
theorem assess_insert_add {ctx : Context} {p : Profile} (validProfile : p.issues = [])
    {front back : List ScoringRule} (validRules : ∀ s ∈ front ++ back, s.issues = [])
    {r : ScoringRule} (enabled : r.enabled = true)
    (isAdd : r.adjustment.adjustmentType = .add)
    (nonneg : Number.atMost 0 r.adjustment.value = true) (matched : r.matchesAlone ctx = true)
    {uses : List PatternUse} (own : usesOf (enabledConditions (front ++ r :: back)) ctx ⊆ uses)
    (served : ∀ c ∈ enabledConditions (front ++ r :: back),
      c.ServedAlike uses (ctx.resolve c.field))
    {cache cache' : PatternCache} (used : cache.UsedFor uses) (used' : cache'.UsedFor uses)
    (id id' : String) :
    let a : Assessment Exact := ((assess id ctx p (front ++ back)).run cache).1
    let a' : Assessment Exact := ((assess id' ctx p (front ++ r :: back)).run cache').1
    Scalar.atMost a.breakdown.adjustedScore a'.breakdown.adjustedScore = true ∧
      Scalar.atMost a.breakdown.blendedScore a'.breakdown.blendedScore = true ∧
      Scalar.atMost a.score a'.score = true ∧ a.level.severity ≤ a'.level.severity := by
  intro a a'
  have alone := judgesAlone_of_enabled own served
  have others : ∀ s ∈ front ++ back, s.enabled = true →
      JudgesAlone (PatternCache.UsedFor uses) s.conditions ctx :=
    fun s member => alone s (List.mem_append.mpr
      ((List.mem_append.mp member).imp_right (List.mem_cons_of_mem r)))
  obtain ⟨before, after, among, without, inserted⟩ :=
    exists_matching_insert enabled matched front back
  have found : a = assessmentOf id ctx p (p.adjustedBy (before ++ after)) := by
    rw [← without]
    exact (gives_assess_alone others id p cache used).1
  have found' : a' = assessmentOf id' ctx p (p.adjustedBy (before ++ r :: after)) := by
    rw [← inserted]
    exact (gives_assess_alone alone id' p cache' used').1
  obtain ⟨q, base, -⟩ := (Profile.scores_of_valid validProfile).1
  have rises : Rises (p.adjustedBy (before ++ after) : Tally Exact _).score
      (p.adjustedBy (before ++ r :: after)).score := by
    have start : (Scalar.ofFloat p.baseScore : Exact) = .finite q := base
    rw [Profile.adjustedBy, Profile.adjustedBy, foldl_adjust, foldl_adjust, start]
    exact scoreAfter_insert_rises (fun s member => validRules s (among s member)) isAdd nonneg q
  rw [found, found']
  obtain ⟨adjusted, blended, score, level⟩ := assessmentOf_rises validProfile rises id id'
  exact ⟨adjusted.atMost, blended.atMost, score.atMost, level⟩

/-- Two of the rules have patterns in one place, where either does for both. -/
theorem assess_insert_add_between :
    let now : Instant := ⟨0, 0, 0, by decide, by decide⟩
    let ctx : Context :=
      { timestamp := now, path := "/a",
        securityFactors := KeyMap.empty.insert "public_endpoint" (.bool true) }
    let p : Profile := (Profile.new now "p" .medium 60).withMultiplier "public_endpoint" 1.5
    let rule (id : String) (priority : Int) (type : AdjustmentType) (value : Float)
        (conditions : List Condition) : ScoringRule :=
      { ScoringRule.new now id conditions type value with priority := priority }
    let front := [rule "subtract" 90 .subtract 10 []]
    let back := [rule "double" 50 .multiply 2 [.onPath false "^/A"],
      rule "quarter" 10 .divide 4 []]
    let r := rule "add" 90 .add 100 [.onPath true "(?i)^/A"]
    let a : Assessment Exact := ((assess "a" ctx p (front ++ back)).run .empty).1
    let a' : Assessment Exact := ((assess "b" ctx p (front ++ r :: back)).run .empty).1
    (∀ s ∈ front ++ r :: back, s.issues = []) ∧ p.issues = [] ∧
      (usesOf (enabledConditions (front ++ r :: back)) ctx).map PatternUse.key =
        ["(?i)^/A", "(?i)^/A"] ∧
      (Scalar.atMost a.breakdown.adjustedScore a'.breakdown.adjustedScore = true ∧
        Scalar.atMost a.breakdown.blendedScore a'.breakdown.blendedScore = true ∧
        Scalar.atMost a.score a'.score = true ∧ a.level.severity ≤ a'.level.severity) ∧
      a.breakdown.adjustedScore = .finite (75 / 2) ∧
      a'.breakdown.adjustedScore = .finite (225 / 2) ∧ a.level = .low ∧ a'.level = .medium := by
  intro now ctx p rule front back r a a'
  have valid : ∀ s ∈ front ++ r :: back, s.issues = [] := by decide +kernel
  have validProfile : p.issues = [] := by decide +kernel
  let uses := usesOf (enabledConditions (front ++ r :: back)) ctx
  have served : ∀ c ∈ enabledConditions (front ++ r :: back),
      c.ServedAlike uses (ctx.resolve c.field) := by decide +kernel
  have order : orderedRules (front ++ back) = front ++ back :=
    sortByPriority_of_descending (by decide)
  have order' : orderedRules (front ++ r :: back) = front ++ r :: back :=
    sortByPriority_of_descending (by decide)
  have found : a = assessmentOf "a" ctx p
      (p.adjustedBy ((matchingOf ctx (front ++ back)).run .empty).1) := by
    rw [← order]
    exact fst_assess "a" p (front ++ back) _
  have found' : a' = assessmentOf "b" ctx p
      (p.adjustedBy ((matchingOf ctx (front ++ r :: back)).run .empty).1) := by
    rw [← order']
    exact fst_assess "b" p (front ++ r :: back) _
  refine ⟨valid, validProfile, by decide +kernel, ?_, ?_, ?_, ?_, ?_⟩
  · exact assess_insert_add validProfile (by decide +kernel) rfl rfl (by decide +kernel)
      (by decide +kernel) (List.Subset.refl uses) served (.fresh _) (.fresh _) "a" "b"
  · rw [found]
    decide +kernel
  · rw [found']
    decide +kernel
  · rw [found]
    decide +kernel
  · rw [found']
    decide +kernel

/-- A rule that matches by its second condition, after the first one failed, may keep a later rule
    from matching: the pattern of the first one then stands in the place of that of the later. -/
theorem matchingOf_behind {ctx : Context} {r later : ScoringRule} {first second only : Condition}
    (conditions : r.conditions = [first, second]) (conditions' : later.conditions = [only])
    (isOr : second.connective = .or) (noPattern : second.operator ≠ .regex)
    (holds : second.holds (ctx.resolve second.field) = true)
    (alone : only.holds (ctx.resolve only.field) = true) {n : Nat}
    {after : PatternCache}
    (failed : (PatternCache.ofCapacity n).judge first (ctx.resolve first.field) = (false, after))
    (refused : (after.judge only (ctx.resolve only.field)).1 = false) :
    ((matchingOf ctx [later]).run (.ofCapacity n)).1 = [later] ∧
      ((matchingOf ctx [r, later]).run (.ofCapacity n)).1 = [r] := by
  constructor
  · have served : ((PatternCache.ofCapacity n).judge only (ctx.resolve only.field)).1 =
        only.holds (ctx.resolve only.field) :=
      (PatternCache.servedAlike_iff _ [] _).mpr (fun _ _ _ none => nomatch none) _ (.fresh n)
    have fresh : ((matchConditions later.conditions ctx).run (.ofCapacity n)).1.matched = true := by
      rw [conditions']
      exact served.trans alone
    rw [matchingOf_cons rfl rfl, fresh]
    rfl
  · have last : after.judge second (ctx.resolve second.field) = (true, after) := by
      rw [PatternCache.judge_of_no_pattern _ noPattern, holds]
    obtain ⟨decided, left⟩ := matchConditions_of_failed failed last isOr
    rw [← conditions] at decided left
    have next : ((matchConditions later.conditions ctx).run after).1.matched = false := by
      rw [conditions']
      exact refused
    rw [matchingOf_cons rfl rfl, decided, left, matchingOf_cons rfl rfl, next]
    rfl

/-- A rule that adds nothing comes first, with the deepest pattern and its flag; so a later rule,
    which has the pattern with the option, does not match any more. -/
theorem assess_insert_lowers :
    let now : Instant := ⟨0, 0, 0, by decide, by decide⟩
    let ctx : Context := { timestamp := now, method := "GET", path := "/a" }
    let p : Profile := .new now "p" .medium 50
    let onMethod : Condition := { field := "method", operator := .present, connective := .or }
    let r : ScoringRule :=
      { ScoringRule.new now "first" [.onPath true ("(?i)" ++ Pattern.deepest), onMethod] .add 0
        with priority := 90 }
    let later : ScoringRule := .new now "later" [.onPath false Pattern.deepest] .add 10
    later.issues = [] ∧ p.issues = [] ∧ r.matchesAlone ctx = true ∧
      ∀ n, let a : Assessment Exact := ((assess "a" ctx p [later]).run (.ofCapacity n)).1
        let a' : Assessment Exact := ((assess "b" ctx p [r, later]).run (.ofCapacity n)).1
        a.breakdown.adjustedScore = .finite 60 ∧ a'.breakdown.adjustedScore = .finite 50 ∧
          Scalar.atMost a.score a'.score = false := by
  intro now ctx p onMethod r later
  have path : ctx.resolve "path" = some (.text "/a") := rfl
  have valid : later.issues = [] := by
    have apart : later.issues = (ScoringRule.new now "later" [] .add 10).issues ++
        [Condition.onPath false Pattern.deepest].flatMap Condition.issues := by
      rw [ScoringRule.issues, ScoringRule.issues, ScoringRule.new, List.flatMap_nil,
        List.append_nil]
      rfl
    rw [apart, List.flatMap_singleton, Condition.issues_onPath_deepest]
    decide +kernel
  have present : onMethod.holds (ctx.resolve "method") = true := rfl
  have matched : r.matchesAlone ctx = true := by
    rw [ScoringRule.matchesAlone, matchAlone, matched_run]
    exact (joined_of_or _ _ rfl).trans (Bool.or_eq_true_iff.mpr (.inr present))
  have order : orderedRules [later] = [later] := sortByPriority_of_descending (by decide)
  have order' : orderedRules [r, later] = [r, later] := sortByPriority_of_descending (by decide)
  refine ⟨valid, by decide +kernel, matched, fun n => ?_⟩
  intro a a'
  obtain ⟨failed, refused, found⟩ := Condition.judge_deepest n
  rw [← path] at failed refused found
  obtain ⟨without, inserted⟩ :
      ((matchingOf ctx [later]).run (.ofCapacity n)).1 = [later] ∧
        ((matchingOf ctx [r, later]).run (.ofCapacity n)).1 = [r] :=
    matchingOf_behind rfl rfl rfl (by decide) present found (Prod.ext failed rfl) refused
  have left : a = assessmentOf "a" ctx p (p.adjustedBy [later]) := by
    rw [← without, ← order]
    exact fst_assess "a" p [later] _
  have left' : a' = assessmentOf "b" ctx p (p.adjustedBy [r]) := by
    rw [← inserted, ← order']
    exact fst_assess "b" p [r, later] _
  rw [left, left']
  decide +kernel

end Verdict
