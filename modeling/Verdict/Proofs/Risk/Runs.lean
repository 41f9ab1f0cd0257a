import Verdict.Proofs.Risk.Turns

/-!
# Runs of scoring rules

What an assessment records of the rules that match, and what it keeps of those before a rule that
sets the score.  The records are the turns at which an adjustment is made, each from the score that
the one before it left (`assess_records`).  Nothing but the score passes from one turn to the next,
so that a rule that sets it makes all before it immaterial (`assess_of_set`).
-/

namespace Verdict

variable {ν : Type} [Scalar ν]

/-! ## Records -/

/-- The rules that match have their turns by descending priority, each from the score that the
    turn before it left, the first one from the base score.  A turn is recorded when the adjustment
    can be made and leaves a finite score; otherwise it divides by zero or would leave none, and
    the score stays.  The recorded turns follow one another in the same way.  Where kept patterns
    judge as they compile, those rules have turns that are enabled and match alone.  Lists of which
    the same rules are enabled at each priority get the same assessment but for its name. -/
theorem assess_records (id : String) (ctx : Context) (p : Profile) (rules : List ScoringRule) :
    (∀ cache : PatternCache,
      let matching := ((matchingOf ctx (orderedRules rules)).run cache).1
      let a : Assessment ν := ((assess id ctx p rules).run cache).1
      matching.Sublist (orderedRules rules) ∧
        ∃ (turns : List (ScoringTurn ν)) (score : ν),
          let made := turns.filter ScoringTurn.isMade
          turns.map ScoringTurn.rule = matching ∧
            turns.map ScoringTurn.before ++ [score] =
              Scalar.ofFloat p.baseScore :: turns.map ScoringTurn.after ∧
            made.map ScoringTurn.before ++ [score] =
              Scalar.ofFloat p.baseScore :: made.map ScoringTurn.after ∧
            a.breakdown.adjustments = made.map ScoringTurn.record ∧
            a.appliedRules = made.map (fun t => t.rule.id) ∧
            a.breakdown.adjustedScore = (Tally.scaleAll ctx p ⟨score, []⟩).score ∧
            ∀ t ∈ turns,
              (t.isMade = true ∧ t.result? = some t.after ∧ Scalar.isFinite t.after = true) ∨
                (t.isMade = false ∧ t.after = t.before ∧
                  (t.rule.adjustment.adjustmentType = .divide ∧
                      Scalar.same (Scalar.ofFloat t.rule.adjustment.value : ν) (Scalar.nat 0) =
                        true ∨
                    ∃ x, t.result? = some x ∧ Scalar.isFinite x = false))) ∧
      DescendingOrder ScoringRule.priority (rules.filter ScoringRule.enabled)
        (orderedRules rules) ∧
      ((∀ r ∈ rules, r.enabled = true → FlagsAgree r.conditions ctx) →
        ∀ cache : PatternCache, cache.Faithful →
          DescendingOrder ScoringRule.priority
            (rules.filter fun r => r.enabled && r.matchesAlone ctx)
            ((matchingOf ctx (orderedRules rules)).run cache).1) ∧
      ∀ rules' : List ScoringRule,
        (∀ priority, enabledAt rules' priority = enabledAt rules priority) → ∀ id' : String,
          (∀ cache : PatternCache, (assess id' ctx p rules' : Judge (Assessment ν)).run cache =
            ((fun a => { a with id := id' }) <$> assess id ctx p rules).run cache) ∧
          ((∀ r ∈ rules, r.enabled = true → FlagsAgree r.conditions ctx) →
            ∀ cache cache' : PatternCache, cache.Faithful → cache'.Faithful →
              ((assess id' ctx p rules' : Judge (Assessment ν)).run cache').1 =
                { ((assess id ctx p rules).run cache).1 with id := id' }) := by
  have order := descendingOrder_orderedRules rules
  refine ⟨fun cache => ?_, order, fun flags cache faithful => ?_, fun rules' same id' => ?_⟩
  · intro matching a
    let base : ν := Scalar.ofFloat p.baseScore
    have found : a = assessmentOf id ctx p (p.adjustedBy matching) := fst_assess id p rules cache
    rw [Profile.adjustedBy, foldl_adjust, List.nil_append] at found
    refine ⟨matchingOf_sublist ctx _ cache, turnsFrom base matching, scoreAfter base matching,
      turnsFrom_rules base matching, turnsFrom_chain base matching,
      turnsFrom_made_chain base matching, by rw [found]; rfl, ?_, by rw [found]; rfl, ?_⟩
    · rw [found, Assessment.appliedRules, assessmentOf, List.map_map]
      rfl
    · intro t _
      rw [← ScoringTurn.result_eq_none_iff]
      exact t.cases
  · have alone := fun r member enabled => (flags r member enabled).judgesAlone
    rw [(gives_matchingOf (forall_orderedRules alone) cache faithful).1]
    have kept := order.filter fun r => r.matchesAlone ctx
    rw [List.filter_filter] at kept
    simpa only [Bool.and_comm] using kept
  · have equal : (assess id' ctx p rules' : Judge (Assessment ν)) = assess id' ctx p rules := by
      rw [assess_eq, assess_eq, orderedRules_eq same]
    rw [equal]
    refine ⟨fun cache => by rw [← assess_id], fun flags cache cache' faithful faithful' => ?_⟩
    have alone := fun r member enabled => (flags r member enabled).judgesAlone
    rw [(gives_assess_alone alone id' p cache' faithful').1,
      (gives_assess_alone alone id p cache faithful).1]
    rfl

theorem assess_records_skipped_division :
    let now : Instant := ⟨0, 0, 0, by decide, by decide⟩
    let ctx : Context := { timestamp := now }
    let p : Profile := .new now "p" .medium 10
    let rule (id : String) (priority : Int) (type : AdjustmentType) (value : Float) : ScoringRule :=
      { ScoringRule.new now id [] type value with priority := priority }
    let rules := [rule "double" 90 .multiply 2, rule "divide" 50 .divide 0, rule "add" 10 .add 10]
    let rules' := [rule "add" 10 .add 10, { rule "off" 99 .set 0 with enabled := false },
      rule "divide" 50 .divide 0, rule "double" 90 .multiply 2]
    let a : Assessment Float := ((assess "a" ctx p rules).run .empty).1
    (∀ priority, enabledAt rules' priority = enabledAt rules priority) ∧
      (∀ cache : PatternCache, cache.Faithful →
        ((assess "b" ctx p rules' : Judge (Assessment Float)).run cache).1 = { a with id := "b" }) ∧
      a.appliedRules = ["double", "add"] ∧ Number.same a.breakdown.adjustedScore 30 = true := by
  intro now ctx p rule rules rules' a
  have same : ∀ priority, enabledAt rules' priority = enabledAt rules priority := by
    intro priority
    simp only [enabledAt, rules, rules', rule, ScoringRule.new, List.filter_cons, List.filter_nil,
      Bool.true_and, Bool.false_and, Bool.false_eq_true, if_false, beq_iff_eq]
    by_cases ten : (10 : Int) = priority
    · subst ten
      rfl
    · by_cases fifty : (50 : Int) = priority
      · subst fifty
        rfl
      · simp only [ten, fifty, if_false]
  have flags : ∀ r ∈ rules, r.enabled = true → FlagsAgree r.conditions ctx := by
    intro r member _ c inside
    have none : r.conditions = [] := by
      simp only [rules, List.mem_cons, List.not_mem_nil, or_false] at member
      obtain rfl | rfl | rfl := member <;> rfl
    rw [none] at inside
    cases inside
  have order : orderedRules rules = rules := sortByPriority_of_descending (by decide)
  have found : a = assessmentOf "a" ctx p (p.adjustedBy rules) := by
    change ((assess "a" ctx p rules).run .empty).1 = _
    rw [assess_eq, order]
    rfl
  refine ⟨same, fun cache faithful => ?_, ?_, ?_⟩
  · exact ((assess_records "a" ctx p rules).2.2.2 rules' same "b").2 flags .empty cache
      (PatternCache.faithful_ofCapacity _) faithful
  · rw [found]
    decide +kernel
  · rw [found]
    decide +kernel

/-! ## Setting the score -/

/-- After a rule that sets the score it does not matter what the score was. -/
theorem scoreAfter_of_set {s : ScoringRule} (isSet : s.adjustment.adjustmentType = .set)
    (finite : Scalar.isFinite (Scalar.ofFloat s.adjustment.value : ν) = true) (score : ν)
    (front back : List ScoringRule) :
    scoreAfter score (front ++ s :: back) =
      scoreAfter (Scalar.ofFloat s.adjustment.value) back := by
  have set (before : ν) :
      ScoringTurn.after ⟨s, before⟩ = Scalar.ofFloat s.adjustment.value := by
    have result : (⟨s, before⟩ : ScoringTurn ν).result? =
        some (Scalar.ofFloat s.adjustment.value) := by
      rw [ScoringTurn.result?, isSet]
      rfl
    exact (ScoringTurn.after_of_next (ScoringTurn.next_of_finite result finite)).2
  rw [scoreAfter_append]
  exact congrArg (scoreAfter · back) (set _)

/-- The score after the rules is all of them that the rest of an assessment depends on, apart from
    their records. -/
theorem assessmentOf_of_score {ctx : Context} {p p' : Profile} (sameId : p.id = p'.id)
    (multipliers : p.multipliers = p'.multipliers) (thresholds : p.thresholds = p'.thresholds)
    {t t' : Tally ν (AppliedAdjustment ν)} (score : t.score = t'.score) (id id' : String) :
    let a := assessmentOf id ctx p t
    let a' := assessmentOf id' ctx p' t'
    a.breakdown.adjustedScore = a'.breakdown.adjustedScore ∧
      a.breakdown.multipliers = a'.breakdown.multipliers ∧
      a.breakdown.blendedScore = a'.breakdown.blendedScore ∧ a.score = a'.score ∧
      a.level = a'.level ∧ a.profileUsed = a'.profileUsed := by
  have scaled : Tally.scaleAll ctx p ⟨t.score, []⟩ = Tally.scaleAll ctx p' ⟨t'.score, []⟩ := by
    rw [Tally.scaleAll, Tally.scaleAll, multipliers, score]
  simp only [assessmentOf, scaled, thresholds, sameId, and_self]

/-- A rule that sets the score to a finite value makes everything before it immaterial.  If the
    rules that match in two runs, in the order of their turns, end alike from such a rule on, then
    the runs end alike under any profiles that differ in their base scores only: in the score after
    the rules and multipliers, the record of the multipliers, the blended and the final score and
    the level. -/
theorem assess_of_set {ctx : Context} {p p' : Profile} (sameId : p.id = p'.id)
    (multipliers : p.multipliers = p'.multipliers) (thresholds : p.thresholds = p'.thresholds)
    {rules rules' : List ScoringRule} {cache cache' : PatternCache}
    {front front' back : List ScoringRule} {s : ScoringRule}
    (ends : ((matchingOf ctx (orderedRules rules)).run cache).1 = front ++ s :: back)
    (ends' : ((matchingOf ctx (orderedRules rules')).run cache').1 = front' ++ s :: back)
    (isSet : s.adjustment.adjustmentType = .set)
    (finite : Scalar.isFinite (Scalar.ofFloat s.adjustment.value : ν) = true) (id id' : String) :
    let a : Assessment ν := ((assess id ctx p rules).run cache).1
    let a' : Assessment ν := ((assess id' ctx p' rules').run cache').1
    a.breakdown.adjustedScore = a'.breakdown.adjustedScore ∧
      a.breakdown.multipliers = a'.breakdown.multipliers ∧
      a.breakdown.blendedScore = a'.breakdown.blendedScore ∧ a.score = a'.score ∧
      a.level = a'.level ∧ a.profileUsed = a'.profileUsed := by
  intro a a'
  have found : a = assessmentOf id ctx p (p.adjustedBy (front ++ s :: back)) := by
    rw [← ends]
    exact fst_assess id p rules cache
  have found' : a' = assessmentOf id' ctx p' (p'.adjustedBy (front' ++ s :: back)) := by
    rw [← ends']
    exact fst_assess id' p' rules' cache'
  have score : (p.adjustedBy (front ++ s :: back) : Tally ν _).score =
      (p'.adjustedBy (front' ++ s :: back)).score := by
    rw [Profile.adjustedBy, Profile.adjustedBy, foldl_adjust, foldl_adjust,
      scoreAfter_of_set isSet finite, scoreAfter_of_set isSet finite]
  rw [found, found']
  exact assessmentOf_of_score sameId multipliers thresholds score id id'

theorem assess_of_set_after_overflow :
    let now : Instant := ⟨0, 0, 0, by decide, by decide⟩
    let ctx : Context := { timestamp := now }
    let p : Profile := .new now "p" .medium 10
    let p' : Profile := { p with baseScore := 99 }
    let rule (id : String) (priority : Int) (type : AdjustmentType) (value : Float) : ScoringRule :=
      { ScoringRule.new now id [] type value with priority := priority }
    let front := [rule "add" 90 .add 5]
    let front' := [rule "huge" 95 .multiply 1e300, rule "huger" 94 .multiply 1e300,
      rule "divide" 90 .divide 0]
    let set := rule "set" 50 .set 50
    let back := [rule "double" 10 .multiply 2]
    let rules := front ++ set :: back
    let rules' := front' ++ set :: back
    let a : Assessment Float := ((assess "a" ctx p rules).run .empty).1
    let a' : Assessment Float := ((assess "b" ctx p' rules').run .empty).1
    ((matchingOf ctx (orderedRules rules)).run .empty).1 = front ++ set :: back ∧
      ((matchingOf ctx (orderedRules rules')).run .empty).1 = front' ++ set :: back ∧
      set.adjustment.adjustmentType = .set ∧ Number.isFinite set.adjustment.value = true ∧
      a.breakdown.adjustedScore = a'.breakdown.adjustedScore ∧
      a.breakdown.multipliers = a'.breakdown.multipliers ∧
      a.breakdown.blendedScore = a'.breakdown.blendedScore ∧ a.score = a'.score ∧
      a.level = a'.level ∧ a.profileUsed = a'.profileUsed := by
  intro now ctx p p' rule front front' set back rules rules' a a'
  have order : orderedRules rules = rules := sortByPriority_of_descending (by decide)
  have order' : orderedRules rules' = rules' := sortByPriority_of_descending (by decide)
  have ends : ((matchingOf ctx (orderedRules rules)).run .empty).1 = front ++ set :: back := by
    rw [order]
    rfl
  have ends' : ((matchingOf ctx (orderedRules rules')).run .empty).1 = front' ++ set :: back := by
    rw [order']
    rfl
  have finite : Scalar.isFinite (Scalar.ofFloat set.adjustment.value : Float) = true := by
    decide +kernel
  have isSet : set.adjustment.adjustmentType = .set := rfl
  have sameId : p.id = p'.id := rfl
  have multipliers : p.multipliers = p'.multipliers := rfl
  have thresholds : p.thresholds = p'.thresholds := rfl
  exact ⟨ends, ends', isSet, finite,
    assess_of_set sameId multipliers thresholds ends ends' isSet finite "a" "b"⟩

end Verdict
