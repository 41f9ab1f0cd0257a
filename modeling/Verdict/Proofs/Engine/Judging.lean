import Verdict.Proofs.Engine.Operation
import Verdict.Proofs.Resolution.Order
import Verdict.Proofs.Store.Write

/-!
# What an engine judges by

Engines of one configuration whose snapshots hold the same entities decide alike
(`Engine.decide_alike`) and find the same risk (`Engine.assess_alike`).  The patterns that each has
kept make no difference as long as they are kept as they compile, which they are in every engine in
use (`Engine.InUse.faithful`); nor do the names of assessments and the times at which they are made.
-/

namespace Verdict

variable {ctx : Context}

/-! ## Assessments -/

section

variable {ν : Type}

/-- Whether two assessments find the same risk: the same score, level, profile and breakdown. -/
structure Assessment.SameRisk (a a' : Assessment ν) : Prop where
  score : a.score = a'.score
  level : a.level = a'.level
  profileUsed : a.profileUsed = a'.profileUsed
  breakdown : a.breakdown = a'.breakdown

theorem Assessment.SameRisk.symm {a a' : Assessment ν} (same : a.SameRisk a') : a'.SameRisk a :=
  ⟨same.score.symm, same.level.symm, same.profileUsed.symm, same.breakdown.symm⟩

variable [Scalar ν]

/-- What is asked of the enabled rules is asked of the rules in their order. -/
theorem forall_orderedRules {rules : List ScoringRule} {P : ScoringRule → Prop}
    (given : ∀ r ∈ rules, r.enabled = true → P r) : ∀ r ∈ orderedRules rules, P r := by
  intro r member
  obtain ⟨inside, enabled⟩ := List.mem_filter.mp (List.mem_mergeSort.mp member)
  exact given r inside enabled

theorem gives_adjustAll {order : List ScoringRule}
    (flags : ∀ r ∈ order, FlagsAgree r.conditions ctx) (t : Tally ν (AppliedAdjustment ν)) :
    ∃ t', Gives PatternCache.Faithful (t.adjustAll ctx order) t' := by
  induction order generalizing t with
  | nil => exact ⟨t, .pure t⟩
  | cons r rest ih =>
    obtain ⟨here, later⟩ := List.forall_mem_cons.mp flags
    let m := matchAlone r.conditions ctx
    obtain ⟨t', given⟩ := ih later (if m.matched then t.adjust r else t)
    exact ⟨t', (gives_matchConditions here.judgesAlone).bind given⟩

/-- An assessment is the same from every cache that keeps patterns as they compile; its name is only
    passed on. -/
theorem gives_assess {rules : List ScoringRule}
    (flags : ∀ r ∈ rules, r.enabled = true → FlagsAgree r.conditions ctx) (p : Profile) :
    ∃ a : String → Assessment ν,
      (∀ id, Gives PatternCache.Faithful (assess id ctx p rules) (a id)) ∧
        ∀ id id', (a id).SameRisk (a id') := by
  obtain ⟨t, given⟩ :=
    gives_adjustAll (ν := ν) (forall_orderedRules flags) ⟨Scalar.ofFloat p.baseScore, []⟩
  exact ⟨_, fun _ => given.bind (.pure _), fun _ _ => ⟨rfl, rfl, rfl, rfl⟩⟩

/-! ## Profiles -/

/-- A profile as if it had been updated at some instant. -/
def Profile.updatedOn (t : Instant) (p : Profile) : Profile :=
  { p with updatedAt := t }

/-- An assessment does not tell when its profile was updated. -/
theorem assess_updatedOn (t : Instant) (id : String) (p : Profile) (rules : List ScoringRule) :
    (assess id ctx (p.updatedOn t) rules : Judge (Assessment ν)) = assess id ctx p rules := rfl

end

/-- The choice of a profile does not depend on when the profiles were updated. -/
theorem selectProfile?_updatedOn (t : Instant) (profiles : List Profile) :
    selectProfile? ctx (profiles.map (Profile.updatedOn t)) =
      (selectProfile? ctx profiles).map (Profile.updatedOn t) := by
  have ofClass : ∀ level, (profiles.map (Profile.updatedOn t)).find? (·.category == level) =
      (profiles.find? (·.category == level)).map (Profile.updatedOn t) := fun _ => List.find?_map ..
  have byDefault : (profiles.map (Profile.updatedOn t)).find? Profile.isDefault =
      (profiles.find? Profile.isDefault).map (Profile.updatedOn t) := List.find?_map ..
  simp only [selectProfile?, ofClass, byDefault, List.head?_map, Option.map_or, Option.map_bind]
  rfl

namespace Engine

/-- Up to when it was updated, the profile for a request does not depend on the time. -/
theorem updatedOn_profileFor (t : Instant) (e : Engine) (now : Instant) :
    (e.profileFor now ctx).updatedOn t =
      let managed := e.profiles.snapshot.items.map (Profile.updatedOn t)
      let profiles := if managed.isEmpty then Profile.standardSet t else managed
      (selectProfile? ctx profiles).getD (Profile.new t "standard" .medium 30) := by
  have standard : Profile.standardSet t = (Profile.standardSet now).map (Profile.updatedOn t) := rfl
  have last : Profile.new t "standard" .medium 30 =
      (Profile.new now "standard" .medium 30).updatedOn t := rfl
  simp only [profileFor, List.isEmpty_map, standard, last]
  rw [← apply_ite (List.map (Profile.updatedOn t)), selectProfile?_updatedOn]
  exact (Option.getD_map ..).symm

/-! ## Engines in use -/

/-- Whether an engine keeps all patterns as they compile. -/
structure Faithful (e : Engine) : Prop where
  rules : e.rulePatterns.Faithful
  scoringRules : e.scoringPatterns.Faithful

/-- Whether the flag in the text does what the option to ignore case does in all patterns that an
    engine may need for a request. -/
structure FlagsAgree (e : Engine) (ctx : Context) : Prop where
  rules : ∀ r ∈ e.rules.snapshot.items, r.isApplicable ctx = true →
    Verdict.FlagsAgree r.conditions ctx
  scoringRules : ∀ r ∈ e.scoringRules.snapshot.items, r.enabled = true →
    Verdict.FlagsAgree r.conditions ctx

/-- An engine starts with no patterns. -/
theorem faithful_of_start {config : Config} {rules : Repository Rule}
    {scoringRules : Repository ScoringRule} {profiles : Repository Profile}
    {providers : List Provider} {bus : Bus} {e : Engine}
    (started : start config rules scoringRules profiles providers bus = .ok e) : e.Faithful := by
  simp only [start, bind_eq_ok] at started
  obtain ⟨-, -, _, -, _, -, _, -, made⟩ := started
  cases made
  exact ⟨PatternCache.faithful_ofCapacity _, PatternCache.faithful_ofCapacity _⟩

theorem faithful_dropPatterns (e : Engine) : e.dropPatterns.Faithful :=
  ⟨PatternCache.faithful_clear _, PatternCache.faithful_clear _⟩

/-- Trying a rule judges it twice: its conditions alone, and a decision on it. -/
theorem testRule_on {e : Engine} {id : String} {r : Rule} (found : e.rules.get id = .ok r) :
    let m := (matchConditions r.conditions ctx).run e.rulePatterns
    let d := (resolve e.config.vocabulary [r] ctx).run m.2
    (testRule id ctx).on e =
      (.ok ⟨id, r.isApplicable ctx, m.1.matched, m.1.hits, m.1.confidence r.conditions, d.1⟩,
        { e with rulePatterns := d.2 }) := by
  rw [testRule, Operation.on_get, found]
  rfl

section

variable {e : Engine} (faithful : e.Faithful)

include faithful

theorem Faithful.after_decide (flags : e.FlagsAgree ctx) : ((decide ctx).run e).2.Faithful := by
  obtain ⟨d, given⟩ := gives_resolve flags.rules e.config.vocabulary
  exact ⟨(given _ faithful.rules).2, faithful.scoringRules⟩

theorem Faithful.after_assess (flags : e.FlagsAgree ctx) (now : Instant) (id : String) :
    ((assess now id ctx).run e).2.Faithful := by
  obtain ⟨a, given, -⟩ := gives_assess (ν := Float) flags.scoringRules (e.profileFor now ctx)
  exact ⟨faithful.rules, (given id _ faithful.scoringRules).2⟩

theorem Faithful.after_testRule {id : String}
    (flags : ∀ r, e.rules.get id = .ok r → Verdict.FlagsAgree r.conditions ctx) :
    ((testRule id ctx).on e).2.Faithful := by
  cases found : e.rules.get id with
  | error cause =>
    have failed : (testRule id ctx).on e = (.error cause, e) := by
      rw [testRule, Operation.on_get, found]
      rfl
    rw [failed]
    exact faithful
  | ok r =>
    have here := flags r found
    have alone : ∀ r' ∈ [r], r'.isApplicable ctx = true → Verdict.FlagsAgree r'.conditions ctx :=
      List.forall_mem_singleton.mpr fun _ => here
    obtain ⟨d, decided⟩ := gives_resolve alone e.config.vocabulary
    have matched := (gives_matchConditions here.judgesAlone _ faithful.rules).2
    rw [testRule_on found]
    exact ⟨(decided _ matched).2, faithful.scoringRules⟩

end

/-- The engines that come about by starting one and using it.  What else is done with an engine
    drops its patterns or leaves them as they are. -/
inductive InUse : Engine → Prop where
  | started {config : Config} {rules : Repository Rule} {scoringRules : Repository ScoringRule}
      {profiles : Repository Profile} {providers : List Provider} {bus : Bus} {e : Engine}
      (done : start config rules scoringRules profiles providers bus = .ok e) : InUse e
  | decided {e : Engine} {ctx : Context} (before : InUse e) (flags : e.FlagsAgree ctx) :
      InUse ((decide ctx).run e).2
  | assessed {e : Engine} {ctx : Context} (before : InUse e) (flags : e.FlagsAgree ctx)
      (now : Instant) (id : String) : InUse ((assess now id ctx).run e).2
  | tried {e : Engine} {ctx : Context} {id : String} (before : InUse e)
      (flags : ∀ r, e.rules.get id = .ok r → Verdict.FlagsAgree r.conditions ctx) :
      InUse ((testRule id ctx).on e).2
  | dropped {e : Engine} (before : InUse e) : InUse e.dropPatterns
  | managed {e e' : Engine} (before : InUse e) (rules : e'.rulePatterns = e.rulePatterns)
      (scoringRules : e'.scoringPatterns = e.scoringPatterns) : InUse e'

/-- An engine that has kept no patterns yet may have just been started. -/
theorem inUse_of_no_patterns {e : Engine} (rules : e.rulePatterns = .empty)
    (scoringRules : e.scoringPatterns = .empty) : e.InUse := by
  have started : start {} {} {} {} [] {} = .ok
      { rules := ⟨{}, ⟨1, []⟩⟩
        scoringRules := ⟨{}, ⟨1, []⟩⟩
        profiles := ⟨{}, ⟨1, []⟩⟩ } := rfl
  exact .managed (.started started) rules scoringRules

/-- An engine in use keeps all patterns as they compile. -/
theorem InUse.faithful {e : Engine} (inUse : e.InUse) : e.Faithful := by
  induction inUse with
  | started done => exact faithful_of_start done
  | decided before flags ih => exact ih.after_decide flags
  | assessed before flags now id ih => exact ih.after_assess flags now id
  | tried before flags ih => exact ih.after_testRule flags
  | dropped before ih => exact faithful_dropPatterns _
  | managed before rules scoringRules ih =>
    exact ⟨rules ▸ ih.rules, scoringRules ▸ ih.scoringRules⟩

/-! ## Two engines -/

variable {e e' : Engine}

/-- Engines that hold the same rules for requests decide alike. -/
theorem decide_alike (vocabulary : e.config.vocabulary = e'.config.vocabulary)
    (rules : e.rules.snapshot.items = e'.rules.snapshot.items) (flags : e.FlagsAgree ctx)
    (faithful : e.Faithful) (faithful' : e'.Faithful) :
    ((decide ctx).run e).1 = ((decide ctx).run e').1 := by
  obtain ⟨d, given⟩ := gives_resolve flags.rules e.config.vocabulary
  have decided : ∀ e : Engine, ((decide ctx).run e).1 =
      ((resolve e.config.vocabulary e.rules.snapshot.items ctx).run e.rulePatterns).1 :=
    fun _ => rfl
  rw [decided, decided, ← vocabulary, ← rules]
  exact given.eq faithful.rules faithful'.rules

/-- Engines that hold the same scoring rules and profiles for requests find the same risk. -/
theorem assess_alike (scoringRules : e.scoringRules.snapshot.items = e'.scoringRules.snapshot.items)
    (profiles : e.profiles.snapshot.items = e'.profiles.snapshot.items) (flags : e.FlagsAgree ctx)
    (faithful : e.Faithful) (faithful' : e'.Faithful) (now now' : Instant) (id id' : String) :
    ((assess now id ctx).run e).1.SameRisk ((assess now' id' ctx).run e').1 := by
  have sameProfile :
      (e.profileFor now ctx).updatedOn now = (e'.profileFor now' ctx).updatedOn now := by
    rw [updatedOn_profileFor, updatedOn_profileFor, profiles]
  obtain ⟨a, given, sameRisk⟩ :=
    gives_assess (ν := Float) flags.scoringRules ((e.profileFor now ctx).updatedOn now)
  have assessed : ((assess now id ctx).run e).1 = a id := by
    have result := given id
    rw [assess_updatedOn] at result
    exact (result _ faithful.scoringRules).1
  have assessed' : ((assess now' id' ctx).run e').1 = a id' := by
    have result := given id'
    rw [sameProfile, scoringRules, assess_updatedOn] at result
    exact (result _ faithful'.scoringRules).1
  rw [assessed, assessed']
  exact sameRisk id id'

end Engine

end Verdict
