import Mathlib.Data.List.Forall2
import Verdict.Proofs.Resolution.Sequence

/-!
# The verdict of an enforced decision

A resolution keeps seven fields and folds the rules that match into them.  `Settled` is what ties
these fields to the records of the rules so far: the first one that blocks or allows has fixed the
verdict, and the first one that warns has raised the level, unless a rule denied.
`resolve_followsMatches` reads the whole verdict of a decision off the rules it reports as matched.
-/

namespace Verdict

namespace MatchedRule

/-- Whether an enabled action of the rule is of one of some types. -/
def carries (m : MatchedRule) (types : List ActionType) : Bool :=
  m.actions.any fun a => a.enabled && types.contains a.actionType

/-- Whether the rule blocks. -/
def blocks (m : MatchedRule) : Bool :=
  m.carries [.block]

/-- Whether the rule allows. -/
def allows (m : MatchedRule) : Bool :=
  m.carries [.allow]

/-- Whether the rule blocks or allows. -/
def decides (m : MatchedRule) : Bool :=
  m.blocks || m.allows

/-- Whether the rule warns. -/
def warns (m : MatchedRule) : Bool :=
  m.carries [.alert, .notify, .quarantine, .redirect]

/-- A rule that blocks is one that decides. -/
theorem any_blocks_of_decides (m : MatchedRule) :
    (if m.decides then some m else none).any blocks = m.blocks := by
  cases block : m.blocks <;> cases allow : m.allows <;> simp [decides, block, allow]

end MatchedRule

/-- What the matched rules of a decision say its verdict is. -/
structure Decision.FollowsMatches (vocabulary : Vocabulary) (d : Decision) : Prop where
  /-- The matched rules come by descending priority. -/
  descending : d.matchedRules.Pairwise fun m m' => m'.priority ≤ m.priority
  /-- The first rule that blocks or allows decides, and a block wins inside it. -/
  allow : d.allow = false ↔
    ∃ m, d.matchedRules.find? MatchedRule.decides = some m ∧ m.blocks = true
  /-- Rules after one that decides do not change what it decided. -/
  fixed : ∀ high low, d.matchedRules = high ++ low → high.any MatchedRule.decides = true →
    (d.allow = false ↔ ∃ m, high.find? MatchedRule.decides = some m ∧ m.blocks = true)
  levelDeny : d.level = .deny ↔ d.allow = false
  levelWarn : d.level = .warn ↔ d.allow = true ∧ d.matchedRules.any MatchedRule.warns = true
  reasonDeny : d.level = .deny →
    (d.matchedRules.find? MatchedRule.decides).map MatchedRule.ruleName = some d.reason
  reasonWarn : d.level = .warn →
    (d.matchedRules.find? MatchedRule.warns).map MatchedRule.ruleName = some d.reason
  reasonAllow : d.level = .allow → d.matchedRules ≠ [] →
    d.reason = "matched " ++ ", ".intercalate (d.matchedRules.map MatchedRule.ruleName)
  reasonDefault : d.matchedRules = [] → d.reason = vocabulary.defaultReason
  verdict : d.verdict = vocabulary.label d.level
  /-- Each matched rule, in turn, has one entry among the reasons, which begins with its name. -/
  reasons : List.Forall₂ (fun note m => ∃ said, note = m.ruleName ++ (": " ++ said)) d.reasons
    d.matchedRules

namespace Resolution

/-! ## The effects of a rule, read off its record -/

section effects

variable (r : Rule) (m : Match)

theorem hasEffect_eq_carries {effect : Effect} {types : List ActionType}
    (same : ∀ t : ActionType, (t.effect == effect) = types.contains t) :
    hasEffect r.enabledActions effect = (recordOf r m).carries types := by
  simp only [hasEffect, MatchedRule.carries, recordOf, Rule.enabledActions, List.any_filter, same,
    Bool.and_self_left]

theorem hasEffect_deny : hasEffect r.enabledActions .deny = (recordOf r m).blocks :=
  hasEffect_eq_carries r m fun t => by cases t <;> rfl

theorem hasEffect_allow : hasEffect r.enabledActions .allow = (recordOf r m).allows :=
  hasEffect_eq_carries r m fun t => by cases t <;> rfl

theorem hasEffect_warn : hasEffect r.enabledActions .warn = (recordOf r m).warns :=
  hasEffect_eq_carries r m fun t => by cases t <;> rfl

/-- A note begins with the name of its rule. -/
theorem noteOf_names (vocabulary : Vocabulary) (verdictFixed : Bool) :
    ∃ said, noteOf vocabulary verdictFixed r = (recordOf r m).ruleName ++ (": " ++ said) := by
  have ignored : ": deny ignored, verdict fixed by higher priority rule" =
      ": " ++ "deny ignored, verdict fixed by higher priority rule" := by decide
  have plain : ": matched" = ": " ++ "matched" := by decide
  unfold noteOf
  simp only [ignored, plain]
  split_ifs <;> first | exact ⟨_, String.append_assoc ..⟩ | exact ⟨_, rfl⟩

end effects

/-! ## What the fields hold -/

/-- The level of a request that is allowed or not, where some rule warned or none did. -/
def levelOf (allow warned : Bool) : Level :=
  if allow then (if warned then .warn else .allow) else .deny

/-- What the fields say of the rules matched so far. -/
structure Settled (s : Resolution) : Prop where
  fixed : s.verdictFixed = (s.matched.find? MatchedRule.decides).isSome
  allow : s.allow = !(s.matched.find? MatchedRule.decides).any MatchedRule.blocks
  level : s.level = levelOf s.allow (s.matched.find? MatchedRule.warns).isSome
  denyReason : s.allow = false →
    s.denyReason = (s.matched.find? MatchedRule.decides).map MatchedRule.ruleName
  warnReason : s.level = .warn →
    s.warnReason = (s.matched.find? MatchedRule.warns).map MatchedRule.ruleName
  reasons : List.Forall₂ (fun note m => ∃ said, note = m.ruleName ++ (": " ++ said)) s.reasons
    s.matched

theorem settled_empty : Settled {} where
  fixed := rfl
  allow := rfl
  level := rfl
  denyReason := nofun
  warnReason := nofun
  reasons := .nil

theorem deny_eq (s : Resolution) (r : Rule) (m : Match) :
    s.deny r =
      let denies := (recordOf r m).blocks && !s.verdictFixed
      { s with
        allow := s.allow && !denies
        level := if denies then .deny else s.level
        denyReason := if denies then some r.name else s.denyReason } := by
  rw [deny, hasEffect_deny r m]
  cases (recordOf r m).blocks && !s.verdictFixed <;> simp

theorem fix_eq (s : Resolution) (r : Rule) (m : Match) :
    s.fix r = { s with verdictFixed := s.verdictFixed || (recordOf r m).decides } := by
  rw [fix, hasEffect_deny r m, hasEffect_allow r m, ← MatchedRule.decides]
  cases (recordOf r m).decides <;> simp

theorem warn_eq (s : Resolution) (r : Rule) (m : Match) :
    s.warn r =
      let warns := (recordOf r m).warns && s.level == .allow
      { s with
        level := if warns then .warn else s.level
        warnReason := if warns then some r.name else s.warnReason } := by
  rw [warn, hasEffect_warn r m]
  cases (recordOf r m).warns && s.level == .allow <;> simp

/-- A rule that matched keeps the fields settled. -/
theorem Settled.apply {vocabulary : Vocabulary} (enforcing : vocabulary.enforces = true)
    {s : Resolution} (before : s.Settled) (r : Rule) (m : Match) :
    (s.apply vocabulary r m).Settled := by
  obtain ⟨fixed, allow, level, denyReason, warnReason, reasons⟩ := before
  unfold Resolution.apply
  rw [if_pos enforcing, deny_eq s r m, fix_eq _ r m, warn_eq _ r m]
  generalize named : recordOf r m = x
  have name : r.name = x.ruleName := by rw [← named]; rfl
  -- The first rule that decides and the first one that warns stay what they were once there is one.
  have decider := @List.find?_append _ MatchedRule.decides s.matched [x]
  have warner := @List.find?_append _ MatchedRule.warns s.matched [x]
  rw [List.find?_singleton] at decider warner
  constructor
  · simp only [decider, fixed]
    cases s.matched.find? MatchedRule.decides <;> cases x.decides <;> rfl
  · simp only [decider, fixed, allow]
    cases s.matched.find? MatchedRule.decides with
    | some first => simp
    | none => simp [x.any_blocks_of_decides]
  · simp only [warner, level]
    generalize (x.blocks && !s.verdictFixed) = denies
    cases s.allow <;> cases denies <;> cases x.warns <;>
      cases s.matched.find? MatchedRule.warns <;> rfl
  · intro refused
    simp only [decider]
    cases first : s.matched.find? MatchedRule.decides with
    | some f =>
      have decided : s.verdictFixed = true := by rw [fixed, first]; rfl
      simp only [decided, Bool.not_true, Bool.and_false, Bool.not_false, Bool.and_true] at refused
      simp [decided, denyReason refused, first]
    | none =>
      have undecided : s.verdictFixed = false := by rw [fixed, first]; rfl
      have allowed : s.allow = true := by rw [allow, first]; rfl
      have blocks : x.blocks = true := by simpa [undecided, allowed] using refused
      simp [undecided, blocks, MatchedRule.decides, name]
  · intro warning
    simp only [warner]
    generalize (x.blocks && !s.verdictFixed) = denies at warning ⊢
    cases first : s.matched.find? MatchedRule.warns with
    | some g =>
      have raised : s.level ≠ .allow := by
        rw [level, first]
        cases s.allow <;> simp [levelOf]
      cases denies with
      | true => simp at warning
      | false =>
        have warned : s.level = .warn := by simpa [raised] using warning
        simp [warned, warnReason warned, first]
    | none =>
      have calm : s.level ≠ .warn := by
        rw [level, first]
        cases s.allow <;> simp [levelOf]
      cases denies with
      | true => simp at warning
      | false =>
        have raises : x.warns = true ∧ s.level = .allow := by simpa [calm] using warning
        simp [raises, name]
  · exact List.rel_append reasons (.cons (named ▸ noteOf_names r m vocabulary _) .nil)

theorem Settled.takeIn {vocabulary : Vocabulary} (enforcing : vocabulary.enforces = true)
    {s : Resolution} (before : s.Settled) (j : Judged) : (takeIn vocabulary s j).Settled := by
  have counted : ({ s with evaluated := s.evaluated + 1 } : Resolution).Settled :=
    ⟨before.fixed, before.allow, before.level, before.denyReason, before.warnReason,
      before.reasons⟩
  unfold Resolution.takeIn
  split
  · exact counted.apply enforcing j.rule j.outcome
  · exact counted

theorem Settled.foldl {vocabulary : Vocabulary} (enforcing : vocabulary.enforces = true)
    {s : Resolution} (before : s.Settled) (judged : List Judged) :
    (judged.foldl (Resolution.takeIn vocabulary) s).Settled := by
  induction judged generalizing s with
  | nil => exact before
  | cons j rest ih => exact ih (before.takeIn enforcing j)

/-- An evaluation under a vocabulary that enforces leaves the fields settled. -/
theorem run_settled {vocabulary : Vocabulary} (enforcing : vocabulary.enforces = true)
    (ctx : Context) (rules : List Rule) (cache : PatternCache) :
    ((run vocabulary ctx {} rules).run cache).1.Settled := by
  rw [run_eq_foldl rfl rfl]
  have h := settled_empty.foldl enforcing (throughCut ((judgeEach ctx rules).run cache).1)
  exact ⟨h.fixed, h.allow, h.level, h.denyReason, h.warnReason, h.reasons⟩

theorem Settled.level_deny {s : Resolution} (settled : s.Settled) :
    s.level = .deny ↔ s.allow = false := by
  rw [settled.level]
  cases s.allow <;> cases (s.matched.find? MatchedRule.warns).isSome <;> simp [levelOf]

theorem Settled.level_warn {s : Resolution} (settled : s.Settled) :
    s.level = .warn ↔ s.allow = true ∧ (s.matched.find? MatchedRule.warns).isSome = true := by
  rw [settled.level]
  cases s.allow <;> cases (s.matched.find? MatchedRule.warns).isSome <;> simp [levelOf]

theorem Settled.denies {s : Resolution} (settled : s.Settled) :
    s.allow = false ↔
      ∃ m, s.matched.find? MatchedRule.decides = some m ∧ m.blocks = true := by
  rw [settled.allow, Bool.not_eq_false', Option.any_eq_true]

/-- The reason of a refusal is the rule that denied. -/
theorem Settled.reason_deny {s : Resolution} (settled : s.Settled) (level : s.level = .deny) :
    (s.matched.find? MatchedRule.decides).map MatchedRule.ruleName = some s.reason := by
  have refused : s.allow = false := settled.level_deny.mp level
  obtain ⟨m, first, -⟩ := settled.denies.mp refused
  simp [reason, level, settled.denyReason refused, first]

/-- The reason of a warning is the rule that warned first. -/
theorem Settled.reason_warn {s : Resolution} (settled : s.Settled) (level : s.level = .warn) :
    (s.matched.find? MatchedRule.warns).map MatchedRule.ruleName = some s.reason := by
  obtain ⟨m, first⟩ := Option.isSome_iff_exists.mp (settled.level_warn.mp level).2
  simp [reason, level, settled.warnReason level, first]

/-- The rules that an evaluation matched come in the order in which they were to be evaluated. -/
theorem run_matched_descending {vocabulary : Vocabulary} {ctx : Context} {rules : List Rule}
    (order : rules.Pairwise fun r r' => r'.priority ≤ r.priority) (cache : PatternCache) :
    ((run vocabulary ctx {} rules).run cache).1.matched.Pairwise
      fun m m' => m'.priority ≤ m.priority := by
  obtain ⟨-, matched, -⟩ := @run_log vocabulary ctx rules cache _ _ rfl rfl
  have judged : ((judgeEach ctx rules).run cache).1.Pairwise
      fun j j' => j'.rule.priority ≤ j.rule.priority := by
    rw [← map_rule_judgeEach ctx rules cache, List.pairwise_map] at order
    exact order
  rw [matched, List.pairwise_map]
  exact (judged.take).filter _

end Resolution

/-! ## The decision -/

/-- The first rule that decides is the same with more rules after it. -/
theorem find?_decides_append {high : List MatchedRule}
    (decided : high.any MatchedRule.decides = true) (low : List MatchedRule) :
    (high ++ low).find? MatchedRule.decides = high.find? MatchedRule.decides := by
  rw [← List.isSome_find?] at decided
  obtain ⟨m, found⟩ := Option.isSome_iff_exists.mp decided
  rw [List.find?_append, found, Option.some_or]

/-- A decision of settled fields follows the rules it reports as matched. -/
theorem Resolution.Settled.finish {s : Resolution} (settled : s.Settled)
    (descending : s.matched.Pairwise fun m m' => m'.priority ≤ m.priority)
    {vocabulary : Vocabulary} (enforcing : vocabulary.enforces = true) (ctx : Context) :
    (s.finish vocabulary ctx).FollowsMatches vocabulary := by
  unfold Resolution.finish
  cases none : s.matched with
  | nil =>
    simp only [List.isEmpty_nil, if_true]
    exact {
      descending := .nil
      allow := by simp [Decision.noMatch]
      fixed := fun high low whole decided => by
        have empty : high = [] := by simp_all [Decision.noMatch]
        simp [empty] at decided
      levelDeny := by simp [Decision.noMatch]
      levelWarn := by simp [Decision.noMatch]
      reasonDeny := nofun
      reasonWarn := nofun
      reasonAllow := fun _ some => absurd rfl some
      reasonDefault := fun _ => rfl
      verdict := rfl
      reasons := .nil }
  | cons first rest =>
    rw [← none, if_neg (by simp [none])]
    exact {
      descending := descending
      allow := settled.denies
      fixed := fun high low whole decided => by
        rw [← find?_decides_append decided low, ← whole]
        exact settled.denies
      levelDeny := settled.level_deny
      levelWarn := by
        rw [← List.isSome_find?]
        exact settled.level_warn
      reasonDeny := settled.reason_deny
      reasonWarn := settled.reason_warn
      reasonAllow := fun level _ => by
        simp only at level
        simp only [Resolution.reason, level]
        rfl
      reasonDefault := fun empty => by simp [none] at empty
      verdict := if_pos enforcing
      reasons := settled.reasons }

/-- A decision in a vocabulary that enforces follows the rules that matched. -/
theorem followsMatches_of_enforces {v : Vocabulary} (enforces : v.enforces = true)
    (rules : List Rule) (ctx : Context) (cache : PatternCache) :
    ((resolve v rules ctx).run cache).1.FollowsMatches v := by
  rw [resolve_run]
  exact (Resolution.run_settled enforces ctx _ cache).finish
    (Resolution.run_matched_descending (descendingOrder_sortByPriority _).descending cache)
    enforces ctx

/-- The verdict of a decision under a vocabulary that enforces follows the rules that matched: it
    denies when the first of them that blocks or allows blocks, warns when it does not deny and
    one of them warns, and gives as its reason the rule that denied or that warned first. -/
theorem resolve_followsMatches (vocabulary : Vocabulary)
    (enforcing : vocabulary ≠ .classification) (rules : List Rule) (ctx : Context)
    (cache : PatternCache) :
    ((resolve vocabulary rules ctx).run cache).1.FollowsMatches vocabulary := by
  have enforces : vocabulary.enforces = true := by cases vocabulary <;> trivial
  exact followsMatches_of_enforces enforces rules ctx cache

theorem resolve_followsMatches_block_after_alert :
    let now : Instant := ⟨0, 0, 0, by decide, by decide⟩
    let rule (name : String) (priority : Int) (types : List ActionType) : Rule :=
      { id := name, name := name, priority := priority, createdAt := now, updatedAt := now,
        actions := types.map fun t => { actionType := t } }
    let rules := [rule "watch" 10 [.alert], rule "refuse" 5 [.log, .block], rule "pass" 1 [.allow]]
    let d := ((resolve .access rules { timestamp := now }).run .empty).1
    Vocabulary.access ≠ .classification ∧ d.FollowsMatches .access ∧
      d.matchedRules.map MatchedRule.ruleName = ["watch", "refuse", "pass"] ∧
      d.level = .deny ∧ d.reason = "refuse" := by
  intro now rule rules d
  have order : applicableRules rules { timestamp := now } = rules :=
    sortByPriority_of_descending (by decide)
  refine ⟨by decide, resolve_followsMatches .access (by decide) rules _ .empty, ?_, ?_, ?_⟩
  all_goals
    simp only [d]
    rw [resolve_run, order]
    rfl

end Verdict
