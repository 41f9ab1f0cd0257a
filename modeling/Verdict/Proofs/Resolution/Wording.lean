import Verdict.Proofs.Resolution.Order
import Verdict.Proofs.Resolution.Verdict

/-!
# What the vocabulary decides

Rules are judged, and the evaluation is cut, without a look at the vocabulary; it comes in where the
rules judged so far are folded into a verdict (`resolve_judged`).  So decisions in different
vocabularies find the same rules.  Those that enforce also rule alike, as each of them follows the
rules that matched (`Decision.FollowsMatches`), and one that only labels never refuses and never
warns.  `resolve_across_vocabularies` puts this together for all vocabularies at once.
-/

namespace Verdict

namespace Decision

/-- Whether two decisions are about the same request and found the same rules. -/
structure SameFindings (d d' : Decision) : Prop where
  requestId : d.requestId = d'.requestId
  timestamp : d.timestamp = d'.timestamp
  matchedRules : d.matchedRules = d'.matchedRules
  evaluatedRules : d.evaluatedRules = d'.evaluatedRules
  shortCircuited : d.shortCircuited = d'.shortCircuited

/-- Whether two decisions come to the same, and for the same reason if any rule matched. -/
structure SameRuling (d d' : Decision) : Prop where
  allow : d.allow = d'.allow
  level : d.level = d'.level
  reason : d.matchedRules ≠ [] → d.reason = d'.reason

/-- Whether a decision only labels: it lets the request pass without a warning. -/
structure Labels (d : Decision) : Prop where
  allow : d.allow = true
  level : d.level = .allow
  labeled : d.verdict = "labeled" ↔ d.matchedRules ≠ []
  unlabeled : d.verdict = "unlabeled" ↔ d.matchedRules = []

/-- What decisions on one request, one in each vocabulary, have in common. -/
structure AcrossVocabularies (d : Vocabulary → Decision) : Prop where
  findings : ∀ v v', (d v).SameFindings (d v')
  ruling : (d .access).SameRuling (d .compliance)
  labels : (d .classification).Labels
  /-- The verdict is the word for the level, but that labels are given whatever the level is. -/
  words : ∀ v, v ≠ .classification → (d v).verdict = v.label (d v).level

/-- Decisions that follow the same rules rule alike. -/
theorem FollowsMatches.sameRuling {v v' : Vocabulary} {d d' : Decision}
    (follows : d.FollowsMatches v) (follows' : d'.FollowsMatches v')
    (same : d.matchedRules = d'.matchedRules) : d.SameRuling d' := by
  have refused : d.allow = false ↔ d'.allow = false := by
    rw [follows.allow, follows'.allow, same]
  have allow : d.allow = d'.allow := by
    rwa [Bool.eq_iff_iff, ← Bool.not_eq_false, ← Bool.not_eq_false, not_iff_not]
  have denies : d.level = .deny ↔ d'.level = .deny := by
    rw [follows.levelDeny, follows'.levelDeny, refused]
  have warns : d.level = .warn ↔ d'.level = .warn := by
    rw [follows.levelWarn, follows'.levelWarn, allow, same]
  have level : d.level = d'.level := by
    cases here : d.level with
    | deny => exact (denies.mp here).symm
    | warn => exact (warns.mp here).symm
    | allow =>
      cases there : d'.level with
      | deny => exact absurd (denies.mpr there) (by simp [here])
      | warn => exact absurd (warns.mpr there) (by simp [here])
      | allow => rfl
  refine ⟨allow, level, fun matched => ?_⟩
  cases here : d.level with
  | deny =>
    have reason := follows.reasonDeny here
    rw [same, follows'.reasonDeny (level ▸ here)] at reason
    exact (Option.some.inj reason).symm
  | warn =>
    have reason := follows.reasonWarn here
    rw [same, follows'.reasonWarn (level ▸ here)] at reason
    exact (Option.some.inj reason).symm
  | allow =>
    rw [follows.reasonAllow here matched, follows'.reasonAllow (level ▸ here) (same ▸ matched),
      same]

end Decision

namespace Resolution

/-! ## Rules that were judged -/

theorem finish_request (v : Vocabulary) (s : Resolution) (ctx : Context) :
    (s.finish v ctx).requestId = ctx.requestId ∧ (s.finish v ctx).timestamp = ctx.timestamp := by
  unfold finish
  split <;> exact ⟨rfl, rfl⟩

/-- The same rules are found in every vocabulary. -/
theorem ofJudged_sameFindings (v v' : Vocabulary) (judged : List Judged) (ctx : Context) :
    ((ofJudged v judged).finish v ctx).SameFindings ((ofJudged v' judged).finish v' ctx) := by
  obtain ⟨evaluated, cut, matched⟩ := ofJudged_reports v judged ctx
  obtain ⟨evaluated', cut', matched'⟩ := ofJudged_reports v' judged ctx
  obtain ⟨request, time⟩ := finish_request v (ofJudged v judged) ctx
  obtain ⟨request', time'⟩ := finish_request v' (ofJudged v' judged) ctx
  exact ⟨request.trans request'.symm, time.trans time'.symm, matched.trans matched'.symm,
    evaluated.trans evaluated'.symm, cut.trans cut'.symm⟩

/-! ## Rules that only label -/

section

variable {v : Vocabulary} (labels : v.enforces = false)

include labels

theorem takeIn_labels (s : Resolution) (j : Judged) :
    (takeIn v s j).allow = s.allow ∧ (takeIn v s j).level = s.level := by
  unfold takeIn apply
  rw [labels]
  split <;> exact ⟨rfl, rfl⟩

theorem foldl_takeIn_labels (s : Resolution) (judged : List Judged) :
    (judged.foldl (takeIn v) s).allow = s.allow ∧
      (judged.foldl (takeIn v) s).level = s.level := by
  induction judged generalizing s with
  | nil => exact ⟨rfl, rfl⟩
  | cons j rest ih =>
    obtain ⟨allow, level⟩ := takeIn_labels labels s j
    obtain ⟨allow', level'⟩ := ih (takeIn v s j)
    exact ⟨allow'.trans allow, level'.trans level⟩

/-- A vocabulary that does not enforce neither refuses nor warns. -/
theorem ofJudged_labels (judged : List Judged) (ctx : Context) :
    ((ofJudged v judged).finish v ctx).allow = true ∧
      ((ofJudged v judged).finish v ctx).level = .allow ∧
      ((ofJudged v judged).finish v ctx).verdict =
        v.label (if ((ofJudged v judged).finish v ctx).matchedRules = [] then .allow
          else .warn) := by
  obtain ⟨allow, level⟩ := foldl_takeIn_labels labels {} (throughCut judged)
  unfold finish
  cases matched : (ofJudged v judged).matched with
  | nil => exact ⟨rfl, rfl, rfl⟩
  | cons first rest =>
    simp only [List.isEmpty_cons, Bool.false_eq_true, if_false, labels, reduceCtorEq]
    exact ⟨allow, level, trivial⟩

end

end Resolution

/-! ## Decisions -/

/-- From one cache, decisions differ in their words only, and in whether rules are enforced. -/
theorem across_of_one_cache (rules : List Rule) (ctx : Context) (cache : PatternCache) :
    Decision.AcrossVocabularies fun v => ((resolve v rules ctx).run cache).1 := by
  generalize all : ((judgeEach ctx (applicableRules rules ctx)).run cache).1 = judged
  have findings : ∀ v v', ((resolve v rules ctx).run cache).1.SameFindings
      ((resolve v' rules ctx).run cache).1 := by
    intro v v'
    rw [resolve_judged v all, resolve_judged v' all]
    exact Resolution.ofJudged_sameFindings v v' judged ctx
  refine ⟨findings, ?_, ?_, ?_⟩
  · exact (followsMatches_of_enforces rfl rules ctx cache).sameRuling
      (followsMatches_of_enforces rfl rules ctx cache) (findings _ _).matchedRules
  · rw [resolve_judged .classification all]
    obtain ⟨allow, level, verdict⟩ :=
      Resolution.ofJudged_labels (v := .classification) rfl judged ctx
    refine ⟨allow, level, ?_, ?_⟩ <;>
      · rw [verdict]
        split <;> simp_all [Vocabulary.label]
  · intro v enforcing
    have enforces : v.enforces = true := by cases v <;> trivial
    exact (followsMatches_of_enforces enforces rules ctx cache).verdict

/-- The vocabulary of a decision changes its words, and whether rules are enforced, and nothing
    else: in every vocabulary the same rules are evaluated and matched, and the evaluation is cut
    alike.  The two that enforce allow and refuse the same, at the same level and for the same
    reason; classification allows everything, and labels what any rule matched.  This is so whatever
    patterns were kept before, and also if they were kept apart for each vocabulary, all as they
    compile. -/
theorem resolve_across_vocabularies (rules : List Rule) (ctx : Context) :
    (∀ cache : PatternCache,
        (Decision.AcrossVocabularies fun v => ((resolve v rules ctx).run cache).1) ∧
          ∀ v v', ((resolve v rules ctx).run cache).2 = ((resolve v' rules ctx).run cache).2) ∧
      ((∀ r ∈ rules, r.isApplicable ctx = true → FlagsAgree r.conditions ctx) →
        ∀ caches : Vocabulary → PatternCache, (∀ v, (caches v).Faithful) →
          Decision.AcrossVocabularies fun v => ((resolve v rules ctx).run (caches v)).1) := by
  constructor
  · intro cache
    refine ⟨across_of_one_cache rules ctx cache, fun v v' => ?_⟩
    rw [resolve_judged v rfl, resolve_judged v' rfl]
  · intro flags caches faithful
    -- each decision is the one made from the cache of access
    have same : (fun v => ((resolve v rules ctx).run (caches v)).1) =
        fun v => ((resolve v rules ctx).run (caches .access)).1 := by
      funext v
      obtain ⟨d, given⟩ := gives_resolve flags v
      exact given.eq (faithful v) (faithful .access)
    rw [same]
    exact across_of_one_cache rules ctx (caches .access)

theorem resolve_across_vocabularies_block_behind_alert :
    let now : Instant := ⟨0, 0, 0, by decide, by decide⟩
    let ctx : Context := { path := "/x", timestamp := now }
    let rule (name : String) (priority : Int) (actionType : ActionType) : Rule :=
      { id := name, name := name, priority := priority, createdAt := now, updatedAt := now,
        actions := [{ actionType := actionType }],
        conditions := [{ field := "path", operator := .regex, value := .text "^/x$" }] }
    let rules := [rule "watch" 10 .alert, rule "refuse" 5 .block]
    let caches : Vocabulary → PatternCache
      | .access => .empty
      | .compliance => .ofCapacity 1
      | .classification => .ofCapacity 0
    let d := fun v => ((resolve v rules ctx).run (caches v)).1
    (∀ r ∈ rules, r.isApplicable ctx = true → FlagsAgree r.conditions ctx) ∧
      (∀ v, (caches v).Faithful) ∧ Decision.AcrossVocabularies d ∧
      (d .access).matchedRules.map MatchedRule.ruleName = ["watch", "refuse"] ∧
      (d .compliance).allow = false ∧ (d .compliance).verdict = "violation" ∧
      (d .classification).allow = true ∧ (d .classification).verdict = "labeled" := by
  intro now ctx rule rules caches d
  have flags : ∀ r ∈ rules, r.isApplicable ctx = true → FlagsAgree r.conditions ctx := by
    intro r member _
    have sensitive : ∀ c ∈ r.conditions, c.caseSensitive = true := by
      revert r
      decide
    intro c inside insensitive
    rw [sensitive c inside] at insensitive
    cases insensitive
  have faithful : ∀ v, (caches v).Faithful := by
    rintro (_ | _ | _) <;> exact PatternCache.faithful_ofCapacity _
  have across : Decision.AcrossVocabularies d :=
    (resolve_across_vocabularies rules ctx).2 flags caches faithful
  have order : applicableRules rules ctx = rules := sortByPriority_of_descending (by decide)
  have matched : (d .access).matchedRules.map MatchedRule.ruleName = ["watch", "refuse"] := by
    simp only [d]
    rw [resolve_run, order]
    decide +kernel
  have refused : (d .access).allow = false ∧ (d .access).level = .deny := by
    simp only [d]
    rw [resolve_run, order]
    decide +kernel
  have found : (d .classification).matchedRules ≠ [] := by
    intro none
    rw [(across.findings .access .classification).matchedRules, none] at matched
    cases matched
  have word : (d .compliance).verdict = "violation" := by
    rw [across.words .compliance (by decide), ← across.ruling.level, refused.2]
    rfl
  exact ⟨flags, faithful, across, matched, across.ruling.allow ▸ refused.1, word,
    across.labels.allow, across.labels.labeled.mpr found⟩

end Verdict
