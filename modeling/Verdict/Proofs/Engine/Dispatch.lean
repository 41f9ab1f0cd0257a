import Verdict.Engine.Live
import Verdict.Proofs.Dispatch.Execution
import Verdict.Proofs.Resolution.Wording

/-!
# What an engine hands to its publisher

An engine that decides on a request and waits for its actions hands its publisher one delivery
after the other, and none depends on what became of those before (`evaluateAndDispatch_run`).
`evaluateAndDispatch_blocks_iff_denied` says what these deliveries are: events about blocked
requests if and only if the decision denies, and the record of the decision once, at the end.
-/

namespace Verdict

/-! ## Decisions that deny -/

/-- A decision that denies has its reason from a rule that matched and blocks. -/
theorem resolve_denies {vocabulary : Vocabulary} {rules : List Rule} {ctx : Context}
    {cache : PatternCache} (denied : ((resolve vocabulary rules ctx).run cache).1.allow = false) :
    ∃ m ∈ ((resolve vocabulary rules ctx).run cache).1.matchedRules,
      m.blocks = true ∧ m.ruleName = ((resolve vocabulary rules ctx).run cache).1.reason := by
  cases enforces : vocabulary.enforces with
  | false =>
    rw [resolve_judged vocabulary rfl, (Resolution.ofJudged_labels enforces _ ctx).1] at denied
    cases denied
  | true =>
    have follows := followsMatches_of_enforces enforces rules ctx cache
    obtain ⟨m, first, blocks⟩ := follows.allow.mp denied
    have named := follows.reasonDeny (follows.levelDeny.mpr denied)
    rw [first] at named
    exact ⟨m, List.mem_of_find?_eq_some first, blocks, Option.some.inj named⟩

/-! ## What stays while time passes -/

/-- What every turn of a job keeps is kept while time passes. -/
theorem Timeline.runBefore_keeps {κ σ : Type} {turn : κ → σ → σ × Next κ} {P : σ → Prop}
    (kept : ∀ job s, P s → P (turn job s).1) (limit : Nat) (s : σ) (waiting : List (Waiting κ))
    (before : P s) : P (runBefore turn limit s waiting).1 := by
  fun_induction runBefore turn limit s waiting with
  | case1 s => exact before
  | case2 s w rest due after turned ih =>
    have next := kept w.job s before
    rw [turned] at next
    exact ih next
  | case3 s w rest due after delay positive job turned ih =>
    have next := kept w.job s before
    rw [turned] at next
    exact ih next
  | case4 s w rest later => exact before

theorem Timeline.wait_keeps {κ σ : Type} {turn : κ → σ → σ × Next κ} {P : σ → Prop}
    (kept : ∀ job s, P s → P (turn job s).1) (span : Nat) (t : Timeline κ σ) (before : P t.state) :
    P (wait turn span t).state := by
  unfold wait
  split
  · exact before
  · exact runBefore_keeps kept _ t.state t.waiting before

namespace Engine

/-- Whatever becomes of a delivery, the configuration stays. -/
theorem post_config (s : Delivery) (e : Engine) : ((post s).run e).2.config = e.config := by
  simp only [post, StateT.run_bind, StateT.run_get, StateT.run_set, pure_bind]
  split
  · cases s.note? with
    | none => rfl
    | some n => rfl
  · rfl

theorem deliver_config (rest : List Delivery) (e : Engine) :
    (deliver rest e).1.config = e.config := by
  fun_induction deliver rest e with
  | case1 e => rfl
  | case2 e s rest _ ih => rw [ih, post_config]
  | case3 e s rest n _ => rfl

/-- No job changes the configuration. -/
theorem turn_config (job : Job) (e : Engine) : (turn job e).1.config = e.config := by
  cases job with
  | deliver rest => exact deliver_config rest e
  | settle first rest => exact (deliver_config rest _).trans (post_config first e)
  | refresh kind loop => cases kind <;> rfl

end Engine

namespace Live

theorem publish_config (s : Delivery) (t : Live) :
    ((publish s).run t).2.state.config = t.state.config := by
  let waited := Timeline.wait Engine.turn
    (t.state.bus.wait t.state.config.publishMillis.toNat s.topic) t
  have run : ((publish s).run t).2.state = ((Engine.post s).run waited.state).2 := rfl
  have kept : waited.state.config = t.state.config :=
    Timeline.wait_keeps (P := fun e => e.config = t.state.config)
      (fun job e same => (Engine.turn_config job e).trans same) _ t rfl
  rw [run, Engine.post_config, kept]

theorem mapM_publish_config (sent : List Delivery) (t : Live) :
    ((sent.mapM publish).run t).2.state.config = t.state.config := by
  induction sent generalizing t with
  | nil => rfl
  | cons first rest ih =>
    have whole : (((first :: rest).mapM publish).run t).2 =
        ((rest.mapM publish).run ((publish first).run t).2).2 := by
      rw [List.mapM_cons]
      rfl
    rw [whole, ih, publish_config]

end Live

/-! ## What is handed over -/

/-- Whether a delivery is an event about a blocked request. -/
def Delivery.isBlock (s : Delivery) : Bool :=
  match s.content with
  | .event e => e.payload.actionType == .block
  | .record _ => false

namespace Decision

/-- The record of a decision, on its way to its topic. -/
def record (topics : Topics) (d : Decision) : Delivery :=
  ⟨topics.policyDecisions, .record d.toJson⟩

/-- What a publisher is handed of a decision: its events, then its record. -/
def attempts (topics : Topics) (ids : Nat → String) (ctx : Context) (d : Decision) :
    List Delivery :=
  sentOf (d.plan topics ids ctx) ++ [d.record topics]

/-- Carries out a decision by some publisher and has its record published. -/
def dispatchBy {m : Type → Type} [Monad m] (publish : Delivery → m Bool) (topics : Topics)
    (ids : Nat → String) (ctx : Context) (d : Decision) : m Report := do
  let report ← publishAll publish {} (d.plan topics ids ctx)
  let _ ← publish (d.record topics)
  return report

/-- The actions of a decision that block and are switched on, each with its rule and its number. -/
def blockActions (d : Decision) : List ((MatchedRule × Action) × Nat) :=
  d.actions.zipIdx.filter fun x => x.1.2.enabled && x.1.2.actionType == .block

/-- Whatever the publisher does, it is handed the attempts of a decision in turn; what it says
    about the record counts for nothing. -/
theorem dispatchBy_eq {m : Type → Type} [Monad m] [LawfulMonad m] (publish : Delivery → m Bool)
    (topics : Topics) (ids : Nat → String) (ctx : Context) (d : Decision) :
    d.dispatchBy publish topics ids ctx = do
      let taken ← (d.attempts topics ids ctx).mapM publish
      return Report.tally {} (omittedOf (d.plan topics ids ctx)) taken.dropLast := by
  simp only [dispatchBy, attempts, publishAll_eq, List.mapM_append, List.mapM_cons, List.mapM_nil,
    bind_assoc, pure_bind, List.dropLast_concat]

/-- The actions of a decision that block are wanted if it denies, and omitted if it allows. -/
theorem filter_wanted_block (d : Decision) :
    (d.wanted.filter fun x => x.1.2.actionType == .block) =
      if d.allow then [] else d.blockActions := by
  have judged : ∀ x : (MatchedRule × Action) × Nat,
      ((x.1.2.actionType == .block) && !d.omits x.1.1 x.1.2) =
        (!d.allow && (x.1.2.enabled && x.1.2.actionType == .block)) := by
    intro x
    by_cases blocks : x.1.2.actionType = .block
    · have usable : (Payload.ofAction? x.1.1.ruleName x.1.2).isOk = true := by
        simp [Payload.ofAction?, blocks, Except.isOk, Except.toBool]
      cases allows : d.allow <;> simp [omits, blocks, usable, allows]
    · have other : (x.1.2.actionType == .block) = false := beq_eq_false_iff_ne.mpr blocks
      simp [other]
  unfold wanted blockActions
  rw [List.filter_filter]
  simp only [judged]
  cases d.allow with
  | true => simp
  | false => simp

section

variable (topics : Topics) (ids : Nat → String) (ctx : Context) (d : Decision)

/-- The events about blocked requests that are handed over tell of the block actions in force. -/
theorem tells_blocks :
    List.Forall₂ (fun x sent => sent.Tells topics d ctx (ids x.2) x.1.1 x.1.2)
      (if d.allow then [] else d.blockActions)
      ((d.attempts topics ids ctx).filter Delivery.isBlock) := by
  have record : (d.record topics).isBlock = false := rfl
  have events : (d.attempts topics ids ctx).filter Delivery.isBlock =
      (sentOf (d.plan topics ids ctx)).filter Delivery.isBlock := by
    rw [attempts, List.filter_append, List.filter_cons_of_neg (by simp [record])]
    simp
  rw [events, ← filter_wanted_block]
  refine List.rel_filter ?_ (tells_plan topics ids ctx d)
  intro x sent tells
  obtain ⟨e, content, made, -⟩ := tells.event
  have same : sent.isBlock = (x.1.2.actionType == .block) := by
    rw [Delivery.isBlock, content]
    simp only [Payload.actionType_ofAction? made]
  simp only [same]

/-- All that is handed over before the record are events. -/
theorem event_of_mem_sentOf {s : Delivery} (handed : s ∈ sentOf (d.plan topics ids ctx)) :
    ∃ e, s.content = .event e := by
  obtain ⟨i, bound, rfl⟩ := List.getElem_of_mem handed
  have tells := tells_plan topics ids ctx d
  have told := tells.get (by rw [tells.length_eq]; exact bound) bound
  obtain ⟨e, content, -⟩ := told.event
  exact ⟨e, content⟩

/-- A rule that matched and blocks has its own event among those about blocked requests, if the
    decision denies. -/
theorem exists_block_of_mem (denied : d.allow = false) {m : MatchedRule}
    (matched : m ∈ d.matchedRules) (blocks : m.blocks = true) :
    ∃ s ∈ (d.attempts topics ids ctx).filter Delivery.isBlock, ∃ e, s.content = .event e ∧
      e.ruleId = m.ruleId ∧ e.ruleName = m.ruleName := by
  have tells := tells_blocks topics ids ctx d
  rw [denied, if_neg Bool.false_ne_true] at tells
  obtain ⟨a, ofRule, inForce⟩ := List.any_eq_true.mp blocks
  have listed : (m, a) ∈ d.actions :=
    List.mem_flatMap.mpr ⟨m, matched, List.mem_map.mpr ⟨a, ofRule, rfl⟩⟩
  obtain ⟨i, bound, here⟩ := List.getElem_of_mem listed
  have numbered : ((m, a), i) ∈ d.blockActions := by
    refine List.mem_filter.mpr ⟨?_, ?_⟩
    · exact List.mem_zipIdx_iff_getElem?.mpr (by rw [List.getElem?_eq_getElem bound, here])
    · simpa using inForce
  obtain ⟨k, within, there⟩ := List.getElem_of_mem numbered
  have counted := tells.length_eq
  have told := tells.get within (by omega)
  obtain ⟨e, content, -, -, ⟨-, ruleId, ruleName⟩, -⟩ := told.event
  simp only [List.get_eq_getElem, there] at ruleId ruleName
  exact ⟨_, List.getElem_mem _, e, content, ruleId, ruleName⟩

end

end Decision

/-- What a decision records of the rules that matched: their names and their actions that are
    switched on. -/
theorem resolve_records {vocabulary : Vocabulary} {rules : List Rule} {ctx : Context}
    {cache : PatternCache} {m : MatchedRule}
    (recorded : m ∈ ((resolve vocabulary rules ctx).run cache).1.matchedRules) :
    ∃ r ∈ rules, m.ruleId = r.id ∧ m.ruleName = r.name ∧
      m.actions = r.actions.filter Action.enabled := by
  have reported : ∀ s : Resolution, (s.finish vocabulary ctx).matchedRules = s.matched := by
    intro s
    unfold Resolution.finish
    cases empty : s.matched with
    | nil => rfl
    | cons first rest => rfl
  obtain ⟨-, matched, -⟩ :=
    @Resolution.run_log vocabulary ctx (applicableRules rules ctx) cache _ _ rfl rfl
  rw [resolve_run, reported, matched] at recorded
  obtain ⟨j, judged, rfl⟩ := List.mem_map.mp recorded
  have considered : j.rule ∈ applicableRules rules ctx := by
    rw [← map_rule_judgeEach ctx (applicableRules rules ctx) cache]
    exact List.mem_map_of_mem (List.mem_of_mem_take (List.mem_filter.mp judged).1)
  have ours : j.rule ∈ rules.filter fun r => r.isApplicable ctx :=
    mem_of_same (descendingOrder_sortByPriority _).stable considered
  exact ⟨j.rule, (List.mem_filter.mp ours).1, rfl, rfl, rfl⟩

namespace Live

/-- An engine carries a decision out by its own publisher; all the while it publishes records where
    its configuration said at first. -/
theorem carryOut_run (ids : Nat → String) (ctx : Context) (d : Decision) (t : Live) :
    (do
      let report ← publishAll publish {} (← planOf ids ctx d)
      let e := (← get).state
      let _ ← publish (e.decisionRecord d)
      return (d, report) : StateM Live (Decision × Report)).run t =
    (Prod.mk d <$> d.dispatchBy publish t.state.config.topics ids ctx).run t := by
  have kept : ((publishAll publish {} (d.plan t.state.config.topics ids ctx)).run
      t).2.state.config = t.state.config := by
    rw [publishAll_eq]
    exact mapM_publish_config _ t
  simp only [planOf, Decision.dispatchBy, StateT.run_bind, StateT.run_get, bind_pure_comp,
    map_pure, pure_bind, StateT.run_map]
  generalize (publishAll publish {} (d.plan t.state.config.topics ids ctx)).run t =
    published at kept ⊢
  have record : published.2.state.decisionRecord d = d.record t.state.config.topics := by
    rw [Engine.decisionRecord, kept, Decision.record]
  change ((d, published.1),
    ((publish (published.2.state.decisionRecord d)).run published.2).2) = _
  rw [record]
  rfl

theorem evaluateAndDispatch_run (ids : Nat → String) (ctx : Context) (t : Live) :
    let decided := (act (Engine.decide ctx)).run t
    (evaluateAndDispatch ids ctx).run t =
      (Prod.mk decided.1 <$> decided.1.dispatchBy publish t.state.config.topics ids ctx).run
        decided.2 := by
  intro decided
  have whole := carryOut_run ids ctx decided.1 decided.2
  unfold evaluateAndDispatch
  rw [StateT.run_bind]
  exact whole

end Live

/-- An engine that decides on a request hands what its decision attempts to the publisher, one
    delivery after the other and whatever becomes of each.  Events about blocked requests are among
    the attempts if and only if the decision denies: one for every enabled block action of every
    rule that matched, and at least one for the rule that the reason names.  The record of the
    decision is the last attempt, and the only one that is not an event. -/
theorem evaluateAndDispatch_blocks_iff_denied (ids : Nat → String) (ctx : Context) (t : Live) :
    let topics := t.state.config.topics
    let decided := (Live.act (Engine.decide ctx)).run t
    let d := decided.1
    let attempts := d.attempts topics ids ctx
    let blocks := attempts.filter Delivery.isBlock
    (∀ {m : Type → Type} [Monad m] [LawfulMonad m] (publish : Delivery → m Bool),
      d.dispatchBy publish topics ids ctx = do
        let taken ← attempts.mapM publish
        return Report.tally {} (omittedOf (d.plan topics ids ctx)) taken.dropLast) ∧
    (Live.evaluateAndDispatch ids ctx).run t =
      (Prod.mk d <$> d.dispatchBy Live.publish topics ids ctx).run decided.2 ∧
    (blocks ≠ [] ↔ d.allow = false) ∧
    (d.allow = false →
      List.Forall₂ (fun x s => s.Tells topics d ctx (ids x.2) x.1.1 x.1.2) d.blockActions blocks ∧
      ∃ s ∈ blocks, ∃ e, s.content = .event e ∧ e.ruleName = d.reason) ∧
    (∀ m ∈ d.matchedRules, ∃ r ∈ t.state.rules.snapshot.items,
      m.ruleId = r.id ∧ m.ruleName = r.name ∧ m.actions = r.actions.filter Action.enabled) ∧
    (∃ events, attempts = events ++ [d.record topics] ∧
      ∀ s ∈ events, ∃ e, s.content = .event e) := by
  intro topics decided d attempts blocks
  have resolved : d = ((resolve t.state.config.vocabulary t.state.rules.snapshot.items ctx).run
      t.state.rulePatterns).1 := rfl
  have tells := d.tells_blocks topics ids ctx
  have named : d.allow = false →
      ∃ s ∈ blocks, ∃ e, s.content = .event e ∧ e.ruleName = d.reason := by
    intro denied
    obtain ⟨m, matched, blocking, reason⟩ := resolve_denies (resolved ▸ denied)
    obtain ⟨s, handed, e, content, -, ruleName⟩ :=
      d.exists_block_of_mem topics ids ctx denied (resolved ▸ matched) blocking
    exact ⟨s, handed, e, content, ruleName.trans (reason.trans (congrArg _ resolved).symm)⟩
  refine ⟨fun publish => d.dispatchBy_eq publish topics ids ctx,
    Live.evaluateAndDispatch_run ids ctx t, ⟨?_, ?_⟩, ?_, ?_, ?_⟩
  · intro some_block
    cases allowed : d.allow with
    | false => rfl
    | true =>
      rw [allowed, if_pos rfl] at tells
      exact absurd (List.forall₂_nil_left_iff.mp tells) some_block
  · intro denied
    obtain ⟨s, handed, -⟩ := named denied
    exact List.ne_nil_of_mem handed
  · intro denied
    rw [denied, if_neg Bool.false_ne_true] at tells
    exact ⟨tells, named denied⟩
  · intro m matched
    exact resolve_records (resolved ▸ matched)
  · exact ⟨_, rfl, fun s handed => d.event_of_mem_sentOf topics ids ctx handed⟩

end Verdict
