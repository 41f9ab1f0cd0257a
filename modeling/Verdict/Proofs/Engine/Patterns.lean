import Verdict.Engine.Live
import Verdict.Proofs.Engine.Dispatch
import Verdict.Proofs.Engine.Operation

/-!
# Which operations drop the compiled patterns

An engine keeps the patterns of its rules and scoring rules until something drops them all.  What
manages a single entity drops them if it changes or removes one that may have had some, and so does
a refresh that comes to its end (`perform_patterns`).  Several updates at once, an import and a
refresh that fails part way never do, nor do the loops that refresh in the background: the patterns
of rules that are gone stay behind (`gone_rules_leave_patterns`).
-/

namespace Verdict

namespace Engine

/-! ## Management -/

/-- An entity of any kind. -/
inductive Entry where
  | rule (r : Rule)
  | scoringRule (r : ScoringRule)
  | profile (p : Profile)

/-- An operation that manages the entities of an engine. -/
inductive Management where
  | create (x : Entry)
  | update (now : Instant) (x : Entry)
  | delete (kind : EntityKind) (id : String)
  | batchCreate (rules : List Rule)
  | batchUpdate (now : Instant) (rules : List Rule)
  | importAll (now : Instant) (overwrite : Bool) (b : Bundle)
  | refresh

/-- The kind of an entity. -/
def Entry.kind : Entry → EntityKind
  | .rule _ => .rule
  | .scoringRule _ => .scoringRule
  | .profile _ => .profile

namespace Management

/-- Does it, its result apart. -/
def perform : Management → Operation Unit
  | .create (.rule r) => discard (Engine.create r)
  | .create (.scoringRule r) => discard (Engine.create r)
  | .create (.profile p) => discard (Engine.create p)
  | .update now (.rule r) => discard (Engine.update now r)
  | .update now (.scoringRule r) => discard (Engine.update now r)
  | .update now (.profile p) => discard (Engine.update now p)
  | .delete .rule id => Engine.delete Rule id
  | .delete .scoringRule id => Engine.delete ScoringRule id
  | .delete .profile id => Engine.delete Profile id
  | .batchCreate rules => discard (Engine.batchCreate rules)
  | .batchUpdate now rules => discard (Engine.batchUpdate now rules)
  | .importAll now overwrite b => discard (Engine.importAll now overwrite b)
  | .refresh => Engine.refresh

/-- Whether it drops the compiled patterns once it is done. -/
def drops : Management → Bool
  | .update _ x => x.kind != .profile
  | .delete kind _ => kind != .profile
  | .refresh => true
  | _ => false

/-- Whether it changes or removes a single entity. -/
def isSingle : Management → Bool
  | .update _ _ | .delete _ _ => true
  | _ => false

end Management

/-- Whether some rule or scoring rule was in force and is so no longer, as it was. -/
def Releases (e e' : Engine) : Prop :=
  (∃ r ∈ e.rules.snapshot.items, r ∉ e'.rules.snapshot.items) ∨
    ∃ r ∈ e.scoringRules.snapshot.items, r ∉ e'.scoringRules.snapshot.items

/-- The patterns that an engine keeps. -/
def patterns (e : Engine) : PatternCache × PatternCache :=
  (e.rulePatterns, e.scoringPatterns)

/-- The stores of entities that may have patterns. -/
def patterned (e : Engine) : Store Rule × Store ScoringRule :=
  (e.rules, e.scoringRules)

end Engine

/-! ## What operations leave alone -/

namespace Operation

variable {β γ δ : Type} {view : Engine → δ}

/-- Whether an operation leaves some part of every engine as it is, whatever becomes of it. -/
def Keeps (view : Engine → δ) (x : Operation β) : Prop :=
  ∀ e, view (x.on e).2 = view e

theorem Keeps.bind {x : Operation β} {f : β → Operation γ} (first : Keeps view x)
    (next : ∀ b, Keeps view (f b)) : Keeps view (x >>= f) := by
  intro e
  have before := first e
  rw [on_bind_eq]
  cases done : x.on e with
  | mk result after =>
    rw [done] at before
    cases result with
    | ok b => exact (next b after).trans before
    | error cause => exact before

theorem keeps_pure (b : β) : Keeps view (pure b) :=
  fun _ => rfl

theorem keeps_discard {x : Operation β} (keeps : Keeps view x) : Keeps view (discard x) :=
  keeps.bind fun _ => keeps_pure _

theorem keeps_ofExcept (x : Except Failure β) : Keeps view (ofExcept x : Operation β) := by
  intro e
  cases x with
  | ok b => rfl
  | error cause => rfl

end Operation

namespace Engine

open Operation (Keeps)

section

variable {α β δ : Type} [Managed α] {view : Engine → δ}

/-- Whether some part of engines is apart from the store of a kind and from the audit. -/
structure Apart (α : Type) [Managed α] (view : Engine → δ) : Prop where
  withStore : ∀ (s : Store α) (e : Engine), view (Managed.withStore s e) = view e
  note : ∀ (n : Note) (e : Engine), view (e.note n) = view e

theorem Apart.change (apart : Apart α view) (f : Store α → Except Failure (β × Store α)) :
    Keeps view (change f) := by
  intro e
  cases done : f (Managed.store e) with
  | ok after =>
    rw [change_on done]
    exact apart.withStore after.2 e
  | error cause => rw [change_on_error done]

theorem Apart.noteStored (apart : Apart α view) (a : α) (c : Change) :
    Keeps view (noteStored a c) :=
  fun e => apart.note _ e

theorem Apart.create (apart : Apart α view) (a : α) : Keeps view (create a) :=
  (apart.change _).bind fun stored => (apart.noteStored stored _).bind fun _ =>
    Operation.keeps_pure _

theorem Apart.replace (apart : Apart α view) (now : Instant) (a : α) :
    Keeps view (replace now a) :=
  (apart.change _).bind fun stored => (apart.noteStored stored _).bind fun _ =>
    Operation.keeps_pure _

theorem Apart.put (apart : Apart α view) (now : Instant) (overwrite : Bool) (a : α) :
    Keeps view (put now overwrite a) := by
  refine (apart.change _).bind fun p => ?_
  cases p with
  | created stored => exact (apart.noteStored stored _).bind fun _ => Operation.keeps_pure _
  | updated stored => exact (apart.noteStored stored _).bind fun _ => Operation.keeps_pure _
  | kept => exact Operation.keeps_pure _

theorem Apart.refreshOf (apart : Apart α view) : Keeps view (refreshOf α) :=
  apart.change _

omit [Managed α] in
theorem keeps_attempt (id : String) {step : Operation Bool} (keeps : Keeps view step) :
    Keeps view (attempt id step) := by
  intro e
  have left := keeps e
  rw [attempt_on]
  rcases done : step.on e with ⟨cause | put, after⟩ <;> rw [done] at left
  · cases cause <;> exact left
  · exact left

omit [Managed α] in
/-- What each step leaves alone, several steps leave alone. -/
theorem keeps_each [Entity α] {step : α → Operation Bool} (keeps : ∀ a, Keeps view (step a))
    (given : List α) : Keeps view (each step given) := by
  induction given with
  | nil => exact Operation.keeps_pure []
  | cons a rest ih =>
    rw [each, List.mapM_cons]
    exact (keeps_attempt _ (keeps a)).bind fun _ => ih.bind fun _ => Operation.keeps_pure _

end

end Engine

/-! ## What becomes of the patterns -/

namespace Operation

variable {β γ : Type}

/-- Whether an operation drops all patterns if it succeeds, and leaves them as they are if it
    fails. -/
def Drops (x : Operation β) : Prop :=
  ∀ e, (x.on e).2.patterns =
    if (x.on e).1.isOk = true then e.dropPatterns.patterns else e.patterns

/-- Whether an operation leaves the engine as it is if it fails. -/
def Whole (x : Operation β) : Prop :=
  ∀ e, (x.on e).1.isOk = false → (x.on e).2 = e

/-- Whether an operation always succeeds. -/
def Succeeds (x : Operation β) : Prop :=
  ∀ e, (x.on e).1.isOk = true

/-- What comes before the patterns are dropped makes no difference. -/
theorem Drops.after {x : Operation β} {f : β → Operation γ} (first : Keeps Engine.patterns x)
    (next : ∀ b, Drops (f b)) : Drops (x >>= f) := by
  intro e
  have before := first e
  rw [on_bind_eq]
  cases done : x.on e with
  | mk result after =>
    rw [done] at before
    cases result with
    | error cause => exact before
    | ok b =>
      have rules : after.rulePatterns = e.rulePatterns := congrArg Prod.fst before
      have scoringRules : after.scoringPatterns = e.scoringPatterns := congrArg Prod.snd before
      have same : after.dropPatterns.patterns = e.dropPatterns.patterns := by
        rw [Engine.patterns, Engine.patterns, Engine.dropPatterns, Engine.dropPatterns, rules,
          scoringRules]
      have dropped := next b after
      rw [same, before] at dropped
      exact dropped

theorem on_discard (x : Operation β) (e : Engine) :
    Operation.on (discard x) e = ((x.on e).1.map fun _ => (), (x.on e).2) := by
  have first : (discard x : Operation Unit) = x >>= fun _ => pure () := rfl
  rw [first, on_bind_eq]
  cases x.on e with
  | mk result after => cases result <;> rfl

theorem Drops.discard {x : Operation β} (drops : Drops x) : Drops (discard x) := by
  intro e
  have dropped := drops e
  rw [on_discard]
  cases done : x.on e with
  | mk result after =>
    rw [done] at dropped
    cases result <;> exact dropped

theorem Succeeds.whole {x : Operation β} (succeeds : Succeeds x) : Whole x :=
  fun e failed => absurd ((succeeds e).symm.trans failed) (by simp)

/-- An operation that can only fail in its first step leaves the engine as it is if it fails. -/
theorem Whole.bind {x : Operation β} {f : β → Operation γ} (first : Whole x)
    (next : ∀ b, Succeeds (f b)) : Whole (x >>= f) := by
  intro e
  have before := first e
  rw [on_bind_eq]
  cases done : x.on e with
  | mk result after =>
    rw [done] at before
    cases result with
    | ok b => exact fun failed => absurd ((next b after).symm.trans failed) (by simp)
    | error cause => exact before

end Operation

namespace Engine

open Operation (Keeps Drops Whole Succeeds)

section

variable {α β : Type} [Managed α]

theorem drops_dropPatterns : Drops (modify dropPatterns : Operation Unit) :=
  fun _ => rfl

theorem drops_dropPatternsOf (has : Managed.hasPatterns α = true) (b : β) :
    Drops (do dropPatternsOf α; return b) := by
  have always : dropPatternsOf α = modify dropPatterns := by
    rw [dropPatternsOf, has]
    rfl
  rw [always]
  exact fun _ => rfl

theorem keeps_dropPatternsOf {δ : Type} {view : Engine → δ}
    (has : Managed.hasPatterns α = false) : Keeps view (dropPatternsOf α) := by
  have never : dropPatternsOf α = modify id := by
    rw [dropPatternsOf, has]
    rfl
  rw [never]
  exact fun _ => rfl

theorem Apart.update {δ : Type} {view : Engine → δ} (apart : Apart α view)
    (has : Managed.hasPatterns α = false) (now : Instant) (a : α) : Keeps view (update now a) :=
  (apart.replace now a).bind fun _ => (keeps_dropPatternsOf has).bind fun _ =>
    Operation.keeps_pure _

theorem Apart.delete {δ : Type} {view : Engine → δ} (apart : Apart α view)
    (has : Managed.hasPatterns α = false) (id : String) : Keeps view (delete α id) :=
  (apart.change _).bind fun _ => Keeps.bind (fun e => apart.note _ e) fun _ =>
    keeps_dropPatternsOf has

theorem drops_update (has : Managed.hasPatterns α = true) (apart : Apart α patterns)
    (now : Instant) (a : α) : Drops (update now a) :=
  .after (apart.replace now a) fun stored => drops_dropPatternsOf has stored

theorem drops_delete (has : Managed.hasPatterns α = true) (apart : Apart α patterns)
    (id : String) : Drops (delete α id) :=
  .after (apart.change _) fun _ => .after (fun e => apart.note _ e) fun _ =>
    drops_dropPatternsOf has ()

theorem whole_change (f : Store α → Except Failure (β × Store α)) : Whole (change f) := by
  intro e failed
  cases done : f (Managed.store e) with
  | ok after =>
    rw [change_on done] at failed
    cases failed
  | error cause => rw [change_on_error done]

theorem whole_update (now : Instant) (a : α) : Whole (update now a) :=
  ((whole_change _).bind fun _ _ => rfl).bind fun _ _ => rfl

theorem whole_delete (id : String) : Whole (delete α id) :=
  (whole_change _).bind fun _ _ => rfl

end

theorem apart_rule : Apart Rule patterns := ⟨fun _ _ => rfl, fun _ _ => rfl⟩

theorem apart_scoringRule : Apart ScoringRule patterns := ⟨fun _ _ => rfl, fun _ _ => rfl⟩

theorem apart_profile : Apart Profile patterns := ⟨fun _ _ => rfl, fun _ _ => rfl⟩

/-- Profiles have no patterns. -/
theorem profile_apart : Apart Profile patterned := ⟨fun _ _ => rfl, fun _ _ => rfl⟩

theorem drops_refresh : Drops refresh :=
  .after apart_rule.refreshOf fun _ => .after apart_scoringRule.refreshOf fun _ =>
    .after apart_profile.refreshOf fun _ => drops_dropPatterns

/-- Nothing is released while the stores of rules and scoring rules stay as they are. -/
theorem not_releases {e e' : Engine} (same : e'.patterned = e.patterned) : ¬ Releases e e' := by
  have rules : e'.rules = e.rules := congrArg Prod.fst same
  have scoringRules : e'.scoringRules = e.scoringRules := congrArg Prod.snd same
  rintro (⟨r, held, gone⟩ | ⟨r, held, gone⟩)
  · exact gone (rules ▸ held)
  · exact gone (scoringRules ▸ held)

namespace Management

theorem drops_perform {op : Management} (drops : op.drops = true) : Drops op.perform := by
  cases op with
  | update now x =>
    cases x with
    | rule r => exact (drops_update rfl apart_rule now r).discard
    | scoringRule r => exact (drops_update rfl apart_scoringRule now r).discard
    | profile p => cases drops
  | delete kind id =>
    cases kind with
    | rule => exact drops_delete rfl apart_rule id
    | scoringRule => exact drops_delete rfl apart_scoringRule id
    | profile => cases drops
  | refresh => exact drops_refresh
  | create x => cases drops
  | batchCreate rules => cases drops
  | batchUpdate now rules => cases drops
  | importAll now overwrite b => cases drops

theorem keeps_perform {op : Management} (drops : op.drops = false) : Keeps patterns op.perform := by
  cases op with
  | create x =>
    cases x with
    | rule r => exact Operation.keeps_discard (apart_rule.create r)
    | scoringRule r => exact Operation.keeps_discard (apart_scoringRule.create r)
    | profile p => exact Operation.keeps_discard (apart_profile.create p)
  | update now x =>
    cases x with
    | rule r => cases drops
    | scoringRule r => cases drops
    | profile p =>
      exact Operation.keeps_discard (apart_profile.update rfl now p)
  | delete kind id =>
    cases kind with
    | rule => cases drops
    | scoringRule => cases drops
    | profile =>
      exact apart_profile.delete rfl id
  | batchCreate rules =>
    exact Operation.keeps_discard (keeps_each (fun r => (apart_rule.create r).bind fun _ =>
      Operation.keeps_pure _) rules)
  | batchUpdate now rules =>
    exact Operation.keeps_discard (keeps_each (fun r => (apart_rule.replace now r).bind fun _ =>
      Operation.keeps_pure _) rules)
  | importAll now overwrite b =>
    exact Operation.keeps_discard ((Operation.keeps_ofExcept _).bind fun _ =>
      (keeps_each (apart_profile.put now overwrite) _).bind fun _ =>
        (keeps_each (apart_scoringRule.put now overwrite) _).bind fun _ =>
          (keeps_each (apart_rule.put now overwrite) _).bind fun _ => Operation.keeps_pure _)
  | refresh => cases drops

theorem whole_perform {op : Management} (single : op.isSingle = true) : Whole op.perform := by
  cases op with
  | update now x =>
    cases x with
    | rule r => exact (whole_update now r).bind fun _ _ => rfl
    | scoringRule r => exact (whole_update now r).bind fun _ _ => rfl
    | profile p => exact (whole_update now p).bind fun _ _ => rfl
  | delete kind id =>
    cases kind with
    | rule => exact whole_delete id
    | scoringRule => exact whole_delete id
    | profile => exact whole_delete id
  | create x => cases single
  | batchCreate rules => cases single
  | batchUpdate now rules => cases single
  | importAll now overwrite b => cases single
  | refresh => cases single

/-- What changes or removes a single entity without dropping the patterns is about a profile. -/
theorem keeps_patterned {op : Management} (single : op.isSingle = true)
    (drops : op.drops = false) : Keeps patterned op.perform := by
  cases op with
  | update now x =>
    cases x with
    | rule r => cases drops
    | scoringRule r => cases drops
    | profile p => exact Operation.keeps_discard (profile_apart.update rfl now p)
  | delete kind id =>
    cases kind with
    | rule => cases drops
    | scoringRule => cases drops
    | profile => exact profile_apart.delete rfl id
  | create x => cases single
  | batchCreate rules => cases single
  | batchUpdate now rules => cases single
  | importAll now overwrite b => cases single
  | refresh => cases single

/-- A change or removal of a single entity that releases a rule or scoring rule is one that drops
    the patterns, and it has succeeded. -/
theorem drops_of_releases {op : Management} (single : op.isSingle = true) {e : Engine}
    (releases : Releases e (op.perform.on e).2) :
    op.drops = true ∧ (op.perform.on e).1.isOk = true := by
  constructor
  · rw [← Bool.not_eq_false]
    exact fun drops => not_releases (keeps_patterned single drops e) releases
  · rw [← Bool.not_eq_false]
    exact fun failed => not_releases (congrArg patterned (whole_perform single e failed)) releases

end Management

/-! ## In the background -/

theorem post_patterns (s : Delivery) (e : Engine) : ((post s).run e).2.patterns = e.patterns := by
  simp only [post, StateT.run_bind, StateT.run_get, StateT.run_set, pure_bind]
  split
  · cases s.note? with
    | none => rfl
    | some n => rfl
  · rfl

theorem deliver_patterns (rest : List Delivery) (e : Engine) :
    (deliver rest e).1.patterns = e.patterns := by
  fun_induction deliver rest e with
  | case1 e => rfl
  | case2 e s rest _ ih => rw [ih, post_patterns]
  | case3 e s rest n _ => rfl

/-- No job in the background touches the patterns, not even the loops that refresh. -/
theorem turn_patterns (job : Job) (e : Engine) : (turn job e).1.patterns = e.patterns := by
  cases job with
  | deliver rest => exact deliver_patterns rest e
  | settle first rest => exact (deliver_patterns rest _).trans (post_patterns first e)
  | refresh kind loop => cases kind <;> rfl

/-- What manages an engine drops all compiled patterns if it succeeds and is an update or a removal
    of one rule or scoring rule, or a refresh; anything else, and what fails, leaves them as they
    are, and so does whatever goes on in the background while time passes.  So whenever a rule or
    scoring rule is changed or removed on its own no pattern is left; when several are updated at
    once, a bundle is imported or a refresh fails part way, patterns are left if there were any. -/
theorem perform_patterns (op : Management) (e : Engine) :
    let done := (op.perform.on e).1.isOk
    let e' := (op.perform.on e).2
    e'.patterns =
        (if (op.drops && done) = true then (e.rulePatterns.clear, e.scoringPatterns.clear)
          else e.patterns) ∧
      (e'.rulePatterns.size = 0 ∧ e'.scoringPatterns.size = 0 ↔
        (op.drops && done) = true ∨ e.rulePatterns.size = 0 ∧ e.scoringPatterns.size = 0) ∧
      (op.isSingle = true → Releases e e' →
        e'.rulePatterns.size = 0 ∧ e'.scoringPatterns.size = 0) ∧
      ∀ (t : Live) (span : Nat), ((Live.wait span).run t).2.state.patterns = t.state.patterns := by
  intro done e'
  have left : e'.patterns =
      if (op.drops && done) = true then (e.rulePatterns.clear, e.scoringPatterns.clear)
      else e.patterns := by
    cases drops : op.drops with
    | true => exact op.drops_perform drops e
    | false => exact op.keeps_perform drops e
  have rules : e'.rulePatterns =
      if (op.drops && done) = true then e.rulePatterns.clear else e.rulePatterns := by
    rw [show e'.rulePatterns = e'.patterns.1 from rfl, left]
    split <;> rfl
  have scoringRules : e'.scoringPatterns =
      if (op.drops && done) = true then e.scoringPatterns.clear else e.scoringPatterns := by
    rw [show e'.scoringPatterns = e'.patterns.2 from rfl, left]
    split <;> rfl
  have empty : e'.rulePatterns.size = 0 ∧ e'.scoringPatterns.size = 0 ↔
      (op.drops && done) = true ∨ e.rulePatterns.size = 0 ∧ e.scoringPatterns.size = 0 := by
    rw [rules, scoringRules]
    by_cases dropped : (op.drops && done) = true
    · simp [dropped, PatternCache.size, PatternCache.clear]
    · simp [dropped]
  refine ⟨left, empty, fun single releases => ?_, fun t span => ?_⟩
  · obtain ⟨drops, succeeded⟩ := Management.drops_of_releases single releases
    exact empty.mpr (.inl (by rw [drops, Bool.true_and]; exact succeeded))
  · exact Timeline.wait_keeps (P := fun after => after.patterns = t.state.patterns)
      (fun job after same => (turn_patterns job after).trans same) span t rfl

/-- A rule has a new pattern, and the pattern it had before is kept: after several updates at once,
    after an import in its place, and after a refresh that takes in the new rule and then fails. -/
theorem gone_rules_leave_patterns :
    let now : Instant := ⟨0, 0, 0, by decide, by decide⟩
    let rule (pattern : String) (version : UInt64) : Rule :=
      { id := "bots", name := "Bots", version := version, createdAt := now, updatedAt := now
        conditions := [{ field := "user_agent", operator := .regex, value := .text pattern }]
        actions := [{ actionType := .alert }] }
    let kept := (PatternCache.empty.compile true "bot").2
    let store (held : List Rule) : Store Rule := ⟨⟨held, true⟩, ⟨1, [rule "bot" 1]⟩⟩
    let e : Engine := { rules := store [rule "bot" 1], rulePatterns := kept }
    let behind : Engine :=
      { rules := store [rule "spider" 2]
        scoringRules := { repository := ⟨[], false⟩ }
        rulePatterns := kept }
    let staysBehind (before after : Engine) : Prop :=
      Releases before after ∧
        (after.rules.snapshot.items.map fun r =>
          (r.version, r.conditions.map fun c => c.value.display)) = [(2, ["spider"])] ∧
        after.rulePatterns.entries.map Prod.fst = ["bot"]
    let bundle : Bundle := .new now ⟨[rule "spider" 1], [], []⟩
    staysBehind e ((Management.batchUpdate now [rule "spider" 1]).perform.on e).2 ∧
      staysBehind e ((Management.importAll now true bundle).perform.on e).2 ∧
      staysBehind behind (Management.refresh.perform.on behind).2 := by
  intro now rule kept store e behind staysBehind bundle
  have gone : ∀ before after : Engine, before.rules.snapshot.items = [rule "bot" 1] →
      (after.rules.snapshot.items.map fun r =>
        (r.version, r.conditions.map fun c => c.value.display)) = [(2, ["spider"])] →
      after.rulePatterns.entries.map Prod.fst = ["bot"] → staysBehind before after := by
    intro before after held replaced left
    refine ⟨.inl ⟨rule "bot" 1, held ▸ List.mem_singleton_self _, fun still => ?_⟩, replaced, left⟩
    have first := List.mem_singleton.mp (replaced ▸ List.mem_map_of_mem still)
    exact absurd (congrArg Prod.fst first) (by decide)
  -- the checksum of the bundle need not be computed to know that it is right
  have imported : ((Management.importAll now true bundle).perform.on e).2 =
      (Operation.on (do
        let profiles ← each (put now true) bundle.holdings.profiles
        let scoringRules ← each (put now true) bundle.holdings.scoringRules
        let rules ← each (put now true) bundle.holdings.rules
        return (⟨profiles ++ scoringRules ++ rules⟩ : ImportReport)) e).2 := by
    rw [Management.perform, Operation.on_discard, Engine.importAll,
      Operation.on_bind (Operation.on_ofExcept (Bundle.verify_new now _) e)]
  refine ⟨gone e _ rfl ?_ ?_, gone e _ rfl ?_ ?_, gone behind _ rfl ?_ ?_⟩
  · decide +kernel
  · decide +kernel
  · rw [imported]
    decide +kernel
  · rw [imported]
    decide +kernel
  · decide +kernel
  · decide +kernel

end Engine

end Verdict
