import Mathlib.Data.List.Nodup
import Verdict.Proofs.Dispatch.Execution
import Verdict.Proofs.Dispatch.Keys

/-!
# Events that repeat a key

A consumer that handles no key twice (`handled`) is to miss no action of a decision.  A key tells the
rule and the type of an action, but nothing else of it.  So no action is missed exactly if no rule has
two actions of one type that are both sent (`Decision.Singular`), as long as no two rules have one
name.
-/

namespace Verdict

/-! ## Consumers that drop repetitions -/

/-- What a consumer handles of some events: those with a key that it has not seen. -/
def handled (seen : List String) : List Event → List Event
  | [] => []
  | e :: rest =>
      if e.key ∈ seen then handled seen rest else e :: handled (e.key :: seen) rest

theorem handled_sublist (seen : List String) (events : List Event) :
    (handled seen events).Sublist events := by
  fun_induction handled seen events with
  | case1 => exact .slnil
  | case2 seen e rest _ ih => exact ih.cons e
  | case3 seen e rest _ ih => exact ih.cons_cons e

/-- Nothing is dropped exactly if all keys are new. -/
theorem handled_eq_self_iff (seen : List String) (events : List Event) :
    handled seen events = events ↔
      (events.map Event.key).Nodup ∧ ∀ e ∈ events, e.key ∉ seen := by
  fun_induction handled seen events with
  | case1 => simp
  | case2 seen e rest known ih =>
    refine iff_of_false (fun same => ?_) fun ⟨_, fresh⟩ => fresh e List.mem_cons_self known
    have shorter := (handled_sublist seen rest).length_le
    rw [same, List.length_cons] at shorter
    omega
  | case3 seen e rest fresh ih =>
    rw [List.cons.injEq, eq_self, true_and, ih, List.map_cons, List.nodup_cons]
    simp only [List.mem_cons, List.mem_map, not_or, forall_eq_or_imp, not_exists, not_and]
    constructor
    · rintro ⟨nodup, others⟩
      exact ⟨⟨fun e' member => (others e' member).1, nodup⟩, fresh,
        fun e' member => (others e' member).2⟩
    · rintro ⟨⟨apart, nodup⟩, -, others⟩
      exact ⟨nodup, fun e' member => ⟨apart e' member, others e' member⟩⟩

/-! ## The events of a decision -/

/-- The event that is sent, if one is. -/
def Delivery.event? (sent : Delivery) : Option Event :=
  match sent.content with
  | .event e => some e
  | .record _ => none

namespace Decision

/-- The events of the actions that a decision does not omit, in order. -/
def events (topics : Topics) (ids : Nat → String) (ctx : Context) (d : Decision) : List Event :=
  (sentOf (d.plan topics ids ctx)).filterMap Delivery.event?

/-- What the event of an action is of. -/
def originOf (d : Decision) (rule : MatchedRule) (a : Action) : Origin :=
  ⟨d.requestId, rule.ruleId, a.actionType⟩

/-- Whether no rule that matched has two actions of one type which the decision does not omit. -/
def Singular (d : Decision) : Prop :=
  ∀ rule ∈ d.matchedRules,
    ((rule.actions.filter fun a => !d.omits rule a).map Action.actionType).Nodup

instance (d : Decision) : Decidable d.Singular :=
  inferInstanceAs (Decidable (∀ rule ∈ d.matchedRules,
    ((rule.actions.filter fun a => !d.omits rule a).map Action.actionType).Nodup))

end Decision

/-- What is sent of an action is an event of the action, with its key. -/
theorem Delivery.Tells.event?_eq {topics : Topics} {d : Decision} {ctx : Context} {id : String}
    {rule : MatchedRule} {a : Action} {sent : Delivery} (tells : sent.Tells topics d ctx id rule a) :
    ∃ e, sent.event? = some e ∧ sent.content = .event e ∧ e.origin = d.originOf rule a ∧
      e.key = Digest.ofText e.origin.text := by
  obtain ⟨e, content, made, ⟨-, key⟩, ⟨request, ruleId, -⟩, -⟩ := tells.event
  have origin : e.origin = d.originOf rule a :=
    Origin.eq_iff.mpr ⟨Payload.actionType_ofAction? made, request, ruleId⟩
  exact ⟨e, by rw [event?, content], content, origin, origin ▸ key⟩

namespace Decision

section

variable (topics : Topics) (ids : Nat → String) (ctx : Context) (d : Decision)

/-- The events are those of the wanted actions, and they are all that is sent. -/
theorem events_spec :
    (sentOf (d.plan topics ids ctx)).map Delivery.content =
        (d.events topics ids ctx).map Content.event ∧
      (d.events topics ids ctx).map Event.origin =
        d.wanted.map (fun x => d.originOf x.1.1 x.1.2) ∧
      ∀ e ∈ d.events topics ids ctx, e.key = Digest.ofText e.origin.text := by
  have tells := tells_plan topics ids ctx d
  unfold events
  generalize d.wanted = wanted, sentOf (d.plan topics ids ctx) = sent at tells
  induction tells with
  | nil => exact ⟨rfl, rfl, List.forall_mem_nil _⟩
  | cons first _ ih =>
    obtain ⟨e, found, content, origin, key⟩ := first.event?_eq
    obtain ⟨contents, origins, keys⟩ := ih
    simp only [List.filterMap_cons_some found, List.map_cons, content, origin, contents, origins,
      List.forall_mem_cons, key, true_and]
    exact keys

/-- The origins of the wanted actions, rule by rule. -/
theorem origins_wanted :
    d.wanted.map (fun x => d.originOf x.1.1 x.1.2) = d.matchedRules.flatMap fun rule =>
      (rule.actions.filter fun a => !d.omits rule a).map (d.originOf rule) := by
  calc d.wanted.map (fun x => d.originOf x.1.1 x.1.2)
      = (d.wanted.map Prod.fst).map fun x => d.originOf x.1 x.2 := by rw [List.map_map]; rfl
    _ = _ := by
        rw [map_fst_wanted, actions, List.filter_flatMap, List.map_flatMap]
        simp only [List.filter_map, List.map_map]
        rfl

/-- Where no two rules have one name, the wanted actions are of different origins exactly if no rule
    has two of one type. -/
theorem nodup_origins_iff (distinct : d.matchedIds.Nodup) :
    ((d.events topics ids ctx).map Event.origin).Nodup ↔ d.Singular := by
  have apart : d.matchedRules.Pairwise (Function.onFun List.Disjoint fun rule =>
      (rule.actions.filter fun a => !d.omits rule a).map (d.originOf rule)) := by
    refine (List.pairwise_map.mp distinct).imp fun different o member member' => different ?_
    obtain ⟨a, -, rfl⟩ := List.mem_map.mp member
    obtain ⟨a', -, same⟩ := List.mem_map.mp member'
    exact (congrArg Origin.ruleId same).symm
  have injective (rule : MatchedRule) :
      Function.Injective fun t : ActionType => (⟨d.requestId, rule.ruleId, t⟩ : Origin) :=
    fun _ _ same => congrArg Origin.action same
  rw [(events_spec topics ids ctx d).2.1, origins_wanted, List.nodup_flatMap, and_iff_left apart]
  refine forall₂_congr fun rule _ => ?_
  rw [← List.nodup_map_iff (injective rule), List.map_map]
  rfl

end

end Decision

/-! ## Keys of one request -/

/-- Origins of one request have one text only if they are the same. -/
theorem Origin.text_eq_iff_of_request {o o' : Origin} (same : o.requestId = o'.requestId) :
    o.text = o'.text ↔ o = o' := by
  have unshifted {o o' : Origin} (same : o.requestId = o'.requestId) : ¬ o.Shifts o' := by
    rintro ⟨-, part, longer, -⟩
    have lengths := congrArg String.length (same.trans longer)
    rw [String.length_append, String.length_append, show ":".length = 1 from rfl] at lengths
    omega
  rw [text_eq_iff, or_iff_left]
  rintro (shifts | shifts)
  · exact unshifted same shifts
  · exact unshifted same.symm shifts

/-- The bytes that the key of an event is the digest of. -/
def Event.keyBytes (e : Event) : List UInt8 :=
  e.origin.text.toUTF8.data.toList

namespace Decision

variable (topics : Topics) (ids : Nat → String) (ctx : Context) (d : Decision)

theorem requestId_of_mem {e : Event} (member : e ∈ d.events topics ids ctx) :
    e.origin.requestId = d.requestId := by
  have origin := List.mem_map_of_mem (f := Event.origin) member
  rw [(events_spec topics ids ctx d).2.1] at origin
  obtain ⟨x, -, same⟩ := List.mem_map.mp origin
  exact (congrArg Origin.requestId same).symm

theorem key_eq_iff {e e' : Event} (member : e ∈ d.events topics ids ctx)
    (member' : e' ∈ d.events topics ids ctx) :
    e.key = e'.key ↔ e.origin = e'.origin ∨ Digest.Collision e.keyBytes e'.keyBytes := by
  have request := (requestId_of_mem topics ids ctx d member).trans
    (requestId_of_mem topics ids ctx d member').symm
  have keys := (events_spec topics ids ctx d).2.2
  rw [keys e member, keys e' member', Digest.ofText_eq_iff, Origin.text_eq_iff_of_request request]
  rfl

/-- Where a key comes twice, two wanted actions of one rule are of one type, or the digest has a
    collision. -/
theorem nodup_keys_of_singular (distinct : d.matchedIds.Nodup) (singular : d.Singular) :
    ((d.events topics ids ctx).map Event.key).Nodup ∨
      ∃ e ∈ d.events topics ids ctx, ∃ e' ∈ d.events topics ids ctx,
        Digest.Collision e.keyBytes e'.keyBytes := by
  refine or_iff_not_imp_right.mpr fun collisionFree => ?_
  have origins := List.pairwise_map.mp ((nodup_origins_iff topics ids ctx d distinct).mpr singular)
  refine List.pairwise_map.mpr (origins.imp_of_mem fun {e e'} member member' different same => ?_)
  rcases (key_eq_iff topics ids ctx d member member').mp same with equal | collision
  · exact different equal
  · exact collisionFree ⟨e, member, e', member', collision⟩

/-- Whatever the publisher does, it is handed the events of the actions that are not omitted.  Two of
    them have one key exactly if they are of one rule and one type of action, collisions of the digest
    aside.  So where no two rules have one name, a consumer that drops repetitions misses nothing of
    what is published if no rule has two actions of one type, and misses an action if some rule has
    two. -/
theorem keys_apart_iff_singular (distinct : d.matchedIds.Nodup) :
    let events := d.events topics ids ctx
    (∀ (m : Type → Type) [Monad m] [LawfulMonad m] (publish : Delivery → m Bool),
      publishAll publish {} (d.plan topics ids ctx) = do
        let taken ← (sentOf (d.plan topics ids ctx)).mapM publish
        return Report.tally {} (omittedOf (d.plan topics ids ctx)) taken) ∧
    (sentOf (d.plan topics ids ctx)).map Delivery.content = events.map Content.event ∧
    (∀ e ∈ events, ∀ e' ∈ events,
      (e.key = e'.key ↔
        (e.ruleId = e'.ruleId ∧ e.payload.actionType = e'.payload.actionType) ∨
          Digest.Collision e.keyBytes e'.keyBytes)) ∧
    ((events.map fun e => e.origin.text).Nodup ↔ d.Singular) ∧
    (¬ d.Singular → handled [] events ≠ events) ∧
    (d.Singular →
      (∀ published, published.Sublist events → handled [] published = published) ∨
        ∃ e ∈ events, ∃ e' ∈ events, Digest.Collision e.keyBytes e'.keyBytes) := by
  intro events
  have contents := (events_spec topics ids ctx d).1
  have request {e : Event} (member : e ∈ events) : e.requestId = d.requestId :=
    requestId_of_mem topics ids ctx d member
  have nodup := nodup_origins_iff topics ids ctx d distinct
  refine ⟨fun m _ _ publish => publishAll_eq publish {} _, contents, fun e member e' member' => ?_,
    ?_, fun twice kept => ?_, fun singular => ?_⟩
  · have origins : e.origin = e'.origin ↔
        e.payload.actionType = e'.payload.actionType ∧ e.requestId = e'.requestId ∧
          e.ruleId = e'.ruleId := Origin.eq_iff
    rw [key_eq_iff topics ids ctx d member member', origins, request member, request member']
    simp only [true_and, and_comm]
  · rw [← nodup]
    refine List.pairwise_map.trans (Iff.trans ?_ List.pairwise_map.symm)
    refine List.Pairwise.iff_of_mem fun {e e'} member member' => not_congr ?_
    exact Origin.text_eq_iff_of_request ((request member).trans (request member').symm)
  · -- different keys are of different texts, and so of different origins
    have keys := ((handled_eq_self_iff [] events).mp kept).1
    refine twice (nodup.mp (List.pairwise_map.mpr ?_))
    refine (List.pairwise_map.mp keys).imp_of_mem fun {e e'} member member' different same => ?_
    exact different ((key_eq_iff topics ids ctx d member member').mpr (.inl same))
  · refine (nodup_keys_of_singular topics ids ctx d distinct singular).imp_left fun keys => ?_
    intro published part
    exact (handled_eq_self_iff [] published).mpr ⟨keys.sublist (part.map _), fun _ _ => List.not_mem_nil⟩

/-- An action that notifies a channel. -/
def notifying (channel : String) : Action where
  actionType := .notify
  parameters := .ofList [("channel", .text channel)]

/-- A decision that warns of some rules that matched. -/
def warning (rules : List MatchedRule) : Decision where
  requestId := "q"
  allow := true
  level := .warn
  verdict := "warn"
  reason := "matched"
  matchedRules := rules
  timestamp := default

/-- Rules that notify one channel, of which one writes to the log and the other blocks twice. -/
def alike : List MatchedRule :=
  [{ ruleId := "r", ruleName := "r", actions := [notifying "#a", { actionType := .log }] },
    { ruleId := "s", ruleName := "s",
      actions := [{ actionType := .block }, notifying "#a", { actionType := .block }] }]

/-- A warning omits what blocks, so that no two events have one text behind their keys. -/
theorem keys_apart_iff_singular_alike :
    let events := (warning alike).events {} (fun i => toString i) { timestamp := default }
    (warning alike).matchedIds.Nodup ∧ events.length = 3 ∧
      (events.map fun e => e.origin.text).Nodup := by
  have distinct : (warning alike).matchedIds.Nodup := by decide
  have singular : (warning alike).Singular := by decide +kernel
  have apart := keys_apart_iff_singular {} (fun i => toString i) { timestamp := default }
    (warning alike) distinct
  exact ⟨distinct, by decide +kernel, apart.2.2.2.1.mpr singular⟩

/-- A rule that notifies two channels. -/
def twice : MatchedRule where
  ruleId := "r"
  ruleName := "r"
  actions := [notifying "#a", notifying "#b"]

/-- The events for two channels of one rule have one key, and the second is dropped. -/
theorem two_channels_share_key :
    (warning [twice]).matchedIds.Nodup ∧
      ∃ e e' : Event,
        (warning [twice]).events {} (fun i => toString i) { timestamp := default } = [e, e'] ∧
          e.payload ≠ e'.payload ∧ e.key = e'.key ∧ handled [] [e, e'] = [e] := by
  let event (id channel : String) : Event :=
    .new id (warning [twice]) twice { timestamp := default }
      (.notify channel "rule 'r' matched")
  have same : (event "0" "#a").key = (event "1" "#b").key := rfl
  have listed : (warning [twice]).events {} (fun i => toString i) { timestamp := default } =
      [event "0" "#a", event "1" "#b"] := rfl
  refine ⟨by decide, event "0" "#a", event "1" "#b", listed, fun equal => ?_, same, ?_⟩
  · have channels : "#a" = "#b" := (Payload.notify.inj equal).1
    exact absurd channels (by decide)
  · simp [handled, same]

end Decision

end Verdict
