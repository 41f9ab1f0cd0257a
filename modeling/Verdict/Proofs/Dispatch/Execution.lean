import Mathlib.Data.List.Forall2
import Verdict.Dispatch.Plan

/-!
# What becomes of the actions of a decision

Every action is settled once: it is omitted (`Decision.omits`), or it is sent as one delivery that
tells of it (`Delivery.Tells`).  Publishing is handing what is sent to the publisher one after the
other, whatever the publisher does (`publishAll_eq`), and counting.  On a bus that takes an event or
not by its topic, `execute_accounts` says what is counted, which events are on the bus afterwards,
and that topics which take no events any more cost their own events only.
-/

namespace Verdict

/-! ## One action -/

/-- Whether an action of a rule that matched is left out: it is switched off, it blocks a request
    that is allowed, it allows a request, or its parameters make no sense. -/
def Decision.omits (d : Decision) (rule : MatchedRule) (a : Action) : Bool :=
  !a.enabled || (a.actionType == .block && d.allow) || a.actionType == .allow ||
    !(Payload.ofAction? rule.ruleName a).isOk

/-- Whether a delivery is an event about an action: on the topic of the action's type, with the
    payload of the action and with the request, the rule and the verdict of the decision. -/
structure Delivery.Tells (topics : Topics) (d : Decision) (ctx : Context) (id : String)
    (rule : MatchedRule) (a : Action) (sent : Delivery) : Prop where
  topic : a.actionType.topic? topics = some sent.topic
  event : ∃ e : Event, sent.content = .event e ∧
    Payload.ofAction? rule.ruleName a = .ok (some e.payload) ∧
    (e.id = id ∧ e.key = Event.keyOf d.requestId rule.ruleId (Named.name a.actionType)) ∧
    (e.requestId = d.requestId ∧ e.ruleId = rule.ruleId ∧ e.ruleName = rule.ruleName) ∧
    (e.verdict = d.verdict ∧ e.allow = d.allow ∧ e.timestamp = d.timestamp) ∧
    (e.method = ctx.method ∧ e.path = ctx.path ∧ e.clientIp = ctx.clientIp ∧
      e.userId = ctx.userId)

/-- A payload is of the type of its action. -/
theorem Payload.actionType_ofAction? {ruleName : String} {a : Action} {p : Payload}
    (made : Payload.ofAction? ruleName a = .ok (some p)) : p.actionType = a.actionType := by
  unfold Payload.ofAction? at made
  cases type : a.actionType <;> simp only [type] at made
  case notify =>
    split at made
    · cases made
      rfl
    · cases made
  case rateLimit | throttle =>
    cases read : limits? a with
    | error fault => simp [read, Except.map] at made
    | ok limits =>
      simp only [read, Except.map, Except.ok.injEq, Option.some.injEq] at made
      subst made
      rfl
  case redirect =>
    split at made
    · cases read : status? a with
      | error fault => simp [read, Except.map] at made
      | ok status =>
        simp only [read, Except.map, Except.ok.injEq, Option.some.injEq] at made
        subst made
        rfl
    · cases made
  case allow => cases made
  all_goals
    cases made
    rfl

/-- Only actions that allow a request have no payload. -/
theorem Payload.ofAction?_eq_none {ruleName : String} {a : Action} :
    Payload.ofAction? ruleName a = .ok none ↔ a.actionType = .allow := by
  unfold Payload.ofAction?
  cases type : a.actionType <;> simp only [reduceCtorEq, iff_false]
  case notify => split <;> simp
  case rateLimit | throttle => cases limits? a <;> simp [Except.map]
  case redirect =>
    split
    · cases status? a <;> simp [Except.map]
    · simp
  all_goals simp

/-- Only actions that allow a request have no topic. -/
theorem ActionType.topic?_eq_none {topics : Topics} {t : ActionType} :
    t.topic? topics = none ↔ t = .allow := by
  cases t <;> simp [ActionType.topic?]

section

variable (topics : Topics) (d : Decision) (ctx : Context) (id : String) (rule : MatchedRule)
  (a : Action)

/-- What is omitted is not delivered. -/
theorem Action.delivery_of_omits (omitted : d.omits rule a = true) :
    ∃ why, a.delivery topics d ctx id rule = .error why := by
  unfold Action.delivery
  cases on : a.enabled with
  | false => exact ⟨.disabled, rfl⟩
  | true =>
    cases overruled : a.actionType == .block && d.allow with
    | true => exact ⟨.overruled, rfl⟩
    | false =>
      simp only [Decision.omits, on, overruled, Bool.not_true, Bool.false_or,
        Bool.or_eq_true, beq_iff_eq, Bool.not_eq_true'] at omitted
      cases goes : a.actionType.topic? topics with
      | none => exact ⟨.silent, rfl⟩
      | some topic =>
        cases made : Payload.ofAction? rule.ruleName a with
        | error fault => exact ⟨.unusable fault, rfl⟩
        | ok payload =>
          rcases omitted with allows | unusable
          · rw [ActionType.topic?_eq_none.mpr allows] at goes
            cases goes
          · simp [made, Except.isOk, Except.toBool] at unusable

/-- What is not omitted is delivered, once and as what it is. -/
theorem Action.delivery_of_not_omits (wanted : d.omits rule a = false) :
    ∃ sent, a.delivery topics d ctx id rule = .ok sent ∧ sent.Tells topics d ctx id rule a := by
  simp only [Decision.omits, Bool.or_eq_false_iff, Bool.not_eq_false', beq_eq_false_iff_ne] at wanted
  obtain ⟨⟨⟨on, standing⟩, speaks⟩, usable⟩ := wanted
  obtain ⟨topic, goes⟩ : ∃ topic, a.actionType.topic? topics = some topic :=
    Option.ne_none_iff_exists'.mp (mt ActionType.topic?_eq_none.mp speaks)
  cases made : Payload.ofAction? rule.ruleName a with
  | error fault => simp [made, Except.isOk, Except.toBool] at usable
  | ok some_payload =>
    cases some_payload with
    | none => exact absurd (Payload.ofAction?_eq_none.mp made) speaks
    | some payload =>
      refine ⟨⟨topic, .event (.new id d rule ctx payload)⟩, ?_, goes, ?_⟩
      · simp [Action.delivery, on, standing, goes, made]
      · refine ⟨_, rfl, made, ⟨rfl, ?_⟩, ⟨rfl, rfl, rfl⟩, ⟨rfl, rfl, rfl⟩, rfl, rfl, rfl, rfl⟩
        rw [← Payload.actionType_ofAction? made]
        rfl

end

/-! ## The actions of a decision -/

/-- What is sent of a plan. -/
def sentOf (plan : List (Except Omission Delivery)) : List Delivery :=
  plan.filterMap Except.toOption

/-- How many actions of a plan are left out. -/
def omittedOf (plan : List (Except Omission Delivery)) : Nat :=
  (plan.filter fun outcome => !outcome.isOk).length

section

variable (why : Omission) (sent : Delivery) (rest : List (Except Omission Delivery))

@[simp] theorem sentOf_nil : sentOf [] = [] := rfl

@[simp] theorem sentOf_error : sentOf (.error why :: rest) = sentOf rest := rfl

@[simp] theorem sentOf_ok : sentOf (.ok sent :: rest) = sent :: sentOf rest := rfl

@[simp] theorem omittedOf_nil : omittedOf [] = 0 := rfl

@[simp] theorem omittedOf_error : omittedOf (.error why :: rest) = omittedOf rest + 1 := rfl

@[simp] theorem omittedOf_ok : omittedOf (.ok sent :: rest) = omittedOf rest := rfl

end

/-- The actions that a decision does not omit, each with its rule and its number. -/
def Decision.wanted (d : Decision) : List ((MatchedRule × Action) × Nat) :=
  d.actions.zipIdx.filter fun x => !d.omits x.1.1 x.1.2

/-- Which items are chosen does not depend on their numbers. -/
theorem map_fst_filter_zipIdx {α : Type} (p : α → Bool) (items : List α) :
    (items.zipIdx.filter fun x => p x.1).map Prod.fst = items.filter p := by
  have chosen : (items.zipIdx.map Prod.fst).filter p =
      (items.zipIdx.filter fun x => p x.1).map Prod.fst := List.filter_map
  rw [← chosen, List.zipIdx_map_fst]

section

variable (topics : Topics) (ids : Nat → String) (ctx : Context) (d : Decision)

theorem tells_sentOf (actions : List ((MatchedRule × Action) × Nat)) :
    List.Forall₂ (fun x sent => sent.Tells topics d ctx (ids x.2) x.1.1 x.1.2)
      (actions.filter fun x => !d.omits x.1.1 x.1.2)
      (sentOf (actions.map fun x => x.1.2.delivery topics d ctx (ids x.2) x.1.1)) := by
  induction actions with
  | nil => exact .nil
  | cons x rest ih =>
    cases omitted : d.omits x.1.1 x.1.2 with
    | true =>
      obtain ⟨why, left⟩ := x.1.2.delivery_of_omits topics d ctx (ids x.2) x.1.1 omitted
      rw [List.filter_cons_of_neg (by simp [omitted]), List.map_cons, left, sentOf_error]
      exact ih
    | false =>
      obtain ⟨sent, made, tells⟩ :=
        x.1.2.delivery_of_not_omits topics d ctx (ids x.2) x.1.1 omitted
      rw [List.filter_cons_of_pos (by simp [omitted]), List.map_cons, made, sentOf_ok]
      exact .cons tells ih

theorem omittedOf_map (actions : List ((MatchedRule × Action) × Nat)) :
    omittedOf (actions.map fun x => x.1.2.delivery topics d ctx (ids x.2) x.1.1) =
      (actions.filter fun x => d.omits x.1.1 x.1.2).length := by
  induction actions with
  | nil => rfl
  | cons x rest ih =>
    cases omitted : d.omits x.1.1 x.1.2 with
    | true =>
      obtain ⟨why, left⟩ := x.1.2.delivery_of_omits topics d ctx (ids x.2) x.1.1 omitted
      rw [List.filter_cons_of_pos (by exact omitted), List.map_cons, left, omittedOf_error, ih,
        List.length_cons]
    | false =>
      obtain ⟨sent, made, -⟩ := x.1.2.delivery_of_not_omits topics d ctx (ids x.2) x.1.1 omitted
      rw [List.filter_cons_of_neg (by simp [omitted]), List.map_cons, made, omittedOf_ok, ih]

/-- What is sent of the plan of a decision tells of the actions that are wanted, in their order. -/
theorem tells_plan :
    List.Forall₂ (fun x sent => sent.Tells topics d ctx (ids x.2) x.1.1 x.1.2) d.wanted
      (sentOf (d.plan topics ids ctx)) :=
  tells_sentOf topics ids ctx d d.actions.zipIdx

/-- The plan of a decision leaves out what is omitted. -/
theorem omittedOf_plan :
    omittedOf (d.plan topics ids ctx) = (d.actions.filter fun x => d.omits x.1 x.2).length := by
  rw [← map_fst_filter_zipIdx (fun x : MatchedRule × Action => d.omits x.1 x.2), List.length_map]
  exact omittedOf_map topics ids ctx d d.actions.zipIdx

/-- Without their numbers, the wanted actions are those that are not omitted. -/
theorem map_fst_wanted :
    d.wanted.map Prod.fst = d.actions.filter fun x => !d.omits x.1 x.2 :=
  map_fst_filter_zipIdx (fun x : MatchedRule × Action => !d.omits x.1 x.2) d.actions

/-- Every action is wanted or omitted. -/
theorem omitted_add_wanted :
    (d.actions.filter fun x => d.omits x.1 x.2).length + d.wanted.length = d.actions.length := by
  have counted : d.wanted.length = (d.actions.filter fun x => !d.omits x.1 x.2).length := by
    rw [← map_fst_wanted, List.length_map]
  rw [counted]
  exact (List.length_eq_length_filter_add _).symm

end

/-! ## Publishing -/

/-- A report with more actions: some omitted, the others taken or not. -/
def Report.tally (r : Report) (omitted : Nat) (taken : List Bool) : Report :=
  ⟨r.dispatched + taken.count true, r.skipped + omitted, r.failed + taken.count false⟩

/-- Whatever the publisher does, it is handed what is sent, one delivery after the other. -/
theorem publishAll_eq {m : Type → Type} [Monad m] [LawfulMonad m] (publish : Delivery → m Bool)
    (r : Report) (plan : List (Except Omission Delivery)) :
    publishAll publish r plan = do
      let taken ← (sentOf plan).mapM publish
      return r.tally (omittedOf plan) taken := by
  induction plan generalizing r with
  | nil => simp [publishAll, Report.tally]
  | cons outcome rest ih =>
    cases outcome with
    | error why =>
      have skipped : ∀ taken, r.skip.tally (omittedOf rest) taken =
          r.tally (omittedOf rest + 1) taken := by
        intro taken
        simp only [Report.tally, Report.skip, Report.mk.injEq, true_and, and_true]
        omega
      simp only [publishAll, ih, skipped, sentOf_error, omittedOf_error]
    | ok sent =>
      have counted : ∀ accepted taken, (r.count accepted).tally (omittedOf rest) taken =
          r.tally (omittedOf rest) (accepted :: taken) := by
        intro accepted taken
        cases accepted <;> simp [Report.tally, Report.count] <;> omega
      simp only [publishAll, ih, counted, sentOf_ok, omittedOf_ok, List.mapM_cons, bind_assoc,
        pure_bind]

/-! ## The bus -/

/-- A delivery as the bus keeps it. -/
def Delivery.published (sent : Delivery) : PublishedEvent :=
  ⟨sent.topic, sent.content.toJson⟩

/-- Whether a bus takes the events of a topic, within a time. -/
def Bus.takes (bus : Bus) (timeout : Nat) (topic : String) : Bool :=
  bus.outcome timeout topic == .accepted

/-- A bus with more events. -/
def Bus.keep (bus : Bus) (events : List PublishedEvent) : Bus :=
  { bus with events := bus.events ++ events }

/-- What becomes of an event does not depend on the events before it. -/
theorem Bus.takes_keep (bus : Bus) (events : List PublishedEvent) (timeout : Nat) :
    (bus.keep events).takes timeout = bus.takes timeout := rfl

theorem Delivery.publish_run (timeout : Nat) (sent : Delivery) (bus : Bus) :
    (sent.publish timeout).run bus =
      (bus.takes timeout sent.topic,
        bus.keep (if bus.takes timeout sent.topic then [sent.published] else [])) := by
  have run : (sent.publish timeout).run bus =
      (bus.takes timeout sent.topic, bus.publish timeout sent.topic sent.content.toJson) := rfl
  rw [run]
  unfold Bus.takes Bus.publish
  cases bus.outcome timeout sent.topic with
  | accepted => rfl
  | refused | late => simp [Bus.keep]

/-- Of deliveries that are published in turn, the bus keeps those whose topics take them. -/
theorem mapM_publish_run (timeout : Nat) (sent : List Delivery) (bus : Bus) :
    (sent.mapM (Delivery.publish timeout)).run bus =
      (sent.map fun s => bus.takes timeout s.topic,
        bus.keep ((sent.filter fun s => bus.takes timeout s.topic).map Delivery.published)) := by
  induction sent generalizing bus with
  | nil => simp [Bus.keep]; rfl
  | cons first rest ih =>
    have here := first.publish_run timeout bus
    generalize kept : bus.keep (if bus.takes timeout first.topic then [first.published] else []) =
      after at here
    have later := ih after
    have same : after.takes timeout = bus.takes timeout := by rw [← kept, Bus.takes_keep]
    have whole : ((first :: rest).mapM (Delivery.publish timeout)).run bus =
        (((first.publish timeout).run bus).1 ::
            ((rest.mapM (Delivery.publish timeout)).run ((first.publish timeout).run bus).2).1,
          ((rest.mapM (Delivery.publish timeout)).run ((first.publish timeout).run bus).2).2) := by
      rw [List.mapM_cons]
      rfl
    rw [whole, here, later, same]
    refine Prod.ext rfl ?_
    simp only [← kept, Bus.keep]
    cases taken : bus.takes timeout first.topic <;> simp [taken]

/-- A bus that answers as it is told to for some topics. -/
def Bus.answering (timeout : Nat) (answer : String → Outcome) (topics : List String) : Bus where
  refusing := topics.filter fun t => answer t = .refused
  delays := (topics.filter fun t => answer t = .late).foldr
    (fun t delays => delays.insert t (timeout + 1)) .empty

theorem get?_foldr_insert (names : List String) (value : Nat) (name : String) :
    (names.foldr (fun t delays => delays.insert t value) (.empty : KeyMap Nat)).get? name =
      if name ∈ names then some value else none := by
  induction names with
  | nil => rfl
  | cons first rest ih =>
    rw [List.foldr_cons, KeyMap.get?_insert, ih]
    by_cases here : name = first <;> simp [here]

/-- However topics are to answer, there is a bus on which they do: what holds on every bus holds
    whichever of the topics fail. -/
theorem Bus.outcome_answering (timeout : Nat) (answer : String → Outcome) {topics : List String}
    {topic : String} (member : topic ∈ topics) :
    (answering timeout answer topics).outcome timeout topic = answer topic := by
  have delayed : (answering timeout answer topics).delay topic =
      if answer topic = .late then timeout + 1 else 0 := by
    rw [delay, answering, get?_foldr_insert]
    by_cases late : answer topic = .late <;> simp [member, late]
  rw [outcome, delayed]
  cases said : answer topic <;> simp [answering, member, said]

/-- What is counted and what the bus keeps when a decision is carried out. -/
theorem Decision.execute_run {topics : Topics} {ids : Nat → String} {ctx : Context} {d : Decision}
    {sent : List Delivery} (planned : sentOf (d.plan topics ids ctx) = sent) (timeout : Nat)
    (bus : Bus) :
    (d.execute topics timeout ids ctx).run bus =
      (⟨(sent.filter fun s => bus.takes timeout s.topic).length,
          (d.actions.filter fun x => d.omits x.1 x.2).length,
          (sent.filter fun s => !bus.takes timeout s.topic).length⟩,
        bus.keep ((sent.filter fun s => bus.takes timeout s.topic).map Delivery.published)) := by
  have counted : ∀ b : Bool, (sent.map fun s => bus.takes timeout s.topic).count b =
      (sent.filter fun s => bus.takes timeout s.topic == b).length := by
    intro b
    rw [List.count, List.countP_map, List.countP_eq_length_filter]
    rfl
  have run : (d.execute topics timeout ids ctx).run bus =
      (Report.tally {} (omittedOf (d.plan topics ids ctx))
          ((sent.mapM (Delivery.publish timeout)).run bus).1,
        ((sent.mapM (Delivery.publish timeout)).run bus).2) := by
    rw [execute, publishAll_eq, planned]
    rfl
  rw [run, mapM_publish_run, omittedOf_plan, Report.tally, counted, counted]
  simp

/-- Carrying out a decision settles each of its actions once.  It is skipped if the decision omits
    it, and is otherwise sent as one delivery that tells of it; what topics take is on the bus
    afterwards, in the order of the rules and of the actions of each.  On a bus some topics of which
    refuse events or are late that took them before, the events of these topics are missing and are
    counted as failed, and nothing else is different. -/
theorem execute_accounts (topics : Topics) (timeout : Nat) (ids : Nat → String) (ctx : Context)
    (d : Decision) (bus : Bus) :
    ∃ sent : List Delivery,
      List.Forall₂ (fun x s => s.Tells topics d ctx (ids x.2) x.1.1 x.1.2) d.wanted sent ∧
      let carriedOut := (d.execute topics timeout ids ctx).run bus
      let fresh := (sent.filter fun s => bus.takes timeout s.topic).map Delivery.published
      carriedOut.1.skipped = (d.actions.filter fun x => d.omits x.1 x.2).length ∧
      carriedOut.1.dispatched = fresh.length ∧
      carriedOut.1.dispatched + carriedOut.1.failed = sent.length ∧
      carriedOut.1.skipped + carriedOut.1.dispatched + carriedOut.1.failed = d.actions.length ∧
      carriedOut.2 = { bus with events := bus.events ++ fresh } ∧
      ∀ worse : Bus, worse.events = bus.events →
        (∀ topic, worse.takes timeout topic = true → bus.takes timeout topic = true) →
        let carriedOut' := (d.execute topics timeout ids ctx).run worse
        let lost := fresh.filter fun e => !worse.takes timeout e.topic
        carriedOut'.2 =
            { worse with
              events := bus.events ++ fresh.filter fun e => worse.takes timeout e.topic } ∧
          carriedOut'.1.skipped = carriedOut.1.skipped ∧
          carriedOut'.1.dispatched + lost.length = carriedOut.1.dispatched ∧
          carriedOut'.1.failed = carriedOut.1.failed + lost.length := by
  have tells := tells_plan topics ids ctx d
  generalize planned : sentOf (d.plan topics ids ctx) = sent at tells
  have all : d.wanted.length = sent.length := tells.length_eq
  have settled := omitted_add_wanted d
  have split : ∀ b : Bus, (sent.filter fun s => b.takes timeout s.topic).length +
      (sent.filter fun s => !b.takes timeout s.topic).length = sent.length := fun b =>
    (List.length_eq_length_filter_add _).symm
  refine ⟨sent, tells, ?_⟩
  intro carriedOut fresh
  have ran : carriedOut = _ := Decision.execute_run planned timeout bus
  have number : fresh.length = (sent.filter fun s => bus.takes timeout s.topic).length :=
    List.length_map _
  rw [ran]
  refine ⟨rfl, number.symm, split bus, ?_, rfl, ?_⟩
  · have both := split bus
    simp only
    omega
  · intro worse same fewer carriedOut' lost
    have ran' : carriedOut' = _ := Decision.execute_run planned timeout worse
    -- what a worse bus takes is what it still takes of what was taken before
    have still : (sent.filter fun s => worse.takes timeout s.topic).map Delivery.published =
        fresh.filter fun e => worse.takes timeout e.topic := by
      have both : ∀ s ∈ sent, worse.takes timeout s.topic =
          (worse.takes timeout s.topic && bus.takes timeout s.topic) := by
        intro s _
        cases taken : worse.takes timeout s.topic with
        | false => rfl
        | true => rw [fewer s.topic taken, Bool.and_self]
      rw [List.filter_map, List.filter_congr both, ← List.filter_filter]
      rfl
    have taken : (sent.filter fun s => worse.takes timeout s.topic).length =
        (fresh.filter fun e => worse.takes timeout e.topic).length := by
      rw [← still, List.length_map]
    have parted : fresh.length =
        (fresh.filter fun e => worse.takes timeout e.topic).length + lost.length :=
      List.length_eq_length_filter_add _
    have before := split bus
    have after := split worse
    rw [ran']
    refine ⟨?_, rfl, ?_, ?_⟩
    · simp only [Bus.keep, still, same]
    · simp only
      omega
    · simp only
      omega

end Verdict
