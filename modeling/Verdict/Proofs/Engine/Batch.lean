import Verdict.Proofs.Engine.Operation
import Verdict.Proofs.Store.Versions

/-!
# Several rules at once

Several rules are handled one by one (`Engine.Handled`).  Each writes to the store of rules on its
own (`Operation.Writes`), and a write that fails leaves the store as it was; so those that are
reported as done come to the same as all (`Engine.Handled.store`), and what is reported of a rule is
what becomes of it alone after those (`Engine.Handled.outcome`).  Where rules are updated, the
stores are compared apart from the times of the updates (`Store.SameBut`).  Only an overflow breaks
several updates off, and there is none as long as the versions have room for them
(`Repository.RoomFor`).
-/

namespace Verdict

/-! ## Stores apart from times -/

/-- A rule without the time of its last update, if it has one of some ids. -/
def Rule.undated (ids : List String) (r : Rule) : Rule :=
  if r.id ∈ ids then { r with updatedAt := r.createdAt } else r

/-- A store without the times of the last updates of the rules of some ids. -/
def Store.undated (ids : List String) (s : Store Rule) : Store Rule where
  repository := { s.repository with items := s.repository.items.map (Rule.undated ids) }
  snapshot := { s.snapshot with items := s.snapshot.items.map (Rule.undated ids) }

/-- Whether two stores are the same but for the times at which rules of some ids were updated. -/
def Store.SameBut (ids : List String) (s s' : Store Rule) : Prop :=
  s.undated ids = s'.undated ids

section

variable {ids : List String} {r : Rule}

@[simp] theorem Rule.id_undated : Entity.id (r.undated ids) = Entity.id r := by
  unfold undated
  split <;> rfl

@[simp] theorem Rule.version_undated : Entity.version (r.undated ids) = Entity.version r := by
  unfold undated
  split <;> rfl

theorem Rule.undated_undated {ids' : List String} (more : ids ⊆ ids') (r : Rule) :
    (r.undated ids).undated ids' = r.undated ids' := by
  by_cases one : r.id ∈ ids
  · simp [undated, one, more one]
  · simp [undated, one]

/-- The time at which a rule of one of the ids is updated is left out. -/
theorem Rule.undated_succeed (one : r.id ∈ ids) (version : UInt64) (now now' : Instant) :
    (Entity.succeed r version now).undated ids = (Entity.succeed r version now').undated ids := by
  have given (t : Instant) : (Entity.succeed r version t).id ∈ ids := one
  unfold undated
  rw [if_pos (given now), if_pos (given now')]
  rfl

theorem Rule.map_undated_undated {ids' : List String} (more : ids ⊆ ids') (items : List Rule) :
    (items.map (undated ids)).map (undated ids') = items.map (undated ids') := by
  rw [List.map_map]
  exact List.map_congr_left fun r _ => undated_undated more r

theorem Store.undated_undated {ids' : List String} (more : ids ⊆ ids') (s : Store Rule) :
    (s.undated ids).undated ids' = s.undated ids' := by
  simp only [undated, Rule.map_undated_undated more]

theorem Snapshot.map_undated_upsertItem (items : List Rule) :
    (upsertItem r items).map (Rule.undated ids) =
      upsertItem (r.undated ids) (items.map (Rule.undated ids)) := by
  induction items with
  | nil => rfl
  | cons b rest ih =>
    simp only [upsertItem, List.map_cons, Rule.id_undated, Rule.version_undated]
    split
    · rw [List.map_cons, apply_ite (Rule.undated ids)]
    · rw [List.map_cons, ih]

theorem Rule.succeeding_undated (one : r.id ∈ ids) (now now' : Instant) (b : Rule) :
    (Entity.succeeding now r b).map (undated ids) =
      (Entity.succeeding now' r (b.undated ids)).map (undated ids) := by
  have same : Entity.HasSuccessor (b.undated ids) ↔ Entity.HasSuccessor b := by
    unfold Entity.HasSuccessor
    rw [version_undated]
  by_cases low : Entity.HasSuccessor b
  · rw [Entity.succeeding, Entity.succeeding, if_pos low, if_pos (same.mpr low), version_undated]
    exact congrArg Except.ok (undated_succeed one _ now now')
  · rw [Entity.succeeding, Entity.succeeding, if_neg low, if_neg (mt same.mp low)]

/-- The successor of a rule goes to the same place, whenever it is put there. -/
theorem Repository.succeedItem_undated (one : r.id ∈ ids) (now now' : Instant)
    (items : List Rule) :
    (succeedItem now r items).map (Prod.map (Rule.undated ids) (List.map (Rule.undated ids))) =
      (succeedItem now' r (items.map (Rule.undated ids))).map
        (Prod.map (Rule.undated ids) (List.map (Rule.undated ids))) := by
  have again := Rule.map_undated_undated (List.Subset.refl ids)
  induction items with
  | nil => rfl
  | cons b rest ih =>
    simp only [succeedItem, List.map_cons, Rule.id_undated]
    split
    · have placed := Rule.succeeding_undated one now now' b
      revert placed
      cases Entity.succeeding now r b <;> cases Entity.succeeding now' r (b.undated ids) <;>
        simp [Except.map, again]
    · revert ih
      cases succeedItem now r rest <;> cases succeedItem now' r (rest.map (Rule.undated ids)) <;>
        simp [Except.map, Prod.ext_iff, Rule.undated_undated (List.Subset.refl ids)]

end

namespace Store

variable {ids : List String} {r : Rule} {s s' : Store Rule}

/-- What an update writes, if nothing is wrong with the rule. -/
theorem write_update_eq (valid : Entity.validate r = .ok r) (now : Instant) (s : Store Rule) :
    s.write (.update now r) =
      if s.repository.available then
        (Repository.succeedItem now r s.repository.items).map
          fun x => ⟨{ s.repository with items := x.2 }, s.snapshot.upsert x.1⟩
      else .error (.store s!"{Entity.kind Rule} repository unavailable") := by
  simp only [write, Repository.record, valid, Repository.update, Repository.reach]
  split
  · simp only [bind, Except.bind]
    cases Repository.succeedItem now r s.repository.items <;> rfl
  · rfl

/-- An update of a rule of one of the ids does the same to a store and to the store without the
    times of these ids, whenever it comes. -/
theorem undated_write_update (one : r.id ∈ ids) (now now' : Instant) (s : Store Rule) :
    (s.write (.update now r)).map (undated ids) =
      ((s.undated ids).write (.update now' r)).map (undated ids) := by
  cases valid : Entity.validate r with
  | error cause =>
    simp only [write, Repository.record, valid]
    rfl
  | ok r' =>
    obtain rfl := (Entity.validate_eq_ok.mp valid).2
    rw [write_update_eq valid, write_update_eq valid]
    have placed := Repository.succeedItem_undated one now now' s.repository.items
    have reached : (s.undated ids).repository.available = s.repository.available := rfl
    have listed : (s.undated ids).repository.items =
        s.repository.items.map (Rule.undated ids) := rfl
    rw [reached, listed]
    by_cases available : s.repository.available = true
    · rw [if_pos available, if_pos available]
      revert placed
      cases Repository.succeedItem now r s.repository.items <;>
        cases Repository.succeedItem now' r (s.repository.items.map (Rule.undated ids))
      case error.error => exact fun placed => congrArg Except.error (Except.error.inj placed)
      case error.ok | ok.error => simp [Except.map]
      case ok.ok x x' =>
        intro placed
        obtain ⟨stored, items⟩ := Prod.mk.inj (Except.ok.inj placed)
        refine congrArg Except.ok ?_
        simp only [undated, Snapshot.upsert, Snapshot.change, Snapshot.map_undated_upsertItem,
          stored, items, Rule.map_undated_undated (List.Subset.refl ids)]
    · rw [if_neg available, if_neg available]

theorem SameBut.write_update (same : s.SameBut ids s') (one : r.id ∈ ids) (now now' : Instant) :
    (s.write (.update now r)).map (undated ids) =
      (s'.write (.update now' r)).map (undated ids) := by
  rw [undated_write_update one now now' s, same, ← undated_write_update one now' now' s']

theorem SameBut.more {ids' : List String} (same : s.SameBut ids s') (more : ids ⊆ ids') :
    s.SameBut ids' s' := by
  unfold SameBut
  rw [← undated_undated more s, same, undated_undated more]

/-- The store after a write; one that fails leaves it as it was. -/
def after (s : Store Rule) (w : Write Rule) : Store Rule :=
  match s.write w with
  | .ok s' => s'
  | .error _ => s

theorem SameBut.after_update (same : s.SameBut ids s') (one : r.id ∈ ids) (now now' : Instant) :
    (s.after (.update now r)).SameBut ids (s'.after (.update now' r)) := by
  have written := same.write_update one now now'
  unfold after
  revert written
  cases s.write (.update now r) <;> cases s'.write (.update now' r)
  case error.error => exact fun _ => same
  case error.ok | ok.error => simp [Except.map]
  case ok.ok => exact fun written => Except.ok.inj written

end Store

/-! ## What becomes of one rule -/

/-- What became of an entity of which something was asked. -/
def ItemOutcome.of {β : Type} : Except Failure β → ItemOutcome
  | .ok _ => .done
  | .error cause => .failed cause

theorem ItemOutcome.of_map {β γ : Type} (f : β → γ) (x : Except Failure β) :
    of (x.map f) = of x := by
  cases x <;> rfl

theorem ItemOutcome.of_eq_failed {β : Type} {x : Except Failure β} {cause : Failure} :
    of x = .failed cause ↔ x = .error cause := by
  cases x <;> simp [of]

/-- What becomes of an update does not depend on the time, nor on those of other updates. -/
theorem Store.SameBut.outcome_update {ids : List String} {s s' : Store Rule}
    (same : s.SameBut ids s') (now now' : Instant) (r : Rule) :
    ItemOutcome.of (s.write (.update now r)) = ItemOutcome.of (s'.write (.update now' r)) := by
  have more : s.SameBut (r.id :: ids) s' := same.more (List.subset_cons_self r.id ids)
  have written := more.write_update List.mem_cons_self now now'
  rw [← ItemOutcome.of_map (undated (r.id :: ids)), written, ItemOutcome.of_map]

/-- Whether an operation on an engine carries out a write to its store of rules. -/
structure Operation.Writes (op : Operation Rule) (w : Write Rule) : Prop where
  outcome : ∀ e, ItemOutcome.of (op.on e).1 = ItemOutcome.of (e.rules.write w)
  store : ∀ e, (op.on e).2.rules = e.rules.after w

namespace Engine

/-- A change of the store of rules that is noted is the write that it comes to. -/
theorem writes_change {f : Store Rule → Except Failure (Rule × Store Rule)} {w : Write Rule}
    (same : ∀ s, (f s).map Prod.snd = s.write w) (c : Change) :
    Operation.Writes (do let stored ← change f; noteStored stored c; return stored) w := by
  have ended (e : Engine) : ∀ result, f e.rules = result →
      Operation.on (do let stored ← change f; noteStored stored c; return stored) e =
        match result with
        | .ok (stored, s) => (.ok stored, (Managed.withStore s e).note
            (.changed (Entity.kind Rule) (Entity.id stored) (some (Entity.version stored)) c))
        | .error cause => (.error cause, e) := by
    rintro (cause | ⟨stored, s⟩) found
    · exact Operation.on_bind_error (change_on_error found)
    · exact Operation.on_bind (change_on found)
  constructor
  · intro e
    rw [← same, ItemOutcome.of_map, ended e _ rfl]
    cases f e.rules <;> rfl
  · intro e
    rw [Store.after, ← same, ended e _ rfl]
    cases f e.rules <;> rfl

theorem writes_create (r : Rule) : (create r).Writes (.create r) :=
  writes_change (fun s => s.map_snd_create r) .create

theorem writes_replace (now : Instant) (r : Rule) : (replace now r).Writes (.update now r) :=
  writes_change (fun s => s.map_snd_update now r) .update

/-- Dropping the compiled patterns after an update leaves the stores alone. -/
theorem writes_update (now : Instant) (r : Rule) : (update now r).Writes (.update now r) := by
  have replaced := writes_replace now r
  have dropped (e : Engine) : ItemOutcome.of ((update now r).on e).1 =
        ItemOutcome.of ((replace now r).on e).1 ∧
      ((update now r).on e).2.rules = ((replace now r).on e).2.rules := by
    rw [update, Operation.on_bind_eq]
    rcases (replace now r).on e with ⟨cause | stored, e'⟩ <;> exact ⟨rfl, rfl⟩
  exact ⟨fun e => (dropped e).1.trans (replaced.outcome e),
    fun e => (dropped e).2.trans (replaced.store e)⟩

/-! ## Several rules -/

/-- Handles several rules, each by an operation. -/
def batch (x : Rule → Operation Rule) (rules : List Rule) : Operation (List ItemResult) :=
  each (fun r => do let _ ← x r; return true) rules

/-- Handles rules one after the other, each at a time of its own. -/
def replay (op : Instant → Rule → Operation Rule) (inputs : List (Instant × Rule)) (e : Engine) :
    Engine :=
  inputs.foldl (fun e (now, r) => ((op now r).on e).2) e

/-- The rules that are reported as done. -/
def succeeded (rules : List Rule) (results : List ItemResult) : List Rule :=
  ((rules.zip results).filter fun x => x.2.outcome == .done).map Prod.fst

/-- Results of later rules do not count. -/
theorem succeeded_append {rules : List Rule} {results : List ItemResult}
    (each : results.length = rules.length) (later : List ItemResult) :
    succeeded rules (results ++ later) = succeeded rules results := by
  have zipped : rules.zip (results ++ later) = rules.zip results :=
    calc rules.zip (results ++ later)
        = (rules ++ []).zip (results ++ later) := by rw [List.append_nil]
      _ = rules.zip results ++ [].zip later := List.zip_append each.symm
      _ = rules.zip results := by rw [List.zip_nil_left, List.append_nil]
  rw [succeeded, zipped, succeeded]

/-- Rules that are handled one after the other, none of which overflows, with what is reported. -/
inductive Handled (x : Rule → Operation Rule) :
    List Rule → Engine → List ItemResult → Engine → Prop
  | nil {e : Engine} : Handled x [] e [] e
  | cons {r : Rule} {rest : List Rule} {e : Engine} {results : List ItemResult} {e' : Engine}
      (goesOn : ((x r).on e).1 ≠ .error .overflow)
      (later : Handled x rest ((x r).on e).2 results e') :
      Handled x (r :: rest) e (⟨r.id, .of ((x r).on e).1⟩ :: results) e'

section

variable {x : Rule → Operation Rule} {rules : List Rule} {e e' : Engine} {results : List ItemResult}

theorem batch_cons_eq (r : Rule) (rest : List Rule) (e : Engine) :
    (batch x (r :: rest)).on e =
      match (x r).on e with
      | (.error .overflow, e') => (.error .overflow, e')
      | (result, e') =>
          (((batch x rest).on e').1.map (⟨r.id, .of result⟩ :: ·), ((batch x rest).on e').2) := by
  have ended : Operation.on (do let _ ← x r; return true) e =
      (((x r).on e).1.map fun _ => true, ((x r).on e).2) := by
    rw [Operation.on_bind_eq]
    rcases (x r).on e with ⟨cause | stored, e'⟩ <;> rfl
  rw [batch, each_cons_eq, attempt_on, ended]
  rcases (x r).on e with ⟨cause | stored, e'⟩
  · cases cause <;> rfl
  · rfl

/-- Rules that are handled without an overflow are all reported. -/
theorem Handled.batch_on (handled : Handled x rules e results e') :
    (batch x rules).on e = (.ok results, e') := by
  induction handled with
  | nil => rfl
  | @cons r rest e results e' goesOn later ih =>
    rw [batch_cons_eq]
    split
    next overflowed => exact absurd (congrArg Prod.fst overflowed) goesOn
    next result after _ reached =>
      rw [reached] at ih ⊢
      rw [ih]
      rfl

/-- Several rules are handled up to the first one that overflows. -/
theorem handled_or_overflowed (x : Rule → Operation Rule) (rules : List Rule) (e : Engine) :
    (∃ results e', Handled x rules e results e') ∨
      ∃ earlier r later results e', rules = earlier ++ r :: later ∧
        Handled x earlier e results e' ∧ ((x r).on e').1 = .error .overflow ∧
        (batch x rules).on e = (.error .overflow, ((x r).on e').2) := by
  induction rules generalizing e with
  | nil => exact .inl ⟨[], e, .nil⟩
  | cons r rest ih =>
    by_cases overflowed : ((x r).on e).1 = .error .overflow
    · refine .inr ⟨[], r, rest, [], e, rfl, .nil, overflowed, ?_⟩
      rw [batch_cons_eq]
      revert overflowed
      rcases (x r).on e with ⟨result, after⟩
      rintro ⟨rfl⟩
      rfl
    · rcases ih ((x r).on e).2 with
        ⟨results, e', later⟩ | ⟨earlier, r', later, results, e', rfl, handled, last, ended⟩
      · exact .inl ⟨_, e', .cons overflowed later⟩
      · refine .inr ⟨r :: earlier, r', later, _, e', rfl, .cons overflowed handled, last, ?_⟩
        rw [batch_cons_eq]
        split
        next broken => exact absurd (congrArg Prod.fst broken) overflowed
        next result after _ reached =>
          rw [reached] at ended
          rw [ended]
          rfl

theorem Handled.ids (handled : Handled x rules e results e') :
    results.map ItemResult.id = rules.map Rule.id := by
  induction handled with
  | nil => rfl
  | cons goesOn later ih => rw [List.map_cons, List.map_cons, ih]

theorem Handled.length (handled : Handled x rules e results e') :
    results.length = rules.length := by
  simpa using congrArg List.length handled.ids

/-- What is handled first does not depend on what comes after it. -/
theorem Handled.split {earlier later : List Rule}
    (handled : Handled x (earlier ++ later) e results e') :
    ∃ first second between, results = first ++ second ∧ Handled x earlier e first between ∧
      Handled x later between second e' := by
  induction earlier generalizing e results with
  | nil => exact ⟨[], results, e, rfl, .nil, handled⟩
  | cons r rest ih =>
    cases handled with
    | cons goesOn handled =>
      obtain ⟨first, second, between, rfl, handledFirst, handledSecond⟩ := ih handled
      exact ⟨_, second, between, rfl, .cons goesOn handledFirst, handledSecond⟩

end

section

variable {x : Rule → Operation Rule} {op : Instant → Rule → Operation Rule}
  {w : Instant → Rule → Write Rule} {same : Store Rule → Store Rule → Prop}
  {rules : List Rule} {e e' : Engine} {results : List ItemResult}

/-- What several rules come to is what those come to that are reported as done, as long as the
    writes of these keep stores alike; the others leave theirs as it is. -/
theorem Handled.store (handled : Handled x rules e results e') (now : Instant)
    (own : ∀ r, (x r).Writes (w now r)) (alone : ∀ t r, (op t r).Writes (w t r))
    {start : Engine} (alike : same e.rules start.rules)
    (keeps : ∀ r ∈ succeeded rules results, ∀ {s s'}, same s s' → ∀ t,
      same (s.after (w now r)) (s'.after (w t r)))
    {inputs : List (Instant × Rule)} (given : inputs.map Prod.snd = succeeded rules results) :
    same e'.rules (replay op inputs start).rules := by
  induction handled generalizing start inputs with
  | nil =>
    obtain rfl := List.map_eq_nil_iff.mp given
    exact alike
  | @cons r rest e results e' goesOn later ih =>
    have outcome := (own r).outcome e
    have store := (own r).store e
    cases written : e.rules.write (w now r) with
    | error cause =>
      have failed : ItemOutcome.of ((x r).on e).1 = .failed cause := by rw [outcome, written]; rfl
      have left : ((x r).on e).2.rules = e.rules := by rw [store, Store.after, written]
      rw [failed] at given keeps
      exact ih (left ▸ alike) keeps given
    | ok s =>
      have done : ItemOutcome.of ((x r).on e).1 = .done := by rw [outcome, written]; rfl
      rw [done] at given keeps
      cases inputs with
      | nil => cases given
      | cons input inputs =>
        obtain ⟨t, r'⟩ := input
        obtain ⟨rfl, givenLater⟩ := List.cons.inj given
        have next : same ((x r').on e).2.rules ((op t r').on start).2.rules := by
          rw [store, (alone t r').store]
          exact keeps r' List.mem_cons_self alike t
        exact ih next (fun r member => keeps r (List.mem_cons_of_mem r' member)) givenLater

/-- What is reported of a rule is what becomes of it alone after those before it that are reported
    as done. -/
theorem Handled.outcome {earlier later : List Rule} {r : Rule}
    (handled : Handled x (earlier ++ r :: later) e results e') (now : Instant)
    (own : ∀ r, (x r).Writes (w now r)) (alone : ∀ t r, (op t r).Writes (w t r))
    (start : same e.rules e.rules)
    (keeps : ∀ r ∈ succeeded earlier results, ∀ {s s'}, same s s' → ∀ t,
      same (s.after (w now r)) (s'.after (w t r)))
    (alike : ∀ {s s'}, same s s' → ∀ t,
      ItemOutcome.of (s.write (w now r)) = ItemOutcome.of (s'.write (w t r)))
    {inputs : List (Instant × Rule)} (given : inputs.map Prod.snd = succeeded earlier results)
    (t : Instant) :
    results[earlier.length]? = some ⟨r.id, .of ((op t r).on (replay op inputs e)).1⟩ := by
  obtain ⟨first, second, between, rfl, before, after⟩ := handled.split
  rw [succeeded_append before.length] at given keeps
  have stores := before.store now own alone start keeps given
  rw [List.getElem?_append_right (Nat.le_of_eq before.length), before.length, Nat.sub_self]
  cases after with
  | cons goesOn later =>
    rw [List.getElem?_cons_zero, (own r).outcome, (alone t r).outcome, alike stores t]

end

end Engine

/-! ## Room for updates -/

namespace Repository

variable {α : Type} [Entity α]

/-- Whether there is room for the updates of several entities: the version of what is held, raised
    by the number of those of its id with which nothing is wrong, does not pass the last one. -/
def RoomFor (r : Repository α) (given : List α) : Prop :=
  ∀ id b, r.find? id = .ok (some b) →
    (Entity.version b).toNat +
      given.countP (fun a => Entity.id a == id && (Entity.issues a).isEmpty) < 2 ^ 64

theorem find?_update_other {r r' : Repository α} {now : Instant} {a stored : α} {id : String}
    (updated : r.update now a = .ok (stored, r')) (other : Entity.id a ≠ id) :
    r'.find? id = r.find? id := by
  obtain ⟨available, items, succeeded, rfl⟩ := update_eq_ok.mp updated
  obtain ⟨front, b, back, split, -, same, -, rfl, rfl⟩ := succeedItem_eq_ok.mp succeeded
  rw [find?, find?, reach, reach, if_pos available, if_pos available, split]
  simp [Except.map, List.find?_append, Entity.id_succeed, same, other]

variable {r r' : Repository α} {a : α} {rest : List α} {now : Instant}

theorem roomFor_cons_of_issues (wrong : Entity.issues a ≠ []) :
    r.RoomFor (a :: rest) ↔ r.RoomFor rest := by
  simp [RoomFor, wrong]

/-- An entity of an unknown id takes no room. -/
theorem roomFor_cons_of_unknown (unknown : ∀ b, r.find? (Entity.id a) ≠ .ok (some b)) :
    r.RoomFor (a :: rest) ↔ r.RoomFor rest := by
  refine forall_congr' fun id => forall_congr' fun b => forall_congr' fun found => ?_
  have other : Entity.id a ≠ id := by
    rintro rfl
    exact unknown b found
  simp [other]

/-- An update takes room for one. -/
theorem roomFor_cons_of_update {stored : α} (valid : Entity.issues a = [])
    (updated : r.update now a = .ok (stored, r')) :
    r.RoomFor (a :: rest) ↔ r'.RoomFor rest := by
  obtain ⟨-, b, -, -, -, found, found', next⟩ := exists_replaced updated
  have own : ∀ id, Entity.id a = id → (∀ c, r.find? id = .ok (some c) ↔ c = b) ∧
      ∀ c, r'.find? id = .ok (some c) ↔ c = stored := by
    rintro _ rfl
    rw [found, found']
    simp [eq_comm]
  refine forall_congr' fun id => ?_
  by_cases same : Entity.id a = id
  · obtain ⟨before, after⟩ := own id same
    simp only [before, after, forall_eq, List.countP_cons, same, valid, next]
    simp only [beq_self_eq_true, List.isEmpty_nil, Bool.and_self, if_true]
    omega
  · simp [find?_update_other updated same, same]

theorem not_roomFor_cons (valid : Entity.issues a = [])
    (overflowed : r.update now a = .error .overflow) : ¬ r.RoomFor (a :: rest) := by
  intro room
  obtain ⟨b, found, last⟩ := exists_last_of_overflow overflowed
  have fits := room _ b found
  rw [List.countP_cons_of_pos (by simp [valid])] at fits
  rw [Entity.hasSuccessor_iff] at last
  omega

end Repository

theorem Store.write_update_of_valid {s : Store Rule} {r : Rule} (valid : Entity.issues r = [])
    (now : Instant) :
    s.write (.update now r) =
      (s.repository.update now r).map fun x => ⟨x.2, s.snapshot.upsert x.1⟩ := by
  rw [← map_snd_update, Store.update, Entity.validate_eq_ok.mpr ⟨valid, rfl⟩]
  simp only [bind, Except.bind]
  cases s.repository.update now r <;> rfl

theorem Repository.create_ne_overflow {α : Type} [Entity α] (r : Repository α) (a : α) :
    r.create a ≠ .error .overflow := by
  rw [create, reach]
  cases r.available with
  | false => simp [bind, Except.bind]
  | true =>
    simp only [bind, Except.bind, if_true]
    split
    · simp [throw, throwThe, MonadExceptOf.throw]
    · simp [pure, Except.pure]

theorem Store.write_create_ne_overflow (s : Store Rule) (r : Rule) :
    s.write (.create r) ≠ .error .overflow := by
  rw [← map_snd_create, Store.create]
  by_cases valid : Entity.issues r = []
  · have created := s.repository.create_ne_overflow r
    rw [Entity.validate_eq_ok.mpr ⟨valid, rfl⟩]
    simp only [bind, Except.bind]
    revert created
    cases s.repository.create r <;> simp [Except.map, pure, Except.pure]
  · rw [Entity.validate, accept, if_neg (by simpa using valid)]
    simp [bind, Except.bind, Except.map]

/-- There is room for an update and others if it does not overflow and leaves room for them. -/
theorem Store.roomFor_cons (s : Store Rule) (now : Instant) (r : Rule) (rest : List Rule) :
    s.repository.RoomFor (r :: rest) ↔
      s.write (.update now r) ≠ .error .overflow ∧
        (s.after (.update now r)).repository.RoomFor rest := by
  by_cases valid : Entity.issues r = []
  · have written := s.write_update_of_valid valid now
    unfold after
    rw [written]
    cases updated : s.repository.update now r with
    | ok x =>
      rw [Repository.roomFor_cons_of_update valid updated]
      simp [Except.map]
    | error cause =>
      by_cases overflowed : cause = .overflow
      · subst overflowed
        simpa [Except.map] using Repository.not_roomFor_cons valid updated
      · have unknown : ∀ b, s.repository.find? (Entity.id r) ≠ .ok (some b) := by
          intro b found
          by_cases low : Entity.HasSuccessor b
          · obtain ⟨stored, r', done⟩ := Repository.exists_update found low now
            rw [updated] at done
            cases done
          · have broken : s.repository.update now r = .error .overflow :=
              (Repository.update_overflows_iff found).mpr low
            rw [updated] at broken
            exact overflowed (Except.error.inj broken)
        rw [Repository.roomFor_cons_of_unknown unknown]
        simp [Except.map, overflowed]
  · have refused : s.write (.update now r) = .error (.invalid (Entity.issues r)) := by
      rw [← map_snd_update, Store.update, Entity.validate, accept, if_neg (by simpa using valid)]
      rfl
    rw [Repository.roomFor_cons_of_issues valid, after, refused]
    simp

namespace Engine

/-- Creating a rule does not overflow. -/
theorem create_not_overflow (r : Rule) (e : Engine) : ((create r).on e).1 ≠ .error .overflow := by
  intro overflowed
  have outcome := (writes_create r).outcome e
  rw [overflowed] at outcome
  exact Store.write_create_ne_overflow e.rules r (ItemOutcome.of_eq_failed.mp outcome.symm)

theorem replace_on_error {now : Instant} {r : Rule} {e : Engine} {cause : Failure}
    (failed : ((replace now r).on e).1 = .error cause) :
    (replace now r).on e = (.error cause, e) := by
  cases done : e.rules.update now r with
  | ok after =>
    have ended : (replace now r).on e = _ := Operation.on_bind (change_on done)
    rw [ended] at failed
    cases failed
  | error cause' =>
    have ended : (replace now r).on e = (.error cause', e) :=
      Operation.on_bind_error (change_on_error done)
    rw [ended] at failed ⊢
    rw [show cause' = cause from Except.error.inj failed]

section

variable {now : Instant} {rules : List Rule} {e e' : Engine} {results : List ItemResult}

theorem overflow_iff_write {r : Rule} :
    ((replace now r).on e).1 = .error .overflow ↔
      e.rules.write (.update now r) = .error .overflow := by
  have outcome := (writes_replace now r).outcome e
  constructor <;> intro overflowed <;> rw [overflowed] at outcome
  · exact (ItemOutcome.of_eq_failed.mp outcome.symm)
  · exact ItemOutcome.of_eq_failed.mp outcome

/-- Rules that are updated without an overflow had room. -/
theorem Handled.roomFor (handled : Handled (replace now) rules e results e') :
    e.rules.repository.RoomFor rules := by
  induction handled with
  | nil =>
    intro id b found
    have bound := (Entity.version b).toNat_lt
    rwa [List.countP_nil]
  | cons goesOn later ih =>
    rw [(writes_replace now _).store] at ih
    exact (Store.roomFor_cons _ now _ _).mpr ⟨mt overflow_iff_write.mpr goesOn, ih⟩

theorem Handled.not_roomFor (handled : Handled (replace now) rules e results e') {r : Rule}
    (overflowed : ((replace now r).on e').1 = .error .overflow) (later : List Rule) :
    ¬ e.rules.repository.RoomFor (rules ++ r :: later) := by
  induction handled with
  | nil =>
    intro room
    exact ((Store.roomFor_cons _ now r later).mp room).1 (overflow_iff_write.mp overflowed)
  | cons goesOn handled ih =>
    intro room
    have rest := ((Store.roomFor_cons _ now _ _).mp room).2
    rw [← (writes_replace now _).store] at rest
    exact ih overflowed rest

end

end Engine

/-- Whether a result says what became of the rule of an id; where it failed, it has the text of the
    failure. -/
def ItemResult.Reports (result : ItemResult) (id : String) : Except Failure Rule → Prop
  | .ok _ =>
      result.outcome = .done ∧ result.toJson = .obj [("id", .str id), ("success", .bool true)]
  | .error cause =>
      result.outcome = .failed cause ∧
        result.toJson =
          .obj [("id", .str id), ("success", .bool false), ("error", .str cause.message)]

theorem ItemResult.reports_of (id : String) (x : Except Failure Rule) :
    Reports ⟨id, .of x⟩ id x := by
  cases x <;> exact ⟨rfl, rfl⟩

namespace Engine

/-- Whether several rules were handled as each is alone, up to stores that are the same. -/
structure HandledAlone (op : Instant → Rule → Operation Rule)
    (same : Store Rule → Store Rule → Prop) (rules : List Rule) (e : Engine)
    (results : List ItemResult) (e' : Engine) : Prop where
  ids : results.map ItemResult.id = rules.map Rule.id
  /-- Those that are reported as done come to the same as all. -/
  store : ∀ inputs : List (Instant × Rule), inputs.map Prod.snd = succeeded rules results →
    same e'.rules (replay op inputs e).rules
  /-- Each is reported as what becomes of it after those before it that are reported as done. -/
  reports : ∀ earlier r later, rules = earlier ++ r :: later →
    ∀ inputs : List (Instant × Rule), inputs.map Prod.snd = succeeded earlier results →
      ∀ now, ∃ result, results[earlier.length]? = some result ∧
        result.Reports r.id ((op now r).on (replay op inputs e)).1

theorem handledAlone_create {rules : List Rule} {e e' : Engine} {results : List ItemResult}
    (handled : Handled create rules e results e') :
    HandledAlone (fun _ r => create r) (· = ·) rules e results e' := by
  have kept {s s' : Store Rule} (r : Rule) (same : s = s') (_ : Instant) :
      s.after (.create r) = s'.after (.create r) := congrArg (Store.after · (.create r)) same
  refine ⟨handled.ids, fun inputs given => ?_, ?_⟩
  · exact handled.store .epoch writes_create (fun _ => writes_create) rfl
      (fun r _ _ _ => kept r) given
  · rintro earlier r later rfl inputs given t
    exact ⟨_, handled.outcome .epoch writes_create (fun _ => writes_create) rfl
      (fun r _ _ _ => kept r) (fun same _ => by rw [same]) given t, ItemResult.reports_of _ _⟩

theorem handledAlone_update {now : Instant} {rules : List Rule} {e e' : Engine}
    {results : List ItemResult} (handled : Handled (replace now) rules e results e') :
    HandledAlone update (Store.SameBut ((succeeded rules results).map Rule.id)) rules e results
      e' := by
  refine ⟨handled.ids, fun inputs given => ?_, ?_⟩
  · have start : e.rules.SameBut ((succeeded rules results).map Rule.id) e.rules := rfl
    exact handled.store now (writes_replace now) writes_update start
      (fun r member _ _ same t => same.after_update (List.mem_map_of_mem member) now t) given
  · rintro earlier r later rfl inputs given t
    have start : e.rules.SameBut ((succeeded earlier results).map Rule.id) e.rules := rfl
    exact ⟨_, handled.outcome now (writes_replace now) writes_update start
      (fun r member _ _ same t => same.after_update (List.mem_map_of_mem member) now t)
      (fun same t => same.outcome_update now t r) given t, ItemResult.reports_of _ _⟩

/-- Several rules that are created or updated at once are handled as if each were alone, after those
    before it that are reported as done.  The stores are the same in the end, but for the times at
    which rules that are reported as done were updated.  Updates need room: without it they are
    broken off at the first rule of which the version would overflow, and nothing is reported. -/
theorem batches_handled_alone (rules : List Rule) (now : Instant) (e : Engine) :
    (∃ results e', (batchCreate rules).on e = (.ok results, e') ∧
        HandledAlone (fun _ r => create r) (· = ·) rules e results e') ∧
      (e.rules.repository.RoomFor rules →
        ∃ results e', (batchUpdate now rules).on e = (.ok results, e') ∧
          HandledAlone update (Store.SameBut ((succeeded rules results).map Rule.id)) rules e
            results e') ∧
      (¬ e.rules.repository.RoomFor rules →
        ∃ earlier r later results e', rules = earlier ++ r :: later ∧
          e.rules.repository.RoomFor earlier ∧
          HandledAlone update (Store.SameBut ((succeeded earlier results).map Rule.id)) earlier e
            results e' ∧
          (update now r).on e' = (.error .overflow, e') ∧
          (batchUpdate now rules).on e = (.error .overflow, e')) := by
  refine ⟨?_, fun room => ?_, fun full => ?_⟩
  · rcases handled_or_overflowed create rules e with
      ⟨results, e', handled⟩ | ⟨earlier, r, later, results, e', -, -, overflowed, -⟩
    · exact ⟨results, e', handled.batch_on, handledAlone_create handled⟩
    · exact absurd overflowed (create_not_overflow r e')
  · rcases handled_or_overflowed (replace now) rules e with
      ⟨results, e', handled⟩ | ⟨earlier, r, later, results, e', rfl, handled, overflowed, -⟩
    · exact ⟨results, e', handled.batch_on, handledAlone_update handled⟩
    · exact absurd room (handled.not_roomFor overflowed later)
  · rcases handled_or_overflowed (replace now) rules e with
      ⟨results, e', handled⟩ | ⟨earlier, r, later, results, e', rfl, handled, overflowed, broken⟩
    · exact absurd handled.roomFor full
    · have stuck := replace_on_error overflowed
      rw [stuck] at broken
      refine ⟨earlier, r, later, results, e', rfl, handled.roomFor, handledAlone_update handled,
        ?_, broken⟩
      rw [update, Operation.on_bind_error stuck]

/-- One rule of the last version keeps another one from being updated with it. -/
theorem batch_update_overflows :
    let now : Instant := .epoch
    let rule (id name : String) (version : UInt64) : Rule :=
      { id := id, name := name, version := version, createdAt := now, updatedAt := now,
        conditions := [{ field := "path", operator := .equals, value := .text "/x" }],
        actions := [{ actionType := .block }] }
    let held := [rule "a" "old" 18446744073709551615, rule "b" "old" 1]
    let e : Engine := { rules := ⟨⟨held, true⟩, ⟨1, held⟩⟩ }
    let given := [rule "a" "new" 1, rule "b" "new" 1]
    (batchUpdate now given).on e = (.error .overflow, e) ∧
      ((update now (rule "b" "new" 1)).on e).1.isOk = true := by
  intro now rule held e given
  have valid : Entity.issues (rule "a" "new" 1) = [] := by decide +kernel
  have stuck : e.rules.update now (rule "a" "new" 1) = .error .overflow :=
    Store.update_eq_error valid
      ((Repository.update_overflows_iff (b := rule "a" "old" 18446744073709551615) rfl).mpr
        (by decide))
  have first : (replace now (rule "a" "new" 1)).on e = (.error .overflow, e) :=
    Operation.on_bind_error (change_on_error stuck)
  refine ⟨?_, by decide +kernel⟩
  change (batch (replace now) given).on e = _
  rw [batch_cons_eq, first]

end Engine

end Verdict
