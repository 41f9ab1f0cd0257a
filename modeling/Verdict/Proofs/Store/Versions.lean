import Verdict.Proofs.Store.Behind

/-!
# The versions that updates store

A repository stores an update as the successor of what it replaces.  The last version of 64 bits has
none: an update of an entity of that version is broken off, and any other one raises the version by
one (`Repository.update_rises_or_overflows`).  Such an entity may come in as it is, or be reached by
updates: in a run no version is higher than the highest that came in by more than the number of
updates (`Repository.version_run_le`).
-/

namespace Verdict

variable {α : Type} [Entity α]

namespace Repository

/-! ## Runs -/

/-- What any client may ask of a repository, or is done to it. -/
inductive Call (α : Type) where
  | create (a : α)
  | update (now : Instant) (a : α)
  | delete (id : String)
  /-- The repository becomes available or unavailable. -/
  | switch (available : Bool)

namespace Call

/-- The entities that come in with their own version. -/
def created : Call α → List α
  | .create a => [a]
  | .update _ _ | .delete _ | .switch _ => []

def isUpdate : Call α → Bool
  | .update _ _ => true
  | .create _ | .delete _ | .switch _ => false

end Call

/-- What a call that does not fail makes of a repository. -/
def answer (r : Repository α) : Call α → Except Failure (Repository α)
  | .create a => r.create a
  | .update now a => (r.update now a).map Prod.snd
  | .delete id => r.delete id
  | .switch available => .ok { r with available := available }

/-- Takes a call; one that fails leaves the repository as it was. -/
def take (r : Repository α) (call : Call α) : Repository α :=
  match r.answer call with
  | .ok r' => r'
  | .error _ => r

/-- Takes calls one after the other. -/
def run (r : Repository α) (calls : List (Call α)) : Repository α :=
  calls.foldl take r

/-! ## What a run reaches -/

/-- Whether no entity has a version above a bound. -/
def UpTo (bound : Nat) (items : List α) : Prop :=
  ∀ a ∈ items, (Entity.version a).toNat ≤ bound

instance (bound : Nat) (items : List α) : Decidable (UpTo bound items) :=
  inferInstanceAs (Decidable (∀ a ∈ items, _))

section

variable {r r' : Repository α} {bound : Nat} {a b stored : α} {now : Instant}

theorem find?_of_first {front back : List α} {c : α} {id : String} (available : r.available = true)
    (items : r.items = front ++ c :: back) (first : ∀ b ∈ front, Entity.id b ≠ id)
    (same : Entity.id c = id) : r.find? id = .ok (some c) := by
  rw [find?, reach, if_pos available, items, Except.map, List.find?_append,
    List.find?_eq_none.mpr (by simpa using first), Option.none_or]
  exact congrArg Except.ok (List.find?_cons_of_pos (beq_iff_eq.mpr same))

theorem exists_first (found : r.find? (Entity.id a) = .ok (some b)) :
    r.available = true ∧ ∃ front back, r.items = front ++ b :: back ∧
      (∀ c ∈ front, Entity.id c ≠ Entity.id a) ∧ Entity.id b = Entity.id a := by
  rw [find?, reach] at found
  cases available : r.available with
  | false =>
    rw [available] at found
    cases found
  | true =>
    rw [available] at found
    obtain ⟨same, front, back, items, first⟩ :=
      List.find?_eq_some_iff_append.mp (Except.ok.inj found)
    exact ⟨rfl, front, back, items, by simpa using first, beq_iff_eq.mp same⟩

/-- An update puts the successor of the first entity of the id in its place. -/
theorem exists_replaced (updated : r.update now a = .ok (stored, r')) :
    ∃ front b back, r.items = front ++ b :: back ∧ r'.items = front ++ stored :: back ∧
      r.find? (Entity.id a) = .ok (some b) ∧ r'.find? (Entity.id a) = .ok (some stored) ∧
      (Entity.version stored).toNat = (Entity.version b).toNat + 1 := by
  obtain ⟨available, items, succeeded, rfl⟩ := update_eq_ok.mp updated
  obtain ⟨front, b, back, split, first, same, low, rfl, rfl⟩ := succeedItem_eq_ok.mp succeeded
  refine ⟨front, b, back, split, rfl, find?_of_first available split first same,
    find?_of_first available rfl first (Entity.id_succeed ..), ?_⟩
  rw [Entity.version_succeed, low.toNat_successor]

/-- An update is broken off exactly if what it is to replace has no successor. -/
theorem update_overflows_iff (found : r.find? (Entity.id a) = .ok (some b)) :
    r.update now a = .error .overflow ↔ ¬ Entity.HasSuccessor b := by
  obtain ⟨available, front, back, items, first, same⟩ := exists_first found
  rw [update_eq available, items, succeedItem_of_first first same, Entity.succeeding]
  by_cases low : Entity.HasSuccessor b
  · simp [low, Except.map]
  · simp [low, Except.map]

/-- Only what is there overflows. -/
theorem exists_last_of_overflow (overflowed : r.update now a = .error .overflow) :
    ∃ b, r.find? (Entity.id a) = .ok (some b) ∧ ¬ Entity.HasSuccessor b := by
  cases available : r.available with
  | false =>
    rw [update, reach, available] at overflowed
    cases overflowed
  | true =>
    rcases fresh_or_first r.items (Entity.id a) with fresh | ⟨front, b, back, items, first, same⟩
    · rw [update_eq available, succeedItem_of_fresh fresh] at overflowed
      cases overflowed
    · have found := find?_of_first available items first same
      exact ⟨b, found, (update_overflows_iff found).mp overflowed⟩

/-- Otherwise an update of what is there succeeds. -/
theorem exists_update (found : r.find? (Entity.id a) = .ok (some b))
    (low : Entity.HasSuccessor b) (now : Instant) :
    ∃ stored r', r.update now a = .ok (stored, r') := by
  obtain ⟨available, front, back, items, first, same⟩ := exists_first found
  exact ⟨_, _, update_eq_ok.mpr ⟨available, _,
    succeedItem_eq_ok.mpr ⟨front, b, back, items, first, same, low, rfl, rfl⟩, rfl⟩⟩

theorem take_eq_or (r : Repository α) (call : Call α) :
    r.take call = r ∨ r.answer call = .ok (r.take call) := by
  unfold take
  cases r.answer call with
  | ok r' => exact .inr rfl
  | error cause => exact .inl rfl

/-- What a call leaves was there, or comes in with the call, or succeeds what was there in an
    update. -/
theorem mem_take {call : Call α} (member : a ∈ (r.take call).items) :
    a ∈ r.items ∨ a ∈ call.created ∨
      call.isUpdate = true ∧
        ∃ b ∈ r.items, (Entity.version a).toNat = (Entity.version b).toNat + 1 := by
  rcases take_eq_or r call with same | answered
  · exact .inl (same ▸ member)
  generalize r.take call = r' at member answered
  cases call with
  | create c =>
    obtain ⟨-, -, rfl⟩ := create_eq_ok.mp answered
    exact (List.mem_append.mp member).imp_right .inl
  | update now c =>
    obtain ⟨⟨stored, _⟩, updated, rfl⟩ := map_eq_ok.mp answered
    obtain ⟨front, b, back, items, items', -, -, next⟩ := exists_replaced updated
    rw [items'] at member
    rw [items]
    simp only [List.mem_append, List.mem_cons] at member ⊢
    rcases member with earlier | rfl | later
    · exact .inl (.inl earlier)
    · exact .inr (.inr ⟨rfl, b, .inr (.inl rfl), next⟩)
    · exact .inl (.inr (.inr later))
  | delete id =>
    obtain ⟨-, -, rfl⟩ := delete_eq_ok.mp answered
    exact .inl (List.mem_of_mem_filter member)
  | switch available =>
    cases answered
    exact .inl member

/-- An update raises the highest version by one at most, and no other call does. -/
theorem UpTo.take {call : Call α} (upTo : UpTo bound r.items) (created : UpTo bound call.created) :
    UpTo (bound + if call.isUpdate then 1 else 0) (r.take call).items := by
  intro a member
  rcases mem_take member with there | new | ⟨isUpdate, b, there, next⟩
  · exact Nat.le_add_right_of_le (upTo a there)
  · exact Nat.le_add_right_of_le (created a new)
  · rw [next, if_pos isUpdate]
    exact Nat.succ_le_succ (upTo b there)

/-- In a run no version is higher than the highest that came in by more than the number of
    updates. -/
theorem version_run_le {calls : List (Call α)} (upTo : UpTo bound r.items)
    (created : UpTo bound (calls.flatMap Call.created)) :
    UpTo (bound + calls.countP Call.isUpdate) (r.run calls).items := by
  induction calls generalizing r bound with
  | nil => exact upTo
  | cons call rest ih =>
    rw [List.flatMap_cons] at created
    obtain ⟨now, later⟩ := List.forall_mem_append.mp created
    rw [List.countP_cons, Nat.add_comm (rest.countP _), ← Nat.add_assoc]
    exact ih (upTo.take now) fun a member => Nat.le_add_right_of_le (later a member)

end

/-! ## Updates in a run -/

/-- After any calls, an update that succeeds stores the version after the one that it replaces.  An
    update of an entity that is there succeeds if its version has a successor; otherwise it is
    broken off, and leaves the repository as it was.  That does not happen while the versions that
    came in, raised by the number of updates, stay below the last one. -/
theorem update_rises_or_overflows (r : Repository α) (calls : List (Call α)) (now : Instant)
    (a : α) :
    let held := r.run calls
    (∀ stored r', held.update now a = .ok (stored, r') →
        ∃ b, held.find? (Entity.id a) = .ok (some b) ∧
          r'.find? (Entity.id a) = .ok (some stored) ∧
          (Entity.version stored).toNat = (Entity.version b).toNat + 1 ∧
          Entity.version b < Entity.version stored) ∧
      (∀ b, held.find? (Entity.id a) = .ok (some b) →
        ((∃ stored r', held.update now a = .ok (stored, r')) ↔ Entity.HasSuccessor b) ∧
          (held.update now a = .error .overflow ↔ ¬ Entity.HasSuccessor b)) ∧
      (held.update now a = .error .overflow → r.run (calls ++ [.update now a]) = held) ∧
      ∀ bound, UpTo bound r.items → UpTo bound (calls.flatMap Call.created) →
        bound + calls.countP Call.isUpdate < 2 ^ 64 - 1 → held.update now a ≠ .error .overflow := by
  intro held
  refine ⟨fun stored r' updated => ?_, fun b found => ⟨⟨?_, ?_⟩, update_overflows_iff found⟩,
    ?_, ?_⟩
  · obtain ⟨front, b, back, -, -, found, found', next⟩ := exists_replaced updated
    refine ⟨b, found, found', next, ?_⟩
    rw [UInt64.lt_iff_toNat_lt, next]
    exact Nat.lt_succ_self _
  · rintro ⟨stored, r', updated⟩
    refine Decidable.not_not.mp fun last => ?_
    rw [(update_overflows_iff found).mpr last] at updated
    cases updated
  · exact fun low => exists_update found low now
  · intro overflowed
    rw [run, List.foldl_append, List.foldl_cons, List.foldl_nil]
    change held.take (.update now a) = held
    rw [take, answer, overflowed]
    rfl
  · intro bound upTo created low overflowed
    obtain ⟨b, found, last⟩ := exists_last_of_overflow overflowed
    obtain ⟨-, front, back, items, -, -⟩ := exists_first found
    have reached := version_run_le upTo created b (by simp [held, items])
    rw [Entity.hasSuccessor_iff] at last
    omega

/-- The last version is reached from the one before it, and no further. -/
theorem update_rises_or_overflows_to_last :
    let now : Instant := .epoch
    let rule (id : String) (version : UInt64) : Rule :=
      { id := id, name := id, version := version, createdAt := now, updatedAt := now }
    let r : Repository Rule := ⟨[rule "a" 18446744073709551613], true⟩
    let calls := [.create (rule "b" 7), .update now (rule "a" 1), .switch false, .delete "a",
      .switch true]
    let held := r.run calls
    held.update now (rule "a" 1) ≠ .error .overflow ∧
      held.find? "a" = .ok (some (rule "a" 18446744073709551614)) ∧
      (∃ stored r', held.update now (rule "a" 1) = .ok (stored, r')) ∧
      (r.run (calls ++ [.update now (rule "a" 1)])).update now (rule "a" 1) = .error .overflow := by
  intro now rule r calls held
  have found : held.find? "a" = .ok (some (rule "a" 18446744073709551614)) := rfl
  have upTo : UpTo 18446744073709551613 r.items := by decide +kernel
  have created : UpTo 18446744073709551613 (calls.flatMap Call.created) := by decide +kernel
  obtain ⟨-, known, -, fits⟩ := update_rises_or_overflows r calls now (rule "a" 1)
  obtain ⟨-, known', -⟩ :=
    update_rises_or_overflows r (calls ++ [.update now (rule "a" 1)]) now (rule "a" 1)
  have last : (r.run (calls ++ [.update now (rule "a" 1)])).find? "a" =
      .ok (some (rule "a" 18446744073709551615)) := rfl
  exact ⟨fits _ upTo created (by decide), found, (known _ found).1.mpr (by decide),
    (known' _ last).2.mpr (by decide)⟩

/-- A rule of the last version cannot be updated. -/
theorem update_of_last_version :
    let now : Instant := .epoch
    let rule (name : String) (version : UInt64) : Rule :=
      { id := "a", name := name, version := version, createdAt := now, updatedAt := now,
        conditions := [{ field := "path", operator := .equals, value := .text "/x" }],
        actions := [{ actionType := .block }] }
    let old := rule "old" 18446744073709551615
    let s : Store Rule := ⟨⟨[old], true⟩, ⟨1, [old]⟩⟩
    Entity.issues (rule "new" 1) = [] ∧ s.repository.find? "a" = .ok (some old) ∧
      s.repository.update now (rule "new" 1) = .error .overflow ∧
      s.update now (rule "new" 1) = .error .overflow := by
  intro now rule old s
  have valid : Entity.issues (rule "new" 1) = [] := by decide +kernel
  have stuck : s.repository.update now (rule "new" 1) = .error .overflow :=
    (update_overflows_iff (b := old) rfl).mpr (by decide)
  exact ⟨valid, rfl, stuck, Store.update_eq_error valid stuck⟩

end Repository

end Verdict
