import Verdict.Engine.Management

/-!
# Operations on engines

What the management of an engine does, said once for the kinds of entities: an operation that
succeeds passes its result and the engine on (`on_bind`), one that fails ends there
(`on_bind_error`), reading leaves the engine alone (`read_on`), a change replaces one store
(`change_on`), and several entities are handled one after the other, unless one overflows
(`each_cons`).
-/

namespace Verdict

/-- What becomes of an operation on an engine, and the engine after it. -/
def Operation.on {β : Type} (op : Operation β) (e : Engine) : Except Failure β × Engine :=
  op.run.run e

/-- Stores and notes are apart, and so is each store from the rest of the engine. -/
class LawfulManaged (α : Type) [Managed α] : Prop where
  store_withStore : ∀ (s : Store α) (e : Engine), Managed.store (Managed.withStore s e) = s
  withStore_store : ∀ e : Engine, Managed.withStore (Managed.store e : Store α) e = e
  withStore_withStore : ∀ (s s' : Store α) (e : Engine),
    Managed.withStore s (Managed.withStore s' e) = Managed.withStore s e
  store_note : ∀ (n : Note) (e : Engine), (Managed.store (e.note n) : Store α) = Managed.store e
  withStore_note : ∀ (s : Store α) (n : Note) (e : Engine),
    Managed.withStore s (e.note n) = (Managed.withStore s e).note n

instance : LawfulManaged Rule :=
  ⟨fun _ _ => rfl, fun _ => rfl, fun _ _ _ => rfl, fun _ _ => rfl, fun _ _ _ => rfl⟩

instance : LawfulManaged ScoringRule :=
  ⟨fun _ _ => rfl, fun _ => rfl, fun _ _ _ => rfl, fun _ _ => rfl, fun _ _ _ => rfl⟩

instance : LawfulManaged Profile :=
  ⟨fun _ _ => rfl, fun _ => rfl, fun _ _ _ => rfl, fun _ _ => rfl, fun _ _ _ => rfl⟩

/-- Adds notes to the audit. -/
def Engine.noteAll (notes : List Note) (e : Engine) : Engine :=
  { e with audit := e.audit ++ notes }

theorem Engine.noteAll_nil (e : Engine) : e.noteAll [] = e := by
  simp [noteAll]

theorem Engine.noteAll_note (n : Note) (notes : List Note) (e : Engine) :
    (e.note n).noteAll notes = e.noteAll (n :: notes) := by
  simp [noteAll, note]

section

variable {α : Type} [Managed α] [LawfulManaged α]

theorem Engine.store_noteAll (notes : List Note) (e : Engine) :
    (Managed.store (e.noteAll notes) : Store α) = Managed.store e := by
  induction notes generalizing e with
  | nil => rw [noteAll_nil]
  | cons n rest ih => rw [← noteAll_note, ih, LawfulManaged.store_note]

theorem Engine.withStore_noteAll (s : Store α) (notes : List Note) (e : Engine) :
    Managed.withStore s (e.noteAll notes) = (Managed.withStore s e).noteAll notes := by
  induction notes generalizing e with
  | nil => rw [noteAll_nil, noteAll_nil]
  | cons n rest ih => rw [← noteAll_note, ih, LawfulManaged.withStore_note, noteAll_note]

end

theorem Engine.noteAll_noteAll (notes more : List Note) (e : Engine) :
    (e.noteAll notes).noteAll more = e.noteAll (notes ++ more) := by
  simp [noteAll, List.append_assoc]

namespace Operation

variable {β γ : Type}

theorem on_bind_eq (x : Operation β) (f : β → Operation γ) (e : Engine) :
    Operation.on (x >>= f) e =
      match x.on e with
      | (.ok b, e') => (f b).on e'
      | (.error cause, e') => (.error cause, e') := by
  simp only [Operation.on, ExceptT.run_bind, StateT.run_bind]
  cases x.run.run e with
  | mk result after => cases result <;> rfl

theorem on_bind {x : Operation β} {f : β → Operation γ} {e e' : Engine} {b : β}
    (first : x.on e = (.ok b, e')) : Operation.on (x >>= f) e = (f b).on e' := by
  rw [on_bind_eq, first]

/-- What comes after a failure is not done. -/
theorem on_bind_error {x : Operation β} {f : β → Operation γ} {e e' : Engine} {cause : Failure}
    (first : x.on e = (.error cause, e')) : Operation.on (x >>= f) e = (.error cause, e') := by
  rw [on_bind_eq, first]

/-- What is done about a failure begins where the failure left the engine. -/
theorem on_tryCatch (x : Operation β) (handle : Failure → Operation β) (e : Engine) :
    Operation.on (tryCatch x handle) e =
      match x.on e with
      | (.ok b, e') => (.ok b, e')
      | (.error cause, e') => (handle cause).on e' := by
  simp only [Operation.on, tryCatch, tryCatchThe, MonadExceptOf.tryCatch, ExceptT.tryCatch,
    ExceptT.run_mk, StateT.run_bind]
  have same : StateT.run x e = x.run.run e := rfl
  rw [same]
  cases x.run.run e with
  | mk result after => cases result <;> rfl

theorem on_get (f : Engine → Operation β) (e : Engine) :
    Operation.on (get >>= f) e = (f e).on e := rfl

theorem on_ofExcept {x : Except Failure β} {b : β} (result : x = .ok b) (e : Engine) :
    Operation.on (ofExcept x) e = (.ok b, e) := by
  rw [result]
  rfl

theorem on_ofExcept_error {x : Except Failure β} {cause : Failure} (result : x = .error cause)
    (e : Engine) : Operation.on (ofExcept x) e = (.error cause, e) := by
  rw [result]
  rfl

end Operation

namespace Engine

variable {α β : Type} [Managed α]

/-- Reading leaves the engine as it is. -/
theorem read_on {f : Store α → Except Failure β} {e : Engine} {b : β}
    (result : f (Managed.store e) = .ok b) : (read f).on e = (.ok b, e) :=
  Operation.on_ofExcept result e

/-- A change replaces the store of its kind. -/
theorem change_on {f : Store α → Except Failure (β × Store α)} {e : Engine} {b : β} {s : Store α}
    (result : f (Managed.store e) = .ok (b, s)) :
    (change f).on e = (.ok b, Managed.withStore s e) := by
  rw [change, Operation.on_get, Operation.on_bind (Operation.on_ofExcept result e)]
  rfl

/-- A change that fails leaves the engine as it is. -/
theorem change_on_error {f : Store α → Except Failure (β × Store α)} {e : Engine} {cause : Failure}
    (result : f (Managed.store e) = .error cause) : (change f).on e = (.error cause, e) := by
  rw [change, Operation.on_get, Operation.on_bind_error (Operation.on_ofExcept_error result e)]

/-- An attempt has a result, unless it overflows. -/
theorem attempt_on (id : String) (step : Operation Bool) (e : Engine) :
    (attempt id step).on e =
      match step.on e with
      | (.error .overflow, e') => (.error .overflow, e')
      | (result, e') => (.ok (.ofPut id result), e') := by
  rw [attempt, Operation.on_tryCatch, Operation.on_bind_eq]
  cases step.on e with
  | mk result e' =>
    cases result with
    | ok done => rfl
    | error cause => cases cause <;> rfl

/-- Several entities are handled one after the other, whatever became of those before; an overflow
    breaks them off. -/
theorem each_cons_eq {α : Type} [Entity α] (step : α → Operation Bool) (a : α) (rest : List α)
    (e : Engine) :
    (each step (a :: rest)).on e =
      match (attempt (Entity.id a) (step a)).on e with
      | (.ok result, e') =>
          (((each step rest).on e').1.map (result :: ·), ((each step rest).on e').2)
      | (.error cause, e') => (.error cause, e') := by
  have later (result : ItemResult) (e' : Engine) :
      Operation.on (do let results ← each step rest; return result :: results) e' =
        (((each step rest).on e').1.map (result :: ·), ((each step rest).on e').2) := by
    rw [Operation.on_bind_eq]
    rcases (each step rest).on e' with ⟨cause | results, after⟩ <;> rfl
  rw [each, List.mapM_cons, Operation.on_bind_eq]
  rcases (attempt (Entity.id a) (step a)).on e with ⟨cause | result, e'⟩
  · rfl
  · exact later result e'

theorem each_cons {α : Type} [Entity α] {step : α → Operation Bool} {a : α} {rest : List α}
    {e e' : Engine} {result : Except Failure Bool} (goesOn : result ≠ .error .overflow)
    (first : (step a).on e = (result, e')) :
    (each step (a :: rest)).on e =
      (((each step rest).on e').1.map (.ofPut (Entity.id a) result :: ·),
        ((each step rest).on e').2) := by
  have attempted :
      (attempt (Entity.id a) (step a)).on e = (.ok (.ofPut (Entity.id a) result), e') := by
    rw [attempt_on, first]
    split <;> rename_i equal <;> cases equal
    · exact absurd rfl goesOn
    · rfl
  rw [each_cons_eq, attempted]

end Engine

end Verdict
