import Verdict.Dispatch.Plan
import Verdict.Proofs.Bundle.Integrity

/-!
# What the keys of events tell apart

The key of an event is the digest of three texts with colons between them.  The type of an action
has no colon, but the names of requests and rules may have some, so that a part of the one can be
taken for a part of the other (`Origin.Shifts`).  Up to this, and up to collisions of the digest, a
key tells what the event is of (`Event.key_separates_iff`).
-/

namespace Verdict

/-! ## Texts with a separator -/

section

variable {α : Type} {sep : α} {left left' right right' : List α}

/-- Two texts with a separator in each are the same if their parts are, or if a separator inside of
    a part is taken for the one between the parts. -/
theorem separated_eq_iff :
    left ++ sep :: right = left' ++ sep :: right' ↔
      (left = left' ∧ right = right') ∨
        (∃ middle, left' = left ++ sep :: middle ∧ right = middle ++ sep :: right') ∨
        ∃ middle, left = left' ++ sep :: middle ∧ right' = middle ++ sep :: right := by
  constructor
  · intro same
    rcases List.append_eq_append_iff.mp same with ⟨rest, longer, split⟩ | ⟨rest, longer, split⟩
    · cases rest with
      | nil =>
        rw [List.append_nil] at longer
        exact .inl ⟨longer.symm, (List.cons.inj split).2⟩
      | cons c middle =>
        obtain ⟨rfl, rest⟩ := List.cons.inj split
        exact .inr (.inl ⟨middle, longer, rest⟩)
    · cases rest with
      | nil =>
        rw [List.append_nil] at longer
        exact .inl ⟨longer, (List.cons.inj split).2.symm⟩
      | cons c middle =>
        obtain ⟨rfl, rest⟩ := List.cons.inj split
        exact .inr (.inr ⟨middle, longer, rest⟩)
  · rintro (⟨rfl, rfl⟩ | ⟨middle, rfl, rfl⟩ | ⟨middle, rfl, rfl⟩)
    · rfl
    · simp
    · simp

/-- A separator that is in neither of the last parts is the one between the parts. -/
theorem separated_eq_iff_of_not_mem (absent : sep ∉ right) (absent' : sep ∉ right') :
    left ++ sep :: right = left' ++ sep :: right' ↔ left = left' ∧ right = right' := by
  rw [separated_eq_iff]
  refine ⟨?_, .inl⟩
  rintro (same | ⟨middle, -, rfl⟩ | ⟨middle, -, rfl⟩)
  · exact same
  · exact absurd (by simp) absent
  · exact absurd (by simp) absent'

end

/-! ## Origins -/

/-- What an event is of: an action of a rule on a request. -/
structure Origin where
  requestId : String
  ruleId : String
  action : ActionType
  deriving Repr, DecidableEq

namespace Origin

/-- The text that the key of an event is the digest of. -/
def text (o : Origin) : String :=
  Event.keyText o.requestId o.ruleId (Named.name o.action)

/-- Whether the first part of a rule, up to a colon, is counted to the request instead. -/
def Shifts (o o' : Origin) : Prop :=
  o.action = o'.action ∧
    ∃ part, o'.requestId = o.requestId ++ ":" ++ part ∧ o.ruleId = part ++ ":" ++ o'.ruleId

variable {o o' : Origin}

theorem colon_not_mem_name (t : ActionType) : ':' ∉ (Named.name t).toList := by
  cases t <;> decide

theorem toList_text (o : Origin) :
    o.text.toList =
      (o.requestId.toList ++ ':' :: o.ruleId.toList) ++ ':' :: (Named.name o.action).toList := by
  have joined : o.text = o.requestId ++ ":" ++ o.ruleId ++ ":" ++ Named.name o.action := rfl
  simp [joined]

theorem shifts_iff :
    o.Shifts o' ↔ o.action = o'.action ∧ ∃ part : List Char,
      o'.requestId.toList = o.requestId.toList ++ ':' :: part ∧
        o.ruleId.toList = part ++ ':' :: o'.ruleId.toList := by
  refine and_congr_right fun _ => ?_
  constructor
  · rintro ⟨part, request, rule⟩
    exact ⟨part.toList, by simp [request], by simp [rule]⟩
  · rintro ⟨part, request, rule⟩
    refine ⟨String.ofList part, String.toList_inj.mp ?_, String.toList_inj.mp ?_⟩
    · simp [request]
    · simp [rule]

theorem eq_iff : o = o' ↔
    o.action = o'.action ∧ o.requestId = o'.requestId ∧ o.ruleId = o'.ruleId := by
  constructor
  · rintro rfl
    exact ⟨rfl, rfl, rfl⟩
  · rintro ⟨action, request, rule⟩
    cases o
    cases o'
    simp_all

/-- The texts of two origins are the same exactly if the origins are, or if a part of the rule of
    one is counted to the request of the other. -/
theorem text_eq_iff : o.text = o'.text ↔ o = o' ∨ o.Shifts o' ∨ o'.Shifts o := by
  have named : (Named.name o.action).toList = (Named.name o'.action).toList ↔
      o.action = o'.action := by
    rw [String.toList_inj]
    exact ⟨Named.name_injective, congrArg _⟩
  rw [← String.toList_inj, toList_text, toList_text,
    separated_eq_iff_of_not_mem (colon_not_mem_name _) (colon_not_mem_name _), separated_eq_iff,
    shifts_iff, shifts_iff, eq_iff, String.toList_inj, String.toList_inj, named,
    eq_comm (a := o'.action), ← and_or_left, ← and_or_left, and_comm]

/-- Only where there are colons can a part of a rule be counted to a request. -/
theorem Shifts.colons (shifts : o.Shifts o') :
    ':' ∈ o'.requestId.toList ∧ ':' ∈ o.ruleId.toList := by
  obtain ⟨-, part, request, rule⟩ := shifts_iff.mp shifts
  simp [request, rule]

end Origin

/-- What an event is of. -/
def Event.origin (e : Event) : Origin where
  requestId := e.requestId
  ruleId := e.ruleId
  action := e.payload.actionType

/-- The key of an event is the digest of the text of its origin. -/
theorem Event.key_new (id : String) (d : Decision) (rule : MatchedRule) (ctx : Context)
    (p : Payload) : (new id d rule ctx p).key = Digest.ofText (new id d rule ctx p).origin.text :=
  rfl

/-- Two texts have one digest if they are the same or if the digest has a collision there. -/
theorem Digest.ofText_eq_iff {s s' : String} :
    ofText s = ofText s' ↔ s = s' ∨ Collision s.toUTF8.data.toList s'.toUTF8.data.toList := by
  constructor
  · intro same
    by_cases texts : s = s'
    · exact .inl texts
    · exact .inr (collision_of_ofText texts same)
  · rintro (rfl | ⟨-, same⟩)
    · rfl
    · exact same

/-- The text behind the key of an event tells its origin, except for parts of rules that are counted
    to requests, which takes a colon both in a request and in a rule.  Otherwise events of different
    origins have one key only where the digest has a collision. -/
theorem Event.key_separates_iff (o o' : Origin) :
    (o.text = o'.text ↔ o = o' ∨ o.Shifts o' ∨ o'.Shifts o) ∧
      (o.Shifts o' → ':' ∈ o'.requestId.toList ∧ ':' ∈ o.ruleId.toList) ∧
      ∀ (id id' : String) (d d' : Decision) (rule rule' : MatchedRule) (ctx ctx' : Context)
        (p p' : Payload),
        let e := new id d rule ctx p
        let e' := new id' d' rule' ctx' p'
        e.origin = o → e'.origin = o' →
          (e.key = e'.key ↔ (o = o' ∨ o.Shifts o' ∨ o'.Shifts o) ∨
            Digest.Collision o.text.toUTF8.data.toList o'.text.toUTF8.data.toList) := by
  refine ⟨Origin.text_eq_iff, Origin.Shifts.colons, ?_⟩
  rintro id id' d d' rule rule' ctx ctx' p p' e e' rfl rfl
  rw [key_new, key_new, ← Origin.text_eq_iff, Digest.ofText_eq_iff]

/-- The rule `b:c` on the request `a` and the rule `c` on the request `a:b` have one key. -/
theorem Event.shifted_origins_share_key :
    (⟨"a", "b:c", .block⟩ : Origin) ≠ ⟨"a:b", "c", .block⟩ ∧
      Origin.text ⟨"a", "b:c", .block⟩ = Origin.text ⟨"a:b", "c", .block⟩ := by
  decide

end Verdict
