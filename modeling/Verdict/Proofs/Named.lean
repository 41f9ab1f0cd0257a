import Verdict.Bundle

/-!
# Names are read back

Every value that is written by its name is read back under that name, so that different values
have different names.
-/

namespace Verdict

/-- Types whose values are what their names are read as. -/
class LawfulNamed (α : Type) [Named α] : Prop where
  ofName?_name : ∀ a : α, Named.ofName? (Named.name a) = some a

namespace Named

variable {α : Type} [Named α] [LawfulNamed α]

theorem name_injective {a b : α} (same : name a = name b) : a = b := by
  have found := LawfulNamed.ofName?_name a
  rw [same, LawfulNamed.ofName?_name b, Option.some.injEq] at found
  exact found.symm

/-- A value is read back from its JSON form. -/
theorem ofDatum?_toJson (a : α) : ofDatum? (.json (toJson a)) = some a :=
  LawfulNamed.ofName?_name a

end Named

instance : LawfulNamed Operator := ⟨fun a => by cases a <;> rfl⟩

instance : LawfulNamed Connective := ⟨fun a => by cases a <;> rfl⟩

instance : LawfulNamed ValueType := ⟨fun a => by cases a <;> rfl⟩

instance : LawfulNamed ActionType := ⟨fun a => by cases a <;> rfl⟩

instance : LawfulNamed Status := ⟨fun a => by cases a <;> rfl⟩

instance : LawfulNamed AdjustmentType := ⟨fun a => by cases a <;> rfl⟩

instance : LawfulNamed RiskLevel := ⟨fun a => by cases a <;> rfl⟩

end Verdict
