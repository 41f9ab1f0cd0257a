import Verdict.Number.Binary

/-!
# The order of floats

Every float but not-a-number has a rank among the integers: its distance from zero in units of the
smallest positive float.  Comparisons are made on ranks, so that they are arithmetic on integers:
of two ranked floats exactly one of less, same and greater holds (`less_or_same_or_less`).
-/

namespace Verdict.Number

/-- The rank of a number in units of `2 ^ -1074`; the infinities lie beyond all finite numbers. -/
def Binary.rank? : Binary → Option Int
  | .nan => none
  | .infinite negative => some (if negative then -Nat.pow 2 2100 else Nat.pow 2 2100)
  | .finite negative mantissa exponent =>
      let n : Int := mantissa * Nat.pow 2 (exponent + 1074).toNat
      some (if negative then -n else n)

/-- The rank of a float; not-a-number has none. -/
def rank? (x : Float) : Option Int :=
  (Binary.ofFloat x).rank?

/-- Compares two ranks; without a rank no comparison holds. -/
def compareRanks (test : Int → Int → Bool) (x y : Float) : Bool :=
  match rank? x, rank? y with
  | some a, some b => test a b
  | _, _ => false

/-- Whether `x` lies below `y`. -/
def less (x y : Float) : Bool :=
  compareRanks (fun a b => decide (a < b)) x y

/-- Whether `x` lies below `y` or is the same number. -/
def atMost (x y : Float) : Bool :=
  compareRanks (fun a b => decide (a ≤ b)) x y

/-- Whether `x` and `y` are the same number; both zeros are. -/
def same (x y : Float) : Bool :=
  compareRanks (fun a b => decide (a = b)) x y

/-- Whether `x` is neither infinite nor not-a-number. -/
def isFinite (x : Float) : Bool :=
  match Binary.ofFloat x with
  | .finite _ _ _ => true
  | _ => false

theorem exists_of_isFinite {x : Float} (finite : isFinite x = true) :
    ∃ negative mantissa exponent, Binary.ofFloat x = .finite negative mantissa exponent := by
  unfold isFinite at finite
  split at finite
  next negative mantissa exponent value => exact ⟨negative, mantissa, exponent, value⟩
  next => cases finite

/-- Whether `x` is not-a-number. -/
def isNaN (x : Float) : Bool :=
  (rank? x).isNone

/-- A finite float has a rank. -/
theorem exists_rank_of_isFinite {x : Float} (h : isFinite x = true) : ∃ a, rank? x = some a := by
  unfold isFinite at h
  unfold rank?
  split at h
  · rename_i heq
    rw [heq]
    exact ⟨_, rfl⟩
  · cases h

/-- Two ranked floats are comparable. -/
theorem less_or_same_or_less {x y : Float} {a b : Int} (hx : rank? x = some a)
    (hy : rank? y = some b) : less x y = true ∨ same x y = true ∨ less y x = true := by
  simp only [less, same, compareRanks, hx, hy, decide_eq_true_eq]
  omega

/-- At most is below or the same. -/
theorem atMost_eq (x y : Float) : atMost x y = (less x y || same x y) := by
  simp only [atMost, less, same, compareRanks]
  split
  · rename_i a b _ _
    rw [← Bool.decide_or]
    exact decide_eq_decide.2 Int.le_iff_lt_or_eq
  · rfl

end Verdict.Number
