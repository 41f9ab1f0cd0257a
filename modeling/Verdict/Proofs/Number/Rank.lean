import Verdict.Number.Scalar
import Verdict.Proofs.Number.Reading

/-!
# Ranks

Comparisons of floats are comparisons of their ranks.  A float above zero is known from its rank
(`eq_of_rank_pos`); the two zeros share theirs, and what is not a number has none.  The whole part
of a number is read off its rank, too (`whole_of_rank`).
-/

namespace Verdict.Number

variable {x y : Float} {a b : Int}

theorem less_iff (ranked : rank? x = some a) (ranked' : rank? y = some b) :
    less x y = true ↔ a < b := by
  simp [less, compareRanks, ranked, ranked']

theorem atMost_iff (ranked : rank? x = some a) (ranked' : rank? y = some b) :
    atMost x y = true ↔ a ≤ b := by
  simp [atMost, compareRanks, ranked, ranked']

theorem ranked_of_atMost (atMost : atMost x y = true) :
    ∃ a b, rank? x = some a ∧ rank? y = some b ∧ a ≤ b := by
  unfold Number.atMost compareRanks at atMost
  split at atMost
  · exact ⟨_, _, ‹_›, ‹_›, of_decide_eq_true atMost⟩
  · cases atMost

theorem atMost_trans {x y z : Float} (le : Number.atMost x y = true)
    (le' : Number.atMost y z = true) : Number.atMost x z = true := by
  obtain ⟨a, b, rank, rank', order⟩ := ranked_of_atMost le
  obtain ⟨b', c, again, rank'', order'⟩ := ranked_of_atMost le'
  obtain rfl : b = b' := Option.some.inj (rank'.symm.trans again)
  exact (atMost_iff rank rank'').mpr (order.trans order')

theorem atMost_of_less (below : less x y = true) : atMost x y = true := by
  rw [atMost_eq, below, Bool.true_or]

/-- Of two numbers that are finite, one is at most the other or the other is below it. -/
theorem atMost_iff_not_less (finite : isFinite x = true) (finite' : isFinite y = true) :
    atMost x y = true ↔ ¬ less y x = true := by
  obtain ⟨a, ranked⟩ := exists_rank_of_isFinite finite
  obtain ⟨b, ranked'⟩ := exists_rank_of_isFinite finite'
  rw [atMost_iff ranked ranked', less_iff ranked' ranked, Int.not_lt]

theorem isFinite_of_rank (ranked : rank? x = some a) (above : -Nat.pow 2 2100 < a)
    (below : a < Nat.pow 2 2100) : isFinite x = true := by
  unfold rank? at ranked
  cases value : Binary.ofFloat x with
  | nan => simp [value, Binary.rank?] at ranked
  | infinite negative =>
    rw [value, Binary.rank?, Option.some.injEq] at ranked
    split at ranked <;> omega
  | finite negative m e => rw [isFinite, value]

/-- A number above zero is known from its rank; the two zeros share theirs. -/
theorem eq_of_rank_pos (ranked : rank? x = some a) (ranked' : rank? y = some a) (positive : 0 < a)
    (below : a < Nat.pow 2 2100) : x = y := by
  have above : -Nat.pow 2 2100 < a := by omega
  obtain ⟨negative, m, e, valueX⟩ := exists_of_isFinite (isFinite_of_rank ranked above below)
  obtain ⟨negative', m', e', valueY⟩ := exists_of_isFinite (isFinite_of_rank ranked' above below)
  rcases Binary.eq_of_rank valueX valueY (ranked.trans ranked'.symm) with
    ⟨rfl, -⟩ | ⟨rfl, rfl, rfl⟩
  · rw [rank?, valueX, Binary.rank?, Option.some.injEq] at ranked
    simp at ranked
    omega
  · exact eq_of_ofFloat valueX valueY

theorem rank_zero : rank? 0 = some 0 := by decide +kernel

theorem rank_hundred : ∃ h : Int, rank? 100 = some h ∧ 0 ≤ h ∧ h < Nat.pow 2 2100 :=
  ⟨100 * 2 ^ 1074, by decide +kernel, by decide +kernel, by decide +kernel⟩

/-! ## Between 0 and 100 -/

theorem between_eq (x : Float) :
    Scalar.between 0 100 x =
      if less 100 (if less x 0 then 0 else x) then 100 else if less x 0 then 0 else x :=
  rfl

/-- A number that is brought between 0 and 100 lies there. -/
theorem rank_between {h : Int} (hundred : rank? 100 = some h) (positive : 0 ≤ h)
    (ranked : rank? x = some a) :
    ∃ b, rank? (Scalar.between 0 100 x) = some b ∧ 0 ≤ b ∧ b ≤ h := by
  have raised : ∃ b, rank? (if less x 0 then 0 else x) = some b ∧ 0 ≤ b := by
    split
    · exact ⟨0, rank_zero, Int.le_refl 0⟩
    · rename_i notBelow
      rw [less_iff ranked rank_zero] at notBelow
      exact ⟨a, ranked, Int.not_lt.mp notBelow⟩
  obtain ⟨b, ranked, above⟩ := raised
  rw [between_eq]
  generalize (if less x 0 then 0 else x) = y at ranked ⊢
  split
  · exact ⟨h, hundred, positive, Int.le_refl h⟩
  · rename_i notAbove
    rw [less_iff hundred ranked] at notAbove
    exact ⟨b, ranked, above, Int.not_lt.mp notAbove⟩

/-- What is no number is not brought anywhere. -/
theorem between_of_unranked (unranked : rank? x = none) : Scalar.between 0 100 x = x := by
  have notBelow : less x 0 = false := by simp [less, compareRanks, unranked]
  have notAbove : less 100 x = false := by simp [less, compareRanks, unranked]
  simp [between_eq, notBelow, notAbove]

theorem le_of_rank_between {h : Int} (hundred : rank? 100 = some h) (positive : 0 ≤ h)
    (ranked : rank? (Scalar.between 0 100 x) = some a) : a ≤ h := by
  cases ranked' : rank? x with
  | none =>
    rw [between_of_unranked ranked', ranked'] at ranked
    cases ranked
  | some c =>
    obtain ⟨b, same, -, le⟩ := rank_between hundred positive ranked'
    exact Option.some.inj (same.symm.trans ranked) ▸ le

/-! ## Whole parts -/

/-- The whole part of a number `m * 2 ^ e`, read off the number in units of `2 ^ -c`. -/
theorem scaled_div (m : Nat) {e : Int} {c u : Nat} (unit : u = Nat.pow 2 c) (low : -(c : Int) ≤ e) :
    m * Nat.pow 2 (e + c).toNat / u =
      if 0 ≤ e then m * Nat.pow 2 e.toNat else m / Nat.pow 2 (-e).toNat := by
  subst unit
  have positive : ∀ k, 0 < Nat.pow 2 k := fun k => Nat.pow_pos (by decide)
  split
  next up => rw [(scaled_of_whole m low).1 up, Nat.mul_div_cancel _ (positive c)]
  next down =>
    have exponents : c = (-e).toNat + (e + c).toNat := by omega
    have power : Nat.pow 2 c = Nat.pow 2 (-e).toNat * Nat.pow 2 (e + c).toNat :=
      (congrArg (Nat.pow 2) exponents).trans (Nat.pow_add 2 _ _)
    rw [power]
    exact Nat.mul_div_mul_right m (Nat.pow 2 (-e).toNat) (positive _)

/-- The rank of one. -/
def rankOfOne : Nat := Nat.pow 2 1074

theorem rankOfOne_eq : rankOfOne = Nat.pow 2 1074 := by
  unfold rankOfOne
  rfl

/-- The whole part of a number that is not negative, read off its rank. -/
theorem whole_of_rank (finite : isFinite x = true) (ranked : rank? x = some a) (nonneg : 0 ≤ a)
    (most : Nat) : whole most x = Nat.min most (a.toNat / rankOfOne) := by
  obtain ⟨negative, m, e, value⟩ := exists_of_isFinite finite
  have scaled := scaled_div m rankOfOne_eq (Binary.format_of_finite value).2.1
  rw [rank?, value, Binary.rank?, Option.some.injEq] at ranked
  rw [whole, value]
  cases negative with
  | true =>
    have negated : -((m * Nat.pow 2 (e + 1074).toNat : Nat) : Int) = a := ranked
    have zero : a.toNat = 0 := by omega
    rw [zero, Nat.zero_div]
    exact (Nat.min_zero most).symm
  | false =>
    have rank : a.toNat = m * Nat.pow 2 (e + 1074).toNat := by
      rw [← ranked]
      exact Int.toNat_natCast _
    exact congrArg (Nat.min most) (scaled.symm.trans (congrArg (· / rankOfOne) rank.symm))

theorem rankOfOne_pos : 0 < rankOfOne := by decide +kernel

/-- A whole number is at most the whole part of a number exactly if it is at most the number. -/
theorem le_whole_iff {n most : Nat} (finite : isFinite x = true) (nonneg : atMost 0 x = true)
    (ranked : rank? y = some ((n * rankOfOne : Nat) : Int)) (fits : n ≤ most) :
    n ≤ whole most x ↔ atMost y x = true := by
  obtain ⟨a, ranked'⟩ := exists_rank_of_isFinite finite
  rw [atMost_iff rank_zero ranked'] at nonneg
  rw [whole_of_rank finite ranked' nonneg, atMost_iff ranked ranked']
  have least : n ≤ Nat.min most (a.toNat / rankOfOne) ↔ n ≤ most ∧ n ≤ a.toNat / rankOfOne :=
    Nat.le_min
  have quotient : n ≤ a.toNat / rankOfOne ↔ n * rankOfOne ≤ a.toNat :=
    Nat.le_div_iff_mul_le rankOfOne_pos
  rw [least, quotient]
  omega

end Verdict.Number
