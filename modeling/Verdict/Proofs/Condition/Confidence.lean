import Mathlib.Algebra.Order.BigOperators.Group.List
import Mathlib.Algebra.Order.Field.Basic
import Verdict.Proofs.Condition.Judged
import Verdict.Proofs.Number.Exact

/-!
# The confidence of a match

The confidence of a match is the weight of the conditions that matched over the weight of all of
them.  The loop takes in the weights of those conditions only that it judges, but these are among
all conditions, so that in exact arithmetic the share never exceeds 1; where all conditions are
joined by `and` a match has judged every one of them, and the share is 1.  Nothing but the
confidence depends on the weights (`matchConditions_unweighted`).
-/

namespace Verdict

open Number (Exact)

/-! ## Weights -/

/-- The weight of a condition as a rational. -/
def Condition.exactWeight (c : Condition) : ℚ :=
  (Exact.ofFloat c.weight).toRat

/-- The weight of all conditions of a list. -/
def totalWeight (conditions : List Condition) : ℚ :=
  (conditions.map Condition.exactWeight).sum

/-- The weight of the conditions of a list that a match has as hits, found by their positions. -/
def Match.weightIn (m : Match) (conditions : List Condition) : ℚ :=
  (m.hits.map fun h => (conditions[h.index]?.map Condition.exactWeight).getD 0).sum

/-- A condition without its weight. -/
def Condition.unweighted (c : Condition) : Condition :=
  { c with weight := 0 }

/-- A hit without its weight. -/
def Hit.unweighted (h : Hit) : Hit :=
  { h with weight := 0 }

/-- A match without the weights of its hits. -/
def Match.unweighted (m : Match) : Match :=
  { m with hits := m.hits.map Hit.unweighted }

/-- What is known after some conditions, without the weights. -/
def Matching.Progress.unweighted (p : Progress) : Progress :=
  { p with hits := p.hits.map Hit.unweighted }

/-- A weight that counts is a rational that is not negative. -/
theorem Condition.exactWeight_of_isWeight {c : Condition} (weight : isWeight c.weight = true) :
    Exact.ofFloat c.weight = .finite c.exactWeight ∧ 0 ≤ c.exactWeight := by
  simp only [isWeight, Bool.and_eq_true, Bool.not_eq_true'] at weight
  exact Exact.ofFloat_of_not_less weight.1 weight.2

/-! ## What does not depend on the weights -/

theorem PatternCache.judge_unweighted (cache : PatternCache) (c : Condition)
    (actual : Option Value) : cache.judge c.unweighted actual = cache.judge c actual := by
  unfold Condition.unweighted PatternCache.judge Condition.neededPattern? Condition.judge
    Condition.compare
  rfl

theorem judgeBy_unweighted (ctx : Context) (c : Condition) :
    judgeBy ctx c.unweighted = judgeBy ctx c := by
  have field : c.unweighted.field = c.field := rfl
  funext cache
  rw [judgeBy, judgeBy, field, PatternCache.judge_unweighted]

namespace Matching

theorem hasLaterOr_unweighted (rest : List Condition) :
    hasLaterOr (rest.map Condition.unweighted) = hasLaterOr rest := by
  rw [hasLaterOr, hasLaterOr, List.any_map]
  rfl

theorem nextStep_unweighted (running : Option Bool) (op : Connective) (rest : List Condition) :
    nextStep running op (rest.map Condition.unweighted) = nextStep running op rest := by
  unfold nextStep
  rw [hasLaterOr_unweighted]

theorem note_unweighted (p : Progress) (index : Nat) (c : Condition) (matched : Bool) :
    p.unweighted.note index c.unweighted matched = (p.note index c matched).unweighted := by
  cases matched
  · rfl
  · simp only [Progress.note, Progress.unweighted, if_true, List.map_append]
    rfl

/-- The loop goes the same way whatever the weights are. -/
theorem go_unweighted (ctx : Context) (conditions : List Condition) (index : Nat) (p : Progress) :
    go (judgeBy ctx) index p.unweighted (conditions.map Condition.unweighted) =
      Progress.unweighted <$> go (judgeBy ctx) index p conditions := by
  induction conditions generalizing index p with
  | nil => rfl
  | cons c rest ih =>
    rw [List.map_cons, go, go, nextStep_unweighted]
    have step : nextStep p.unweighted.running (c.unweighted.connectiveAt index) rest =
        nextStep p.running (c.connectiveAt index) rest := rfl
    rw [step]
    cases nextStep p.running (c.connectiveAt index) rest with
    | judge =>
      simp only [judgeBy_unweighted, note_unweighted, ih, map_bind]
    | skip => exact ih (index + 1) p
    | stop => rfl

end Matching

/-- Whatever the weights are, the same conditions are judged and match. -/
theorem matchConditions_unweighted (conditions : List Condition) (ctx : Context) :
    matchConditions (conditions.map Condition.unweighted) ctx =
      Match.unweighted <$> matchConditions conditions ctx := by
  have start : ({} : Matching.Progress) = Matching.Progress.unweighted {} := rfl
  have goes := Matching.go_unweighted ctx conditions 0 {}
  unfold matchConditions Matching.run
  rw [List.isEmpty_map]
  split
  · rfl
  · rw [map_bind]
    change (Matching.go (judgeBy ctx) 0 {} (conditions.map Condition.unweighted) >>= _) = _
    rw [start, goes, bind_map_left]
    rfl

/-- Conditions that differ in their weights only are judged alike, and their matches differ in
    weights only. -/
theorem matchConditions_alike {conditions conditions' : List Condition}
    (same : conditions'.map Condition.unweighted = conditions.map Condition.unweighted)
    (ctx : Context) (cache : PatternCache) :
    let result := (matchConditions conditions ctx).run cache
    let result' := (matchConditions conditions' ctx).run cache
    result'.1.unweighted = result.1.unweighted ∧ result'.2 = result.2 := by
  have runs : (Match.unweighted <$> matchConditions conditions' ctx).run cache =
      (Match.unweighted <$> matchConditions conditions ctx).run cache := by
    rw [← matchConditions_unweighted, same, matchConditions_unweighted]
  rw [StateT.run_map, StateT.run_map] at runs
  exact Prod.mk.inj runs

/-! ## The conditions that count -/

/-- Conditions joined by `and` come to true when each of them does. -/
theorem joinedPlaced_iff_of_and {outcome : Nat → Bool} {placed : List Placed}
    (ands : ∀ x ∈ placed.tail, x.1.connective = .and) :
    joinedPlaced outcome placed = true ↔ ∀ x ∈ placed, outcome x.2 = true := by
  cases placed with
  | nil => simp [joinedPlaced]
  | cons first rest =>
    rw [joinedPlaced, List.forall_mem_cons]
    generalize outcome first.2 = acc
    induction rest generalizing acc with
    | nil => simp
    | cons x rest ih =>
      obtain ⟨here, later⟩ := List.forall_mem_cons.mp ands
      rw [List.foldl_cons, ih later, List.forall_mem_cons, here]
      simp only [Bool.and_eq_true, and_assoc]

/-- Where all conditions are joined by `and`, a match has judged every one. -/
theorem matching_of_and {outcome : Nat → Bool} {conditions : List Condition}
    (ands : ∀ x ∈ conditions.zipIdx.tail, x.1.connective = .and)
    (matched : outcomeOfFirst outcome conditions conditions.length = true) :
    (judgedOf outcome conditions).filter (fun x => outcome x.2) = conditions.zipIdx := by
  have all : conditions.zipIdx.take conditions.length = conditions.zipIdx :=
    List.take_of_length_le (by simp)
  rw [outcomeOfFirst, all, joinedPlaced_iff_of_and ands] at matched
  rw [judgedOf, List.filter_filter, List.filter_eq_self]
  intro x member
  have before : joinedPlaced outcome (conditions.zipIdx.take x.2) = true := by
    refine (joinedPlaced_iff_of_and fun y among => ands y ?_).mpr fun y among =>
      matched y (List.mem_of_mem_take among)
    rw [← List.drop_one, List.drop_take] at among
    rw [← List.drop_one]
    exact List.mem_of_mem_take among
  have own : x.2 = 0 ∨ x.1.connective = .and := by
    cases conditions with
    | nil => simp at member
    | cons c rest =>
      rw [List.zipIdx_cons, List.mem_cons] at member
      rcases member with rfl | later
      · exact .inl rfl
      · exact .inr (ands x later)
  rw [matched x member, canChange, before, Bool.true_and]
  rcases own with first | isAnd
  · simp [first]
  · simp [isAnd]

/-- Over every cache there is something that each condition comes to, and a match takes it in. -/
theorem exists_outcome (conditions : List Condition) (ctx : Context) (cache : PatternCache) :
    ∃ outcome : Nat → Bool, ((matchConditions conditions ctx).run cache).1 =
      ⟨outcomeOfFirst outcome conditions conditions.length,
        ((judgedOf outcome conditions).filter fun x => outcome x.2).map hitOf,
        (judgedOf outcome conditions).length⟩ := by
  let known : Nat → Bool := fun j => conditions[j]?.any fun c => c.holds (ctx.resolve c.field)
  have alone : ∀ x ∈ conditions.zipIdx, known x.2 = x.1.holds (ctx.resolve x.1.field) := by
    intro x member
    simp only [known, List.mem_zipIdx_iff_getElem?.mp member, Option.any_some]
  obtain ⟨outcome, goes⟩ : ∃ outcome, GoesOn ctx [] conditions known outcome {} cache :=
    go_judges ctx conditions cache rfl alone
  exact ⟨outcome, congrArg Prod.fst (matchConditions_of_goesOn goes)⟩

/-! ## The share of the weight -/

theorem totalWeight_eq (conditions : List Condition) :
    totalWeight conditions = (conditions.zipIdx.map fun x => x.1.exactWeight).sum := by
  conv_lhs => rw [totalWeight, ← List.zipIdx_map_fst 0 conditions, List.map_map]
  rfl

section

variable {conditions : List Condition} {m : Match} {placed : List Placed}
  (hits : m.hits = placed.map hitOf) (among : placed.Sublist conditions.zipIdx)

include hits among

theorem Match.weightIn_eq : m.weightIn conditions = (placed.map fun x => x.1.exactWeight).sum := by
  rw [weightIn, hits, List.map_map]
  congr 1
  apply List.map_congr_left
  intro x member
  have at_ : conditions[x.2]? = some x.1 := List.mem_zipIdx_iff_getElem?.mp (among.subset member)
  simp only [Function.comp_apply, hitOf, at_, Option.map_some, Option.getD_some]

variable (weights : ∀ c ∈ conditions, Condition.isWeight c.weight = true)

include weights

/-- The hits have no more weight than all conditions. -/
theorem Match.weightIn_le : 0 ≤ m.weightIn conditions ∧
    m.weightIn conditions ≤ totalWeight conditions := by
  have nonneg : ∀ q ∈ conditions.zipIdx.map fun x => x.1.exactWeight, (0 : ℚ) ≤ q := by
    intro q member
    obtain ⟨x, inside, rfl⟩ := List.mem_map.mp member
    exact (Condition.exactWeight_of_isWeight
      (weights x.1 (List.fst_mem_of_mem_zipIdx inside))).2
  have within := among.map fun x => x.1.exactWeight
  rw [Match.weightIn_eq hits among, totalWeight_eq]
  exact ⟨List.sum_nonneg fun q member => nonneg q (within.subset member),
    within.sum_le_sum nonneg⟩

/-- The confidence of a match is the share of the weight of its hits; no cap is needed. -/
theorem Match.confidence_eq : (m.confidence conditions : Exact) =
    .finite (if m.matched then
      if totalWeight conditions = 0 then 1 else m.weightIn conditions / totalWeight conditions
    else 0) := by
  have total : (Scalar.sum (conditions.map fun c => Scalar.ofFloat c.weight) : Exact) =
      .finite (totalWeight conditions) := by
    rw [totalWeight, ← Exact.sum_finite, List.map_map]
    congr 1
    exact List.map_congr_left fun c member =>
      (Condition.exactWeight_of_isWeight (weights c member)).1
  have taken : (Scalar.sum (m.hits.map fun h => Scalar.ofFloat h.weight) : Exact) =
      .finite (m.weightIn conditions) := by
    rw [Match.weightIn_eq hits among, ← Exact.sum_finite, hits, List.map_map, List.map_map]
    congr 1
    exact List.map_congr_left fun x member => (Condition.exactWeight_of_isWeight
      (weights x.1 (List.fst_mem_of_mem_zipIdx (among.subset member)))).1
  obtain ⟨nonneg, atMost⟩ := Match.weightIn_le hits among weights
  simp only [confidence, total, taken, Exact.nat_eq, Exact.less_finite, decide_eq_true_eq,
    Nat.cast_zero, Nat.cast_one]
  cases m.matched with
  | false => rfl
  | true =>
    simp only [Bool.not_true, Bool.false_eq_true, if_false, if_true]
    rcases (nonneg.trans atMost).eq_or_lt with zero | positive
    · rw [if_neg zero.not_lt, if_pos zero.symm]
    · have share : m.weightIn conditions / totalWeight conditions ≤ 1 :=
        (div_le_one positive).mpr atMost
      rw [if_pos positive, if_neg positive.ne', Exact.finite_div positive.ne', Exact.less_finite]
      rcases share.eq_or_lt with one | below
      · simp only [one, lt_irrefl, decide_false, Bool.false_eq_true, if_false]
      · simp only [below, decide_true, if_true]

end

/-- A match of conditions joined by `and` has the weight of all of them. -/
theorem Match.weightIn_of_and {outcome : Nat → Bool} {conditions : List Condition} {m : Match}
    (hits : m.hits = ((judgedOf outcome conditions).filter fun x => outcome x.2).map hitOf)
    (matched : outcomeOfFirst outcome conditions conditions.length = true)
    (ands : ∀ c ∈ conditions.tail, c.connective = .and) :
    m.weightIn conditions = totalWeight conditions := by
  have placed : ∀ x ∈ conditions.zipIdx.tail, x.1.connective = .and := by
    intro x member
    refine ands x.1 ?_
    have within : x.1 ∈ conditions.zipIdx.tail.map Prod.fst := List.mem_map_of_mem member
    rwa [List.map_tail, List.zipIdx_map_fst] at within
  rw [matching_of_and placed matched] at hits
  rw [weightIn_eq hits (List.Sublist.refl _), totalWeight_eq]

/-- For conditions whose weights count, in exact arithmetic: the confidence is 0 where they do not
    match, it lies between 0 and 1, it is 1 for no conditions and for a match of conditions that
    have no weight, and otherwise it is the weight of the conditions that matched over the weight
    of all.  A match of conditions that are all joined by `and` is certain.  Whatever the weights
    are, they make no difference to what is judged and what matches. -/
theorem confidence_weighs (conditions : List Condition) (ctx : Context) (cache : PatternCache) :
    let result := (matchConditions conditions ctx).run cache
    let m := result.1
    let confidence : Exact := m.confidence conditions
    ((∀ c ∈ conditions, Condition.isWeight c.weight = true) →
      (m.matched = false → confidence = .finite 0) ∧
        (∃ q : ℚ, confidence = .finite q ∧ 0 ≤ q ∧ q ≤ 1) ∧
        (conditions = [] → confidence = .finite 1) ∧
        (m.matched = true → totalWeight conditions = 0 → confidence = .finite 1) ∧
        (m.matched = true → totalWeight conditions ≠ 0 →
          confidence = .finite (m.weightIn conditions / totalWeight conditions)) ∧
        (m.matched = true → (∀ c ∈ conditions.tail, c.connective = .and) →
          confidence = .finite 1)) ∧
      ∀ conditions' : List Condition,
        conditions'.map Condition.unweighted = conditions.map Condition.unweighted →
          let result' := (matchConditions conditions' ctx).run cache
          result'.1.matched = m.matched ∧
            result'.1.hits.map Hit.unweighted = m.hits.map Hit.unweighted ∧
            result'.1.evaluated = m.evaluated ∧ result'.2 = result.2 := by
  intro result m confidence
  constructor
  · intro weights
    obtain ⟨outcome, reported⟩ := exists_outcome conditions ctx cache
    have hits : m.hits =
        ((judgedOf outcome conditions).filter fun x => outcome x.2).map hitOf := by
      rw [show m = _ from reported]
    have among := (List.filter_sublist (p := fun x : Placed => outcome x.2)).trans
      (List.filter_sublist (p := canChange outcome conditions) (l := conditions.zipIdx))
    obtain ⟨nonneg, atMost⟩ := Match.weightIn_le hits among weights
    have share : confidence = _ := Match.confidence_eq hits among weights
    refine ⟨?_, ?_, ?_, ?_, ?_, ?_⟩
    · intro missed
      rw [share, missed]
      rfl
    · refine ⟨_, share, ?_⟩
      split
      · split
        · exact ⟨zero_le_one, le_refl 1⟩
        · have total := nonneg.trans atMost
          exact ⟨div_nonneg nonneg total, div_le_one_of_le₀ atMost total⟩
      · exact ⟨le_refl 0, zero_le_one⟩
    · rintro rfl
      exact share
    · intro matched zero
      rw [share, if_pos matched, if_pos zero]
    · intro matched nonzero
      rw [share, if_pos matched, if_neg nonzero]
    · intro matched ands
      have isTrue : outcomeOfFirst outcome conditions conditions.length = true := by
        rw [← matched, show m = _ from reported]
      have all := Match.weightIn_of_and hits isTrue ands
      rw [share, if_pos matched, all]
      split
      · rfl
      · rw [div_self (by assumption)]
  · intro conditions' same
    obtain ⟨matches_, after⟩ := matchConditions_alike same ctx cache
    obtain ⟨matched, hits, evaluated⟩ := Match.mk.inj matches_
    exact ⟨matched, hits, evaluated, after⟩

theorem confidence_weighs_three_quarters :
    let now : Instant := ⟨0, 0, 0, by decide, by decide⟩
    let ctx : Context := { method := "POST", path := "/x", timestamp := now }
    let conditions : List Condition :=
      [{ field := "path", operator := .equals, value := .text "/x", weight := 3 },
        { field := "method", operator := .equals, value := .text "GET", connective := .or }]
    let m := ((matchConditions conditions ctx).run .empty).1
    (∀ c ∈ conditions, Condition.isWeight c.weight = true) ∧ m.matched = true ∧
      totalWeight conditions = 4 ∧ m.weightIn conditions = 3 ∧
      (m.confidence conditions : Exact) = .finite (3 / 4) := by
  intro now ctx conditions m
  have weights : ∀ c ∈ conditions, Condition.isWeight c.weight = true := by decide +kernel
  have matched : m.matched = true := by decide +kernel
  have total : totalWeight conditions = 4 := by decide +kernel
  have taken : m.weightIn conditions = 3 := by decide +kernel
  refine ⟨weights, matched, total, taken, ?_⟩
  rw [← total, ← taken]
  exact ((confidence_weighs conditions ctx .empty).1 weights).2.2.2.2.1 matched
    (total.trans_ne four_ne_zero)

end Verdict
