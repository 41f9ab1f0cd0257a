import Mathlib.Algebra.BigOperators.Group.List.Basic
import Mathlib.Data.Set.Defs
import Verdict.Proofs.Number.Products
import Verdict.Proofs.Risk.Turns

/-!
# Multipliers

The multipliers of a profile are applied by walking its table and looking each factor up in the
request, first among the data factors, then among the security and the context factors.  One could
also walk all factors of the request and look each of them up in the table.  Products do not depend
on the order, so that either way gives each multiplier to some power (`scaleAll_score`,
`prod_multipliersMet`), but the powers are the same exactly if no active factor is hidden behind
another one of its name (`multipliers_agree_iff`): the look-up does not see it, and the walk does.
-/

namespace Verdict

open Number (Exact)

/-- Whether the value of a factor is active. -/
def isActiveFactor (j : Json) : Bool :=
  (Value.ofJson j).isActive

namespace Context

/-- The names of the active factors of a request, of all three maps. -/
def activeNames (ctx : Context) : List String :=
  (ctx.factors.filter fun f => isActiveFactor f.2).map Prod.fst

/-- The multipliers that a profile has for the active factors of a request, one for each factor of
    the three maps. -/
def multipliersMet (ctx : Context) (p : Profile) : List Exact :=
  ctx.activeNames.filterMap fun name => (p.multipliers.get? name).map Exact.ofFloat

/-- Whether an active factor of a name stands behind one of that name in an earlier map, where the
    look-up does not see it. -/
def hidesActive (ctx : Context) (name : String) : Bool :=
  ((ctx.dataFactors.get? name).isSome &&
      ((ctx.securityFactors.get? name).any isActiveFactor ||
        (ctx.contextFactors.get? name).any isActiveFactor)) ||
    ((ctx.securityFactors.get? name).isSome && (ctx.contextFactors.get? name).any isActiveFactor)

end Context

/-! ## Counting active factors -/

/-- A name below all names of a list is not found there. -/
theorem KeyMap.lookup_of_above {α : Type} {name : String} {entries : List (String × α)}
    (above : ∀ e ∈ entries, name < e.1) : entries.lookup name = none := by
  rw [List.lookup_eq_none_iff]
  intro e member
  rw [bne_iff_ne]
  rintro rfl
  exact String.lt_irrefl _ (above e member)

/-- A map has at most one active entry of a name. -/
theorem KeyMap.count_active (m : KeyMap Json) (name : String) :
    ((m.entries.filter fun f => isActiveFactor f.2).map Prod.fst).count name =
      ((m.get? name).any isActiveFactor).toNat := by
  obtain ⟨entries, ordered⟩ := m
  rw [KeyMap.get?]
  dsimp only
  induction entries with
  | nil => rfl
  | cons e rest ih =>
    obtain ⟨above, ordered⟩ := List.pairwise_cons.mp ordered
    have later := ih ordered
    rw [List.lookup_cons]
    by_cases here : name = e.1
    · rw [here, KeyMap.lookup_of_above above] at later
      rw [here, beq_self_eq_true, List.filter_cons]
      cases active : isActiveFactor e.2 <;> simp [active, later]
    · rw [beq_eq_false_iff_ne.mpr here, ← later, List.filter_cons]
      split <;> simp [Ne.symm here]

theorem count_activeNames (ctx : Context) (name : String) :
    ctx.activeNames.count name =
      ((ctx.dataFactors.get? name).any isActiveFactor).toNat +
        ((ctx.securityFactors.get? name).any isActiveFactor).toNat +
          ((ctx.contextFactors.get? name).any isActiveFactor).toNat := by
  unfold Context.activeNames Context.factors
  simp only [List.filter_append, List.map_append, List.count_append, KeyMap.count_active]

/-- A name is counted as often as it is seen exactly if none of its active factors is hidden. -/
theorem count_activeNames_iff {ctx : Context} {name : String} :
    ctx.activeNames.count name = (ctx.isActive name).toNat ↔ ctx.hidesActive name = false := by
  have seen : ctx.isActive name = (ctx.factor? name).any isActiveFactor := rfl
  rw [count_activeNames, seen, Context.factor?, Context.hidesActive]
  cases ctx.dataFactors.get? name <;> cases ctx.securityFactors.get? name <;>
    cases ctx.contextFactors.get? name <;> simp [Nat.add_assoc]

/-! ## Powers of multipliers -/

section

variable {ctx : Context} {p : Profile}

/-- Applying the multipliers gives each one to the power of whether its factor is active. -/
theorem scaleAll_score (t : Tally Exact (AppliedMultiplier Exact)) :
    (t.scaleAll ctx p).score =
      t.score * (p.multipliers.entries.map fun e =>
        Exact.ofFloat e.2 ^ (ctx.isActive e.1).toNat).prod := by
  unfold Tally.scaleAll
  induction p.multipliers.entries generalizing t with
  | nil => rw [List.map_nil, List.prod_nil, mul_one]; rfl
  | cons e rest ih =>
    obtain ⟨factor, multiplier⟩ := e
    rw [List.map_cons, List.prod_cons, ← mul_assoc, List.filter_cons]
    dsimp only
    by_cases active : ctx.isActive factor = true
    · rw [if_pos active, List.foldl_cons, ih, active, Bool.toNat_true, pow_one]
      rfl
    · rw [if_neg active, ih, Bool.eq_false_iff.mpr active, Bool.toNat_false, pow_zero, mul_one]

/-- The multiplier of a factor in a part of a table, or one. -/
def multiplierIn (entries : List (String × Float)) (name : String) : Exact :=
  ((entries.lookup name).map Exact.ofFloat).getD 1

/-- Walking the factors gives each multiplier to the power of the number of its active factors. -/
theorem prod_multiplierIn {entries : List (String × Float)}
    (ordered : entries.Pairwise fun a b => a.1 < b.1) (names : List String) :
    (names.map (multiplierIn entries)).prod =
      (entries.map fun e => Exact.ofFloat e.2 ^ names.count e.1).prod := by
  induction entries with
  | nil =>
    have one : multiplierIn [] = fun _ => 1 := rfl
    rw [one, List.map_const', List.prod_replicate, one_pow, List.map_nil, List.prod_nil]
  | cons e rest ih =>
    obtain ⟨above, ordered⟩ := List.pairwise_cons.mp ordered
    have absent := KeyMap.lookup_of_above above
    have split (name : String) : multiplierIn (e :: rest) name =
        (if e.1 = name then Exact.ofFloat e.2 else 1) * multiplierIn rest name := by
      unfold multiplierIn
      rw [List.lookup_cons]
      by_cases here : e.1 = name
      · rw [if_pos here, ← here, beq_self_eq_true, absent]
        exact (mul_one _).symm
      · rw [if_neg here, beq_eq_false_iff_ne.mpr (Ne.symm here), one_mul]
    have power : (names.map fun name => if e.1 = name then Exact.ofFloat e.2 else 1).prod =
        Exact.ofFloat e.2 ^ names.count e.1 := by
      rw [List.prod_map_eq_pow_single e.1 _ fun name other _ => if_neg other.symm, if_pos rfl]
    rw [funext split, List.prod_map_mul, ih ordered, power, List.map_cons, List.prod_cons]

theorem prod_multipliersMet :
    (ctx.multipliersMet p).prod =
      (p.multipliers.entries.map fun e =>
        Exact.ofFloat e.2 ^ ctx.activeNames.count e.1).prod := by
  rw [← prod_multiplierIn p.multipliers.ordered]
  unfold Context.multipliersMet
  induction ctx.activeNames with
  | nil => rfl
  | cons name names ih =>
    rw [List.map_cons, List.prod_cons, ← ih, List.filterMap_cons, multiplierIn, ← KeyMap.get?]
    cases p.multipliers.get? name with
    | none => exact (one_mul _).symm
    | some m => exact List.prod_cons

/-- The adjusted score of an assessment: that after the rules that match, times the multipliers. -/
theorem adjustedScore_eq (id : String) (rules : List ScoringRule) (cache : PatternCache) :
    ((assess id ctx p rules : Judge (Assessment Exact)).run cache).1.breakdown.adjustedScore =
      (p.adjustedBy ((matchingOf ctx (orderedRules rules)).run cache).1).score *
        (p.multipliers.entries.map fun e =>
          Exact.ofFloat e.2 ^ (ctx.isActive e.1).toNat).prod := by
  rw [fst_assess]
  exact scaleAll_score _

end

/-- Walking the table of a profile and looking each factor up gives the same adjusted score as
    walking all factors of the request, for all profiles with multipliers for some names, exactly if
    the request hides no active factor of these names.  Then every multiplier whose factor is active
    counts once; a hidden factor counts for the walk over the factors only. -/
theorem multipliers_agree_iff (ctx : Context) (names : Set String) :
    (∀ p : Profile, (∀ e ∈ p.multipliers.entries, e.1 ∈ names) →
      ∀ (id : String) (rules : List ScoringRule) (cache : PatternCache),
        let matching := ((matchingOf ctx (orderedRules rules)).run cache).1
        let a : Assessment Exact := ((assess id ctx p rules).run cache).1
        a.breakdown.adjustedScore =
          (p.adjustedBy matching).score * (ctx.multipliersMet p).prod) ↔
      ∀ name ∈ names, ctx.hidesActive name = false := by
  constructor
  · intro agree name member
    let p := (Profile.new default "" .medium 1).withMultiplier name 2
    have only : p.multipliers.entries = [(name, 2)] := rfl
    have score := agree p (by simpa [only] using member) "" [] .empty
    have one : Exact.ofFloat 1 = .finite 1 := by decide +kernel
    have two : Exact.ofFloat 2 = .finite 2 := by decide +kernel
    have start : p.baseScore = 1 := rfl
    have base : (p.adjustedBy [] : Tally Exact _).score = .finite 1 := by
      rw [Profile.adjustedBy, List.foldl_nil, start]
      exact one
    have none : ((matchingOf ctx (orderedRules [])).run .empty).1 = [] := by
      rw [orderedRules, sortByPriority, List.filter_nil, List.mergeSort_nil]
      rfl
    dsimp only at score
    rw [adjustedScore_eq, prod_multipliersMet, none, base, only, List.map_singleton,
      List.map_singleton, List.prod_singleton, List.prod_singleton, two, Exact.finite_pow,
      Exact.finite_pow, Exact.finite_mul, Exact.finite_mul, Exact.finite.injEq, one_mul,
      one_mul] at score
    have powers : (ctx.isActive name).toNat = ctx.activeNames.count name :=
      pow_right_injective₀ (by norm_num) (by norm_num) score
    exact count_activeNames_iff.mp powers.symm
  · intro seen p covered id rules cache matching a
    have same (e : String × Float) (member : e ∈ p.multipliers.entries) :
        Exact.ofFloat e.2 ^ (ctx.isActive e.1).toNat =
          Exact.ofFloat e.2 ^ ctx.activeNames.count e.1 := by
      rw [count_activeNames_iff.mpr (seen e.1 (covered e member))]
    change ((assess id ctx p rules).run cache).1.breakdown.adjustedScore = _
    rw [adjustedScore_eq, prod_multipliersMet, List.map_congr_left same]

/-- An inactive data factor hides the active security factor of its name: the multiplier 2 is not
    applied, and walking the factors would have applied it. -/
theorem hidden_factor_not_multiplied :
    let ctx : Context :=
      { requestId := "q", method := "GET", path := "/", timestamp := default
        dataFactors := .ofList [("x", .bool false)]
        securityFactors := .ofList [("x", .bool true)] }
    let p := (Profile.new default "p" .medium 10).withMultiplier "x" 2
    let a : Assessment Exact := ((assess "" ctx p []).run .empty).1
    a.breakdown.adjustedScore = .finite 10 ∧
      (p.adjustedBy [] : Tally Exact _).score * (ctx.multipliersMet p).prod = .finite 20 := by
  decide +kernel

end Verdict
