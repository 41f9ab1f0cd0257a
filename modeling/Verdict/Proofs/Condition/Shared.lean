import Verdict.Proofs.Condition.Cache
import Verdict.Proofs.Pattern.Nesting

/-!
# Patterns that share a place in a cache

A pattern with the flag `(?i)` in its text and the pattern without it, compiled to ignore case, are
kept in one place, and whichever came first stands there.  A condition is judged as alone by every
cache that was used for some patterns exactly if each of them that may stand in the place of its own
judges as its own does (`servedAlike_iff`).  The two may differ: the flag takes one level of nesting
for itself, so that it is refused where the option is not (`judge_deepest`).
-/

namespace Verdict

/-- A pattern to be compiled. -/
structure PatternUse where
  caseSensitive : Bool
  pattern : String
  deriving DecidableEq

namespace PatternUse

/-- The text under which caches keep it. -/
def key (u : PatternUse) : String :=
  PatternCache.keyOf u.caseSensitive u.pattern

/-- What comes of it. -/
def compiled (u : PatternUse) : Option Pattern.Expr :=
  Condition.compile u.caseSensitive u.pattern

end PatternUse

namespace Condition

/-- The pattern that must be compiled to judge a condition on a value, as it is compiled. -/
def use? (c : Condition) (actual : Option Value) : Option PatternUse :=
  (c.neededPattern? actual).map (PatternUse.mk c.caseSensitive)

/-- Whether a condition is judged on a value as alone by each of some patterns that may stand in the
    place of its own. -/
def ServedAlike (c : Condition) (uses : List PatternUse) (actual : Option Value) : Prop :=
  ∀ own ∈ c.use? actual, ∀ u ∈ uses, u.key = own.key → c.judge u.compiled actual = c.holds actual

instance {c : Condition} {uses : List PatternUse} {actual : Option Value} :
    Decidable (c.ServedAlike uses actual) :=
  inferInstanceAs (Decidable (∀ own ∈ c.use? actual, ∀ u ∈ uses, u.key = own.key → _ = _))

theorem holds_of_use {c : Condition} {actual : Option Value} {own : PatternUse}
    (needed : c.use? actual = some own) : c.holds actual = c.judge own.compiled actual := by
  obtain ⟨pattern, found, rfl⟩ := Option.map_eq_some_iff.mp needed
  rw [holds, found]
  rfl

end Condition

/-- The patterns that conditions need for a request. -/
def usesOf (conditions : List Condition) (ctx : Context) : List PatternUse :=
  conditions.filterMap fun c => c.use? (ctx.resolve c.field)

namespace PatternCache

/-- Caches that were used for some patterns only. -/
inductive UsedFor (uses : List PatternUse) : PatternCache → Prop
  | fresh (n : Nat) : UsedFor uses (ofCapacity n)
  | compiled {cache : PatternCache} (before : UsedFor uses cache) {u : PatternUse}
      (known : u ∈ uses) : UsedFor uses (cache.compile u.caseSensitive u.pattern).2
  | cleared {cache : PatternCache} (before : UsedFor uses cache) : UsedFor uses cache.clear

variable {cache : PatternCache} {uses : List PatternUse} {c : Condition} {actual : Option Value}

/-- Each entry was compiled from one of the patterns, under its key. -/
theorem UsedFor.entries (used : cache.UsedFor uses) :
    ∀ e ∈ cache.entries, ∃ u ∈ uses, e = (u.key, u.compiled) := by
  induction used with
  | fresh n => exact List.forall_mem_nil _
  | cleared before ih => exact List.forall_mem_nil _
  | @compiled cache before u known ih =>
    unfold PatternCache.compile
    simp only
    split
    · exact ih
    · have new : ∃ v ∈ uses, (keyOf u.caseSensitive u.pattern,
          Condition.compile u.caseSensitive u.pattern) = (v.key, v.compiled) := ⟨u, known, rfl⟩
      unfold PatternCache.insert
      split
      · exact List.forall_mem_singleton.mpr new
      · exact List.forall_mem_cons.mpr ⟨new, ih⟩

/-- A cache serves a pattern by one that stands in its place, or compiles it. -/
theorem UsedFor.compile_cases (used : cache.UsedFor uses) (own : PatternUse) :
    (∃ u ∈ uses, u.key = own.key ∧
        (cache.compile own.caseSensitive own.pattern).1 = u.compiled) ∨
      (cache.compile own.caseSensitive own.pattern).1 = own.compiled := by
  unfold PatternCache.compile
  simp only
  split
  next compiled found =>
    obtain ⟨front, back, entries, -⟩ := List.lookup_eq_some_iff.mp found
    obtain ⟨u, known, same⟩ := used.entries (own.key, compiled) (by simp [entries, PatternUse.key])
    obtain ⟨key, rfl⟩ := Prod.mk.inj same
    exact .inl ⟨u, known, key.symm, rfl⟩
  next => exact .inr rfl

theorem judge_of_use {own : PatternUse} (needed : c.use? actual = some own) :
    let served := cache.compile own.caseSensitive own.pattern
    cache.judge c actual = (c.judge served.1 actual, served.2) := by
  obtain ⟨pattern, found, rfl⟩ := Option.map_eq_some_iff.mp needed
  rw [judge, found]

theorem judge_of_no_use (unneeded : c.use? actual = none) :
    cache.judge c actual = (c.holds actual, cache) := by
  rw [judge, Condition.holds, Option.map_eq_none_iff.mp unneeded]
  rfl

/-- A pattern that was compiled in a fresh cache stands there. -/
theorem compile_after_compile {u own : PatternUse} (same : u.key = own.key) (n : Nat) :
    (((ofCapacity n).compile u.caseSensitive u.pattern).2.compile own.caseSensitive
      own.pattern).1 = u.compiled := by
  have kept : ((ofCapacity n).compile u.caseSensitive u.pattern).2.entries =
      [(own.key, u.compiled)] := by
    have room : ¬ Nat.max n 1 ≤ 0 :=
      Nat.not_le.mpr (Nat.lt_of_lt_of_le Nat.one_pos (Nat.le_max_right n 1))
    rw [← same]
    simp [PatternCache.compile, ofCapacity, PatternCache.insert, PatternCache.size, room,
      PatternUse.key, PatternUse.compiled]
  have found : List.lookup own.key [(own.key, u.compiled)] = some u.compiled :=
    List.lookup_cons_self
  unfold PatternUse.key at kept found
  rw [PatternCache.compile]
  simp only [kept, found]

/-- A condition is judged as alone by every cache that was used for some patterns only, exactly if
    none of them that may stand in the place of its own makes a difference. -/
theorem servedAlike_iff (c : Condition) (uses : List PatternUse) (actual : Option Value) :
    (∀ cache : PatternCache, cache.UsedFor uses → (cache.judge c actual).1 = c.holds actual) ↔
      c.ServedAlike uses actual := by
  constructor
  · intro alone own needed u known same
    have served := alone _ (.compiled (.fresh 1) known)
    rw [judge_of_use needed] at served
    simpa only [compile_after_compile same] using served
  · intro alike cache used
    cases needed : c.use? actual with
    | none => rw [judge_of_no_use needed]
    | some own =>
      rw [judge_of_use needed]
      dsimp only
      rcases used.compile_cases own with ⟨u, known, same, served⟩ | served
      · rw [served]
        exact alike own needed u known same
      · rw [served, Condition.holds_of_use needed]

/-- A condition is judged by the pattern of one that was judged before it in a fresh cache, if that
    stands in the place of its own. -/
theorem judge_after_judge {d : Condition} {value : Option Value} {u own : PatternUse}
    (first : c.use? actual = some u) (needed : d.use? value = some own) (same : u.key = own.key)
    (n : Nat) :
    let judged := (ofCapacity n).judge c actual
    judged.1 = c.holds actual ∧ (judged.2.judge d value).1 = d.judge u.compiled value := by
  intro judged
  have served : judged = _ := judge_of_use first
  rw [served, judge_of_use needed, compile_after_compile same, Condition.holds_of_use first]
  exact ⟨rfl, rfl⟩

/-- The cache is still one that was used for these patterns only. -/
theorem UsedFor.judge (used : cache.UsedFor uses) (known : ∀ own ∈ c.use? actual, own ∈ uses) :
    (cache.judge c actual).2.UsedFor uses := by
  cases needed : c.use? actual with
  | none => rwa [judge_of_no_use needed]
  | some own =>
    rw [judge_of_use needed]
    exact .compiled used (known own needed)

end PatternCache

/-! ## The flag in the place of the option -/

namespace Condition

open Pattern (deepest)

/-- The condition that the path matches a pattern. -/
def onPath (caseSensitive : Bool) (pattern : String) : Condition :=
  { field := "path", operator := .regex, value := .text pattern, caseSensitive := caseSensitive }

/-- A pattern that compiles with the option does not match once it was refused with the flag. -/
theorem judge_after_refused {pattern : String} {e : Pattern.Expr} {text : String}
    (refused : compile true ("(?i)" ++ pattern) = none) (compiles : compile false pattern = some e)
    (n : Nat) :
    let value : Option Value := some (.text text)
    let judged := (PatternCache.ofCapacity n).judge (onPath true ("(?i)" ++ pattern)) value
    judged.1 = false ∧ (judged.2.judge (onPath false pattern) value).1 = false ∧
      (onPath false pattern).holds value = e.isFoundIn text := by
  intro value judged
  have first : (onPath true ("(?i)" ++ pattern)).use? value = some ⟨true, "(?i)" ++ pattern⟩ := rfl
  have needed : (onPath false pattern).use? value = some ⟨false, pattern⟩ := rfl
  obtain ⟨alone, served⟩ := PatternCache.judge_after_judge first needed rfl n
  refine ⟨alone.trans ?_, served.trans ?_, ?_⟩
  · rw [holds_of_use first, PatternUse.compiled, refused]
    rfl
  · rw [PatternUse.compiled, refused]
    rfl
  · rw [holds_of_use needed, PatternUse.compiled, compiles]
    exact Bool.bne_false _

/-- The deepest pattern may stand in a valid condition. -/
theorem issues_onPath_deepest (caseSensitive : Bool) :
    (onPath caseSensitive deepest).issues = [] := by
  have readable : (Pattern.Expr.read? false deepest).isSome = true := by
    have compiles : Pattern.Expr.read? false deepest = _ := compile_deepest.2 true
    rw [compiles]
    rfl
  have value : (onPath caseSensitive deepest).valueIssues = [] := by
    simp [valueIssues, onPath, Operator.isExistence, Value.text?, readable]
  have name : isFieldName (onPath caseSensitive deepest).field = true := by
    change isFieldName "path" = true
    decide +kernel
  have weight : isWeight (onPath caseSensitive deepest).weight = true := by
    change isWeight 1 = true
    decide +kernel
  rw [issues, value, if_pos name, if_pos weight]
  rfl

/-- Alone it matches with the option; after it came with the flag it does not. -/
theorem judge_deepest (n : Nat) :
    let path : Option Value := some (.text "/a")
    let judged := (PatternCache.ofCapacity n).judge (onPath true ("(?i)" ++ deepest)) path
    judged.1 = false ∧ (judged.2.judge (onPath false deepest) path).1 = false ∧
      (onPath false deepest).holds path = true := by
  intro path judged
  obtain ⟨refused, compiles⟩ := compile_deepest
  have found : (Pattern.Expr.one (.folded (.ofChar 'a'))).isFoundIn "/a" = true := by
    decide +kernel
  obtain ⟨first, second, alone⟩ := judge_after_refused refused (compiles false) n
  exact ⟨first, second, alone.trans found⟩

end Condition

end Verdict
