import Mathlib.Data.List.Basic
import Verdict.Matching

/-!
# Compiled patterns make no difference

A cache answers a condition from the patterns it keeps, under keys that put a pattern with the flag
`(?i)` in its text and the same pattern compiled to ignore case into one place.  `Faithful` ties
what is kept to its key: it judges like the key compiled as it stands.  Hits, compilations and
flushes all keep that, so that a cache answers as one that was never used (`turns_answer_alone`).
-/

namespace Verdict

/-- Whether two outcomes of compiling judge alike: both were refused, or both are found in the same
    texts. -/
def Alike (a b : Option Pattern.Expr) : Prop :=
  a.map Pattern.Expr.isFoundIn = b.map Pattern.Expr.isFoundIn

namespace Condition

/-- Whether, for the pattern that a condition needs on a value, the flag in the text does what the
    option to ignore case does. -/
def FlagAgrees (c : Condition) (actual : Option Value) : Prop :=
  c.caseSensitive = false → ∀ pattern, c.neededPattern? actual = some pattern →
    Alike (compile true ("(?i)" ++ pattern)) (compile false pattern)

/-- Comparing looks at a pattern only to find it in texts. -/
theorem compare_congr {a b : Option Pattern.Expr} (alike : Alike a b) (c : Condition)
    (actual expected : Value) : c.compare a actual expected = c.compare b actual expected := by
  unfold compare
  cases c.operator with
  | regex =>
    unfold Alike at alike
    cases a with
    | none =>
      cases b with
      | none => rfl
      | some b => simp at alike
    | some a =>
      cases b with
      | none => simp at alike
      | some b =>
        have same : a.isFoundIn = b.isFoundIn := by simpa using alike
        simp only [same]
  | _ => rfl

theorem judge_congr {a b : Option Pattern.Expr} (alike : Alike a b) (c : Condition)
    (actual : Option Value) : c.judge a actual = c.judge b actual := by
  unfold judge
  simp only [compare_congr alike]

section

open Pattern

theorem searchFrom_seq_empty (e : Expr) (before : Option Char) (partials : List (List Expr))
    (cs : List Char) :
    (Expr.seq .empty e).searchFrom before partials cs = e.searchFrom before partials cs := by
  induction cs generalizing before partials with
  | nil => simp [Expr.searchFrom, Expr.accepts, Expr.nullable]
  | cons c cs ih =>
    simp [Expr.searchFrom, Expr.accepts, Expr.nullable, Expr.deriveAll, Expr.derive, ih]

/-- A flag that leaves only the empty pattern in front of what the option gives agrees with it. -/
theorem alike_of_empty_in_front {a b : Option Expr} (inFront : a = b.map (.seq .empty)) :
    Alike a b := by
  subst inFront
  cases b with
  | none => rfl
  | some e => exact congrArg some (funext fun text => searchFrom_seq_empty e none [] text.toList)

end

/-- What was found of a condition, with the weight that it adds. -/
structure Finding where
  matched : Bool
  confidence : Float

/-- What is found of a condition, given whether it matched. -/
def finding (c : Condition) (matched : Bool) : Finding :=
  ⟨matched, if matched then c.weight else 0⟩

end Condition

namespace PatternCache

/-- The pattern that a cache has for a condition on a value, if one is needed. -/
def patternFor (cache : PatternCache) (c : Condition) (actual : Option Value) :
    Option Pattern.Expr :=
  (c.neededPattern? actual).bind fun p => (cache.compile c.caseSensitive p).1

theorem judge_fst (cache : PatternCache) (c : Condition) (actual : Option Value) :
    (cache.judge c actual).1 = c.judge (cache.patternFor c actual) actual := by
  unfold judge patternFor
  cases c.neededPattern? actual <;> rfl

/-- All values that are present need the same pattern. -/
theorem patternFor_of_present (cache : PatternCache) (c : Condition) {v w : Value}
    (present : v.isNull = false) (present' : w.isNull = false) :
    cache.patternFor c (some v) = cache.patternFor c (some w) := by
  unfold patternFor Condition.neededPattern?
  cases c.operator with
  | regex => simp only [present, present']
  | _ => rfl

/-- A condition that needs no pattern is judged without looking at the cache. -/
theorem judge_of_no_pattern (cache : PatternCache) {c : Condition} (noPattern : c.operator ≠ .regex)
    (actual : Option Value) : cache.judge c actual = (c.holds actual, cache) := by
  have unneeded : c.neededPattern? actual = none := by
    unfold Condition.neededPattern?
    split
    next operator => exact absurd operator noPattern
    next => rfl
  rw [judge, Condition.holds, unneeded]
  rfl

/-- Whether everything kept judges like its key compiled as it stands. -/
def Faithful (cache : PatternCache) : Prop :=
  ∀ e ∈ cache.entries, Alike e.2 (Condition.compile true e.1)

theorem faithful_ofCapacity (n : Nat) : (ofCapacity n).Faithful := nofun

theorem faithful_clear (cache : PatternCache) : cache.clear.Faithful := nofun

theorem Faithful.insert {cache : PatternCache} (faithful : cache.Faithful) {key : String}
    {compiled : Option Pattern.Expr} (alike : Alike compiled (Condition.compile true key)) :
    (cache.insert key compiled).Faithful := by
  unfold PatternCache.insert
  split
  · exact List.forall_mem_singleton.mpr alike
  · exact List.forall_mem_cons.mpr ⟨alike, faithful⟩

/-- What a faithful cache gives for a key judges like the key compiled as it stands. -/
theorem Faithful.lookup {cache : PatternCache} (faithful : cache.Faithful) {key : String}
    {compiled : Option Pattern.Expr} (found : cache.entries.lookup key = some compiled) :
    Alike compiled (Condition.compile true key) := by
  obtain ⟨front, back, entries, -⟩ := List.lookup_eq_some_iff.mp found
  exact faithful (key, compiled) (by simp [entries])

/-- A faithful cache gives patterns that judge like freshly compiled ones, and stays faithful. -/
theorem Faithful.compile {cache : PatternCache} (faithful : cache.Faithful) {caseSensitive : Bool}
    {pattern : String}
    (keyed : Alike (Condition.compile true (keyOf caseSensitive pattern))
      (Condition.compile caseSensitive pattern)) :
    Alike (cache.compile caseSensitive pattern).1 (Condition.compile caseSensitive pattern) ∧
      (cache.compile caseSensitive pattern).2.Faithful := by
  unfold PatternCache.compile
  simp only
  split
  · next compiled found => exact ⟨(faithful.lookup found).trans keyed, faithful⟩
  · exact ⟨rfl, faithful.insert keyed.symm⟩

/-- A faithful cache judges a condition as it is judged alone, and stays faithful. -/
theorem Faithful.judge {cache : PatternCache} (faithful : cache.Faithful) {c : Condition}
    {actual : Option Value} (flag : c.FlagAgrees actual) :
    (cache.judge c actual).1 = c.holds actual ∧ (cache.judge c actual).2.Faithful := by
  unfold PatternCache.judge Condition.holds
  cases needed : c.neededPattern? actual with
  | none => exact ⟨rfl, faithful⟩
  | some pattern =>
    have keyed : Alike (Condition.compile true (keyOf c.caseSensitive pattern))
        (Condition.compile c.caseSensitive pattern) := by
      cases sensitive : c.caseSensitive with
      | true => rfl
      | false => exact flag sensitive pattern needed
    obtain ⟨alike, after⟩ := faithful.compile keyed
    exact ⟨Condition.judge_congr alike c actual, after⟩

/-! ## Runs of calls -/

/-- A call on a cache: a condition is judged on the value of its field, or all patterns are
    dropped. -/
inductive Call where
  | judge (c : Condition) (actual : Option Value)
  | clear

/-- One call on a cache, with the finding if a condition was judged. -/
structure Turn where
  call : Call
  reply : Option Condition.Finding
  after : PatternCache

/-- Serves a call. -/
def serve (cache : PatternCache) : Call → Turn
  | .judge c actual =>
      let (matched, after) := cache.judge c actual
      ⟨.judge c actual, some (c.finding matched), after⟩
  | .clear => ⟨.clear, none, cache.clear⟩

/-- Serves calls one after the other. -/
def turns (cache : PatternCache) : List Call → List Turn
  | [] => []
  | call :: rest => cache.serve call :: (cache.serve call).after.turns rest

/-- What is replied to a call when every condition is judged alone. -/
def Call.alone : Call → Option Condition.Finding
  | .judge c actual => some (c.finding (c.holds actual))
  | .clear => none

theorem Faithful.serve {cache : PatternCache} (faithful : cache.Faithful) {call : Call}
    (flag : ∀ c actual, call = .judge c actual → c.FlagAgrees actual) :
    (cache.serve call).reply = call.alone ∧ (cache.serve call).after.Faithful := by
  cases call with
  | judge c actual =>
    obtain ⟨matched, after⟩ := faithful.judge (flag c actual rfl)
    exact ⟨congrArg (fun b => some (c.finding b)) matched, after⟩
  | clear => exact ⟨rfl, cache.faithful_clear⟩

theorem Faithful.turns {cache : PatternCache} (faithful : cache.Faithful) {calls : List Call}
    (flags : ∀ c actual, .judge c actual ∈ calls → c.FlagAgrees actual) :
    (cache.turns calls).map Turn.reply = calls.map Call.alone := by
  induction calls generalizing cache with
  | nil => rfl
  | cons call rest ih =>
    have flag : ∀ c actual, call = .judge c actual → c.FlagAgrees actual := fun c actual equal =>
      flags c actual (by simp [equal])
    obtain ⟨reply, after⟩ := faithful.serve flag
    have later := ih after fun c actual member => flags c actual (List.mem_cons_of_mem _ member)
    rw [PatternCache.turns, List.map_cons, List.map_cons, reply, later]

/-! ## The number of patterns kept -/

/-- Whether a cache keeps no more patterns than some number, for which it has room. -/
structure Within (bound : Nat) (cache : PatternCache) : Prop where
  capacity : cache.capacity = bound
  positive : 1 ≤ bound
  size : cache.size ≤ bound

theorem within_ofCapacity (n : Nat) : Within (max n 1) (ofCapacity n) :=
  ⟨rfl, Nat.le_max_right n 1, Nat.zero_le _⟩

theorem Within.insert {bound : Nat} {cache : PatternCache} (within : Within bound cache)
    (key : String) (compiled : Option Pattern.Expr) : Within bound (cache.insert key compiled) := by
  unfold PatternCache.insert
  split
  · exact ⟨within.capacity, within.positive, within.positive⟩
  · have room : cache.size < cache.capacity := by omega
    exact ⟨within.capacity, within.positive, within.capacity ▸ room⟩

theorem Within.serve {bound : Nat} {cache : PatternCache} (within : Within bound cache)
    (call : Call) : Within bound (cache.serve call).after := by
  cases call with
  | clear => exact ⟨within.capacity, within.positive, Nat.zero_le _⟩
  | judge c actual =>
    simp only [PatternCache.serve, PatternCache.judge]
    cases c.neededPattern? actual with
    | none => exact within
    | some pattern =>
      simp only [PatternCache.compile]
      cases cache.entries.lookup (keyOf c.caseSensitive pattern) with
      | none => exact within.insert _ _
      | some compiled => exact within

theorem Within.turns {bound : Nat} {cache : PatternCache} (within : Within bound cache)
    (calls : List Call) : ∀ t ∈ cache.turns calls, Within bound t.after := by
  induction calls generalizing cache with
  | nil => simp [PatternCache.turns]
  | cons call rest ih =>
    rw [PatternCache.turns]
    exact List.forall_mem_cons.mpr ⟨within.serve call, ih (within.serve call)⟩

/-! ## Fresh caches -/

/-- A cache that was used for some calls replies to each of them as any fresh cache does to it
    alone, and never keeps more patterns than its capacity, or one. -/
theorem turns_answer_alone (capacity : Nat) (calls : List Call)
    (flags : ∀ c actual, .judge c actual ∈ calls → c.FlagAgrees actual) :
    (∀ fresh : Nat, ((ofCapacity capacity).turns calls).map Turn.reply =
        calls.map fun call => ((ofCapacity fresh).serve call).reply) ∧
      ∀ t ∈ (ofCapacity capacity).turns calls, t.after.size ≤ max capacity 1 := by
  constructor
  · intro fresh
    rw [(faithful_ofCapacity capacity).turns flags]
    apply List.map_congr_left
    intro call member
    exact ((faithful_ofCapacity fresh).serve fun c actual equal =>
      flags c actual (equal ▸ member)).1.symm
  · intro t member
    exact ((within_ofCapacity capacity).turns calls t member).size

theorem turns_answer_alone_flag_and_option :
    let matching (pattern : String) (caseSensitive : Bool) : Condition :=
      { field := "path", operator := .regex, value := .text pattern,
        caseSensitive := caseSensitive }
    let calls : List Call :=
      [.judge (matching "^a" false) (some (.text "Abc")),
        .judge (matching "(?i)^a" true) (some (.text "ABC")),
        .judge (matching "(a" true) (some (.text "(a")), .clear]
    (∀ c actual, .judge c actual ∈ calls → c.FlagAgrees actual) ∧
      (∀ fresh : Nat, ((ofCapacity 0).turns calls).map Turn.reply =
        calls.map fun call => ((ofCapacity fresh).serve call).reply) ∧
      ((ofCapacity 0).turns calls).map
          (fun t => (t.reply.map Condition.Finding.matched, t.after.size)) =
        [(some true, 1), (some true, 1), (some false, 1), (none, 0)] := by
  intro matching calls
  have inFront : Condition.compile true ("(?i)" ++ "^a") =
      (Condition.compile false "^a").map (.seq .empty) := by decide +kernel
  have flags : ∀ c actual, .judge c actual ∈ calls → c.FlagAgrees actual := by
    intro c actual member insensitive pattern needed
    simp only [calls, List.mem_cons, Call.judge.injEq, List.not_mem_nil, or_false,
      reduceCtorEq] at member
    obtain ⟨rfl, rfl⟩ | ⟨rfl, rfl⟩ | ⟨rfl, rfl⟩ := member
    · obtain rfl : "^a" = pattern := Option.some.inj needed
      exact Condition.alike_of_empty_in_front inFront
    · cases insensitive
    · cases insensitive
  exact ⟨flags, (turns_answer_alone 0 calls flags).1, by decide +kernel⟩

end PatternCache

end Verdict
