import Verdict.Proofs.Condition.Shared

/-!
# Conditions joined from left to right

The conditions of a rule are joined strictly in turn: the first gives the outcome, each later one is
joined into it by its own connective.  `joined` is that fold, over all conditions.  The loop that
matches conditions skips those that cannot change the outcome and stops when none can; `go_running`
says that it comes to the same.  Read the other way, a list matches when some condition that starts
it anew, the first or one joined by `or`, holds with every `and` after it (`joined_iff`).
-/

namespace Verdict

/-! ## Judgements that do not depend on the patterns kept -/

/-- Whether a judgement comes to a result from every cache of some sort, and leaves one of it. -/
def Gives {β : Type} (kept : PatternCache → Prop) (judgement : Judge β) (b : β) : Prop :=
  ∀ cache : PatternCache, kept cache →
    (judgement.run cache).1 = b ∧ kept (judgement.run cache).2

namespace Gives

variable {β γ : Type} {kept : PatternCache → Prop}

theorem pure (b : β) : Gives kept (Pure.pure b) b :=
  fun _ usable => ⟨rfl, usable⟩

theorem bind {x : Judge β} {f : β → Judge γ} {b : β} {c : γ} (first : Gives kept x b)
    (next : Gives kept (f b) c) : Gives kept (x >>= f) c := by
  intro cache usable
  obtain ⟨result, after⟩ := first cache usable
  have rest := next _ after
  rw [← result] at rest
  exact rest

theorem eq {x : Judge β} {b : β} (gives : Gives kept x b) {cache cache' : PatternCache}
    (usable : kept cache) (usable' : kept cache') : (x.run cache).1 = (x.run cache').1 :=
  (gives cache usable).1.trans (gives cache' usable').1.symm

end Gives

/-! ## The fold over all conditions -/

/-- The outcome so far, joined with that of one more condition. -/
def joinNext (holds : Condition → Bool) (acc : Bool) (c : Condition) : Bool :=
  match c.connective with
  | .and => acc && holds c
  | .or => acc || holds c

/-- The outcome of a list of conditions of which every one is judged. -/
def joined (holds : Condition → Bool) : List Condition → Bool
  | [] => true
  | first :: rest => rest.foldl (joinNext holds) (holds first)

section

variable (holds : Condition → Bool)

/-- A false outcome stays false while no condition is joined by `or`. -/
theorem foldl_joinNext_false {rest : List Condition} (noOr : Matching.hasLaterOr rest = false) :
    rest.foldl (joinNext holds) false = false := by
  induction rest with
  | nil => rfl
  | cons c rest ih =>
    simp only [Matching.hasLaterOr, List.any_cons, Bool.or_eq_false_iff,
      beq_eq_false_iff_ne] at noOr
    obtain ⟨notOr, later⟩ := noOr
    have isAnd : c.connective = .and := by
      cases h : c.connective with
      | and => rfl
      | or => exact absurd h notOr
    rw [List.foldl_cons, joinNext, isAnd]
    exact ih later

/-- From the second condition on, the loop comes to what the fold comes to. -/
theorem go_running {index : Nat} (later : index ≠ 0) {p : Matching.Progress} {acc : Bool}
    (running : p.running = some acc) (rest : List Condition) :
    (Matching.go (m := Id) holds index p rest).running =
      some (rest.foldl (joinNext holds) acc) := by
  induction rest generalizing index p acc with
  | nil => exact running
  | cons c rest ih =>
    have own : c.connectiveAt index = c.connective := if_neg (by simpa using later)
    have judged : ∀ op, c.connective = op →
        (p.note index c (holds c)).running = some (op.join (some acc) (holds c)) := by
      rintro op rfl
      simp only [Matching.Progress.note, own, running]
    rw [Matching.go, own, running, List.foldl_cons]
    cases connective : c.connective with
    | and =>
      cases acc with
      | true => exact (ih (Nat.succ_ne_zero index) (judged .and connective)).trans (by
          simp only [joinNext, connective, Connective.join])
      | false =>
        have same : joinNext holds false c = false := by simp [joinNext, connective]
        rw [same]
        cases more : Matching.hasLaterOr rest with
        | true =>
          simp only [Matching.nextStep, more]
          exact ih (Nat.succ_ne_zero index) running
        | false =>
          simp only [Matching.nextStep, more]
          rw [foldl_joinNext_false holds more]
          exact running
    | or =>
      cases acc with
      | true =>
        have same : joinNext holds true c = true := by simp [joinNext, connective]
        rw [same]
        exact ih (Nat.succ_ne_zero index) running
      | false => exact (ih (Nat.succ_ne_zero index) (judged .or connective)).trans (by
          simp only [joinNext, connective, Connective.join])

/-- The loop comes to what the fold over all conditions comes to. -/
theorem matched_run (conditions : List Condition) :
    (Matching.run (m := Id) holds conditions).matched = joined holds conditions := by
  cases conditions with
  | nil => rfl
  | cons first rest =>
    have start : (Matching.go (m := Id) holds 0 {} (first :: rest)).running =
        some (rest.foldl (joinNext holds) (holds first)) :=
      go_running holds Nat.one_ne_zero rfl rest
    change ((Matching.go (m := Id) holds 0 {} (first :: rest)).running.getD false) = _
    rw [start]
    rfl

/-- The outcome depends on what the conditions of the list come to only. -/
theorem joined_congr {holds' : Condition → Bool} {conditions : List Condition}
    (same : ∀ c ∈ conditions, holds c = holds' c) :
    joined holds conditions = joined holds' conditions := by
  cases conditions with
  | nil => rfl
  | cons first rest =>
    obtain ⟨here, later⟩ := List.forall_mem_cons.mp same
    rw [joined, joined, here]
    apply List.foldl_ext
    intro acc c member
    rw [joinNext, joinNext, later c member]

/-! ## Where a list is decided -/

/-- Whether all conditions joined by `and` hold. -/
def AndsHold (conditions : List Condition) : Prop :=
  ∀ c ∈ conditions, c.connective = .and → holds c = true

/-- What is joined into an outcome leaves it true, or makes it true at some `or`. -/
theorem foldl_joinNext_iff {rest : List Condition} {acc : Bool} :
    rest.foldl (joinNext holds) acc = true ↔
      (acc = true ∧ AndsHold holds rest) ∨
        ∃ front c back, rest = front ++ c :: back ∧ c.connective = .or ∧ holds c = true ∧
          AndsHold holds back := by
  induction rest generalizing acc with
  | nil => simp [AndsHold]
  | cons d rest ih =>
    rw [List.foldl_cons, ih]
    simp only [List.cons_eq_append_iff, AndsHold, List.forall_mem_cons]
    cases connective : d.connective with
    | and =>
      simp only [joinNext, connective, Bool.and_eq_true, forall_const, and_assoc]
      constructor
      · rintro (decided | ⟨front, c, back, rfl, later⟩)
        · exact .inl decided
        · exact .inr ⟨d :: front, c, back, .inr ⟨front, rfl, rfl⟩, later⟩
      · rintro (decided | ⟨front, c, back, ⟨rfl, equal⟩ | ⟨front', rfl, rfl⟩, isOr, later⟩)
        · exact .inl decided
        · cases equal
          rw [connective] at isOr
          cases isOr
        · exact .inr ⟨front', c, back, rfl, isOr, later⟩
    | or =>
      simp only [joinNext, connective, Bool.or_eq_true, reduceCtorEq, false_implies, true_and]
      constructor
      · rintro (⟨before | here, ands⟩ | ⟨front, c, back, rfl, later⟩)
        · exact .inl ⟨before, ands⟩
        · exact .inr ⟨[], d, rest, .inl ⟨rfl, rfl⟩, connective, here, ands⟩
        · exact .inr ⟨d :: front, c, back, .inr ⟨front, rfl, rfl⟩, later⟩
      · rintro (⟨before, ands⟩ | ⟨front, c, back, ⟨rfl, equal⟩ | ⟨front', rfl, rfl⟩, isOr, later⟩)
        · exact .inl ⟨.inl before, ands⟩
        · cases equal
          exact .inl ⟨.inr later.1, later.2⟩
        · exact .inr ⟨front', c, back, rfl, isOr, later⟩

/-- A list of conditions comes to true when one that starts it anew holds with every `and` after. -/
theorem joined_iff_split (conditions : List Condition) :
    joined holds conditions = true ↔
      conditions = [] ∨ ∃ front c back, conditions = front ++ c :: back ∧
        (front = [] ∨ c.connective = .or) ∧ holds c = true ∧ AndsHold holds back := by
  cases conditions with
  | nil => simp [joined]
  | cons first rest =>
    rw [joined, foldl_joinNext_iff]
    simp only [reduceCtorEq, false_or]
    constructor
    · rintro (⟨here, ands⟩ | ⟨front, c, back, rfl, isOr, later⟩)
      · exact ⟨[], first, rest, rfl, .inl rfl, here, ands⟩
      · exact ⟨first :: front, c, back, rfl, .inr isOr, later⟩
    · rintro ⟨front, c, back, equal, anew, here, ands⟩
      cases front with
      | nil =>
        cases equal
        exact .inl ⟨here, ands⟩
      | cons d front =>
        cases equal
        have isOr : c.connective = .or := anew.resolve_left (List.cons_ne_nil _ _)
        exact .inr ⟨front, c, back, rfl, isOr, here, ands⟩

/-- Conditions of which none holds do not match. -/
theorem joined_of_none {conditions : List Condition} (some : conditions ≠ [])
    (none : ∀ c ∈ conditions, holds c = false) : joined holds conditions = false := by
  rw [Bool.eq_false_iff]
  intro matched
  rcases (joined_iff_split holds conditions).mp matched with empty | ⟨_, c, _, rfl, -, here, -⟩
  · exact some empty
  · rw [none c (by simp)] at here
    cases here

/-- The same by positions. -/
theorem joined_iff (conditions : List Condition) :
    joined holds conditions = true ↔
      conditions = [] ∨ ∃ (k : Nat) (inside : k < conditions.length),
        (k = 0 ∨ conditions[k].connective = .or) ∧ holds conditions[k] = true ∧
          ∀ (j : Nat) (inside : j < conditions.length), k < j →
            conditions[j].connective = .and → holds conditions[j] = true := by
  rw [joined_iff_split]
  apply or_congr_right
  constructor
  · rintro ⟨front, c, back, rfl, anew, here, ands⟩
    have inside : front.length < (front ++ c :: back).length := by simp
    have at_ : (front ++ c :: back)[front.length] = c := by simp
    refine ⟨front.length, inside, ?_, at_.symm ▸ here, ?_⟩
    · rw [at_, List.length_eq_zero_iff]
      exact anew
    · intro j inside after isAnd
      have member : (front ++ c :: back)[j] ∈ back := by
        rw [List.getElem_append_right (by omega), List.getElem_cons, dif_neg (by omega)]
        exact List.getElem_mem _
      exact ands _ member isAnd
  · rintro ⟨k, inside, anew, here, ands⟩
    refine ⟨conditions.take k, conditions[k], conditions.drop (k + 1), ?_, ?_, here, ?_⟩
    · rw [← List.drop_eq_getElem_cons inside, List.take_append_drop]
    · rcases anew with rfl | isOr
      · exact .inl rfl
      · exact .inr isOr
    · intro c member isAnd
      obtain ⟨i, within, rfl⟩ := List.getElem_of_mem member
      rw [List.getElem_drop] at isAnd ⊢
      exact ands _ _ (by omega) isAnd

end

/-! ## Matching -/

/-- The match of conditions that are judged each alone. -/
def matchAlone (conditions : List Condition) (ctx : Context) : Match :=
  Matching.run (m := Id) (fun c => c.holds (ctx.resolve c.field)) conditions

/-- Whether each of some conditions is judged as alone, from every cache of some sort. -/
def JudgesAlone (kept : PatternCache → Prop) (conditions : List Condition) (ctx : Context) : Prop :=
  ∀ c ∈ conditions,
    Gives kept (fun cache => cache.judge c (ctx.resolve c.field)) (c.holds (ctx.resolve c.field))

theorem gives_go {kept : PatternCache → Prop} {judge : Condition → Judge Bool}
    {holds : Condition → Bool} {conditions : List Condition}
    (given : ∀ c ∈ conditions, Gives kept (judge c) (holds c)) (index : Nat)
    (p : Matching.Progress) :
    Gives kept (Matching.go judge index p conditions)
      (Matching.go (m := Id) holds index p conditions) := by
  induction conditions generalizing index p with
  | nil => exact .pure p
  | cons c rest ih =>
    obtain ⟨here, later⟩ := List.forall_mem_cons.mp given
    unfold Matching.go
    cases Matching.nextStep p.running (c.connectiveAt index) rest with
    | judge => exact here.bind (ih later _ _)
    | skip => exact ih later _ _
    | stop => exact .pure p

/-- Conditions match as they do when each is judged alone. -/
theorem gives_matchConditions {kept : PatternCache → Prop} {conditions : List Condition}
    {ctx : Context} (alone : JudgesAlone kept conditions ctx) :
    Gives kept (matchConditions conditions ctx) (matchAlone conditions ctx) := by
  unfold matchConditions matchAlone Matching.run
  split
  · exact .pure _
  · exact (gives_go alone 0 {}).bind (.pure _)

/-- Whether the flag in the text does what the option does in all patterns that some conditions
    need for a request. -/
def FlagsAgree (conditions : List Condition) (ctx : Context) : Prop :=
  ∀ c ∈ conditions, c.FlagAgrees (ctx.resolve c.field)

theorem FlagsAgree.judgesAlone {conditions : List Condition} {ctx : Context}
    (flags : FlagsAgree conditions ctx) : JudgesAlone PatternCache.Faithful conditions ctx :=
  fun c member _ faithful => faithful.judge (flags c member)

theorem usesOf_subset {list conditions : List Condition} {ctx : Context}
    (among : list ⊆ conditions) : usesOf list ctx ⊆ usesOf conditions ctx := by
  intro u member
  obtain ⟨c, inside, needed⟩ := List.mem_filterMap.mp member
  exact List.mem_filterMap.mpr ⟨c, among inside, needed⟩

theorem judgesAlone_of_servedAlike {conditions : List Condition} {ctx : Context}
    {uses : List PatternUse} (own : usesOf conditions ctx ⊆ uses)
    (alike : ∀ c ∈ conditions, c.ServedAlike uses (ctx.resolve c.field)) :
    JudgesAlone (PatternCache.UsedFor uses) conditions ctx := by
  intro c member cache used
  exact ⟨(PatternCache.servedAlike_iff c uses _).mpr (alike c member) cache used,
    used.judge fun u needed => own (List.mem_filterMap.mpr ⟨c, member, needed⟩)⟩

/-! ## The first condition -/

theorem Condition.holds_connective (c : Condition) (op : Connective) (actual : Option Value) :
    { c with connective := op }.holds actual = c.holds actual := by
  unfold holds neededPattern? judge compare
  rfl

theorem PatternCache.judge_connective (cache : PatternCache) (c : Condition) (op : Connective)
    (actual : Option Value) :
    cache.judge { c with connective := op } actual = cache.judge c actual := by
  unfold PatternCache.judge Condition.neededPattern? Condition.judge Condition.compare
  rfl

/-- The loop tells two first conditions apart only by what is judged and noted of them. -/
theorem run_first {m : Type → Type} [Monad m] {judge : Condition → m Bool}
    {first first' : Condition} (judged : judge first' = judge first)
    (noted : ∀ matched, Matching.Progress.note {} 0 first' matched =
      Matching.Progress.note {} 0 first matched) (rest : List Condition) :
    Matching.run judge (first' :: rest) = Matching.run judge (first :: rest) := by
  have next : ∀ c : Condition, Matching.nextStep none (c.connectiveAt 0) rest = .judge :=
    fun _ => rfl
  unfold Matching.run Matching.go
  simp only [next, judged, noted, List.isEmpty_cons]

/-- The connective of the first condition makes no difference to anything. -/
theorem matchConditions_first (first : Condition) (op : Connective) (rest : List Condition)
    (ctx : Context) :
    matchConditions ({ first with connective := op } :: rest) ctx =
      matchConditions (first :: rest) ctx := by
  unfold matchConditions
  apply run_first
  · funext cache
    exact cache.judge_connective first op (ctx.resolve first.field)
  · exact fun _ => rfl

/-! ## Conditions that share patterns -/

/-- Conditions that are judged each alone match if there are none, or if one that starts the list
    anew, the first or one joined by `or`, holds with every later one joined by `and`; that is what
    the fold over all of them comes to.  From every cache that was used for their patterns and some
    others, all lists of these conditions match as the fold says exactly if each of them is judged
    as alone by every pattern that may stand in the place of its own.  The connective of the first
    condition never matters. -/
theorem matchConditions_joined (conditions : List Condition) (ctx : Context)
    (others : List PatternUse) :
    let holds (c : Condition) : Bool := c.holds (ctx.resolve c.field)
    let alone := matchAlone conditions ctx
    let uses := usesOf conditions ctx ++ others
    (alone.matched = true ↔
        conditions = [] ∨ ∃ (k : Nat) (inside : k < conditions.length),
          (k = 0 ∨ conditions[k].connective = .or) ∧ holds conditions[k] = true ∧
            ∀ (j : Nat) (inside : j < conditions.length), k < j →
              conditions[j].connective = .and → holds conditions[j] = true) ∧
      alone.matched = joined holds conditions ∧
      ((∀ list ⊆ conditions, ∀ cache : PatternCache, cache.UsedFor uses →
          ((matchConditions list ctx).run cache).1.matched = joined holds list) ↔
        ∀ c ∈ conditions, c.ServedAlike uses (ctx.resolve c.field)) ∧
      ((∀ c ∈ conditions, c.ServedAlike uses (ctx.resolve c.field)) →
        ∀ cache : PatternCache, cache.UsedFor uses →
          ((matchConditions conditions ctx).run cache).1 = alone) ∧
      ∀ (first : Condition) (op : Connective) (rest : List Condition), conditions = first :: rest →
        matchConditions ({ first with connective := op } :: rest) ctx =
          matchConditions conditions ctx := by
  intro holds alone uses
  have matched (list : List Condition) : (matchAlone list ctx).matched = joined holds list :=
    matched_run holds list
  have found (served : ∀ c ∈ conditions, c.ServedAlike uses (ctx.resolve c.field)) :
      ∀ list ⊆ conditions, ∀ cache : PatternCache, cache.UsedFor uses →
        ((matchConditions list ctx).run cache).1 = matchAlone list ctx := by
    intro list among cache used
    have own : usesOf list ctx ⊆ uses :=
      List.Subset.trans (usesOf_subset among) (List.subset_append_left _ _)
    exact (gives_matchConditions
      (judgesAlone_of_servedAlike own fun c member => served c (among member)) cache used).1
  refine ⟨?_, matched conditions, ⟨fun asJoined c member => ?_, fun served => ?_⟩,
    fun served => ?_, ?_⟩
  · rw [matched]
    exact joined_iff holds conditions
  · -- a list of this condition only is judged by what stands in the cache
    refine (PatternCache.servedAlike_iff c uses _).mp fun cache used => ?_
    exact asJoined [c] (List.cons_subset.mpr ⟨member, List.nil_subset _⟩) cache used
  · intro list among cache used
    rw [found served list among cache used, matched]
  · exact found served conditions (List.Subset.refl conditions)
  · rintro first op rest rfl
    exact matchConditions_first first op rest ctx

/-- The first and the last condition share a place, where either pattern does for both. -/
theorem matchConditions_joined_shared :
    let now : Instant := ⟨0, 0, 0, by decide, by decide⟩
    let ctx : Context := { method := "GET", path := "/b", timestamp := now }
    let conditions : List Condition :=
      [{ field := "path", operator := .regex, value := .text "^/A", caseSensitive := false },
        { field := "method", operator := .equals, value := .text "GET", connective := .or },
        { field := "path", operator := .regex, value := .text "(?i)^/A", negate := true }]
    (usesOf conditions ctx).map PatternUse.key = ["(?i)^/A", "(?i)^/A"] ∧
      (∀ n, ((matchConditions conditions ctx).run (.ofCapacity n)).1 = matchAlone conditions ctx) ∧
      (matchAlone conditions ctx).matched = true := by
  intro now ctx conditions
  have served : ∀ c ∈ conditions,
      c.ServedAlike (usesOf conditions ctx ++ []) (ctx.resolve c.field) := by decide +kernel
  exact ⟨by decide +kernel,
    fun n => (matchConditions_joined conditions ctx []).2.2.2.1 served _ (.fresh n),
    by decide +kernel⟩

theorem joined_of_or (holds : Condition → Bool) (first : Condition) {second : Condition}
    (isOr : second.connective = .or) :
    joined holds [first, second] = (holds first || holds second) := by
  rw [joined, List.foldl_cons, List.foldl_nil, joinNext, isOr]

/-- Where the first of two conditions fails, the second one decides if it is joined by `or`. -/
theorem matchConditions_of_failed {first second : Condition} {ctx : Context}
    {cache after : PatternCache} {last : Bool × PatternCache}
    (failed : cache.judge first (ctx.resolve first.field) = (false, after))
    (judged : after.judge second (ctx.resolve second.field) = last)
    (isOr : second.connective = .or) :
    let m := (matchConditions [first, second] ctx).run cache
    m.1.matched = last.1 ∧ m.2 = last.2 := by
  intro m
  subst judged
  let judge : Condition → Judge Bool := fun c cache => cache.judge c (ctx.resolve c.field)
  have own : second.connectiveAt 1 = .or := isOr
  have start : m = (do
      let p ← Matching.go judge 1 (Matching.Progress.note {} 0 first
        (cache.judge first (ctx.resolve first.field)).1) [second]
      return ⟨p.running.getD false, p.hits, p.evaluated⟩ : Judge Match).run
        (cache.judge first (ctx.resolve first.field)).2 := rfl
  have noted (matched : Bool) : (Matching.Progress.note (Matching.Progress.note {} 0 first false) 1
      second matched).running = some matched := by
    rw [Matching.Progress.note, own]
    rfl
  rw [start, failed, Matching.go, own]
  exact ⟨congrArg (Option.getD · false) (noted _), rfl⟩

/-- The same pattern with the flag and with the option: with the flag it nests too deep, which is
    what is kept of it, so that the second condition does not match. -/
theorem matchConditions_flag_in_place :
    let now : Instant := ⟨0, 0, 0, by decide, by decide⟩
    let ctx : Context := { path := "/a", timestamp := now }
    let first := Condition.onPath true ("(?i)" ++ Pattern.deepest)
    let second := { Condition.onPath false Pattern.deepest with connective := .or }
    (∀ n, ((matchConditions [first, second] ctx).run (.ofCapacity n)).1.matched = false) ∧
      second.holds (ctx.resolve second.field) = true ∧
      joined (fun c => c.holds (ctx.resolve c.field)) [first, second] = true := by
  intro now ctx first second
  have path : ctx.resolve "path" = some (.text "/a") := rfl
  have alone : second.holds (ctx.resolve "path") = true := by
    rw [path, Condition.holds_connective]
    exact (Condition.judge_deepest 0).2.2
  refine ⟨fun n => ?_, alone, ?_⟩
  · obtain ⟨failed, refused, -⟩ := Condition.judge_deepest n
    rw [← path] at failed refused
    rw [← PatternCache.judge_connective _ _ .or] at refused
    rw [(matchConditions_of_failed (Prod.ext failed rfl) rfl rfl).1]
    exact refused
  · rw [joined_of_or _ first rfl, Bool.or_eq_true_iff]
    exact .inr alone

end Verdict
