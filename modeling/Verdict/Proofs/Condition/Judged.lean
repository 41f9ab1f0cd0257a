import Verdict.Proofs.Condition.Joined

/-!
# Which conditions of a list are judged

The loop that matches conditions passes over those that cannot change the outcome so far, and ends
early when none that is left can.  `judgedOf` says which are left over, without any loop: the first
one, and each later one whose connective lets it change the outcome of all conditions before it.
`go_judges` follows the loop from any point on, over any cache: it judges these and no others, in
turn, so that nothing a later `or` needs is ever lost (`matchConditions_judges`).
-/

namespace Verdict

/-! ## Conditions in their places -/

/-- A condition and its position in a list. -/
abbrev Placed := Condition × Nat

/-- The outcome of conditions joined from left to right, given what the one at each position comes
    to. -/
def joinedPlaced (outcome : Nat → Bool) : List Placed → Bool
  | [] => true
  | (_, first) :: rest =>
      rest.foldl (fun acc x =>
        match x.1.connective with
        | .and => acc && outcome x.2
        | .or => acc || outcome x.2) (outcome first)

/-- Whether a condition of a list can change the outcome of those before it. -/
def canChange (outcome : Nat → Bool) (conditions : List Condition) (x : Placed) : Bool :=
  let acc := joinedPlaced outcome (conditions.zipIdx.take x.2)
  x.2 == 0 ||
    match x.1.connective with
    | .and => acc
    | .or => !acc

/-- The conditions of a list that can change the outcome, in their order. -/
def judgedOf (outcome : Nat → Bool) (conditions : List Condition) : List Placed :=
  conditions.zipIdx.filter (canChange outcome conditions)

/-- A condition as a hit. -/
def hitOf (x : Placed) : Hit :=
  ⟨x.2, x.1.field, x.1.operator, x.1.weight⟩

/-- The call that judges a condition for a request. -/
def callOf (ctx : Context) (x : Placed) : PatternCache.Call :=
  .judge x.1 (ctx.resolve x.1.field)

/-- What is replied to that call, given what the condition comes to. -/
def replyOf (outcome : Nat → Bool) (x : Placed) : Option Condition.Finding :=
  some (x.1.finding (outcome x.2))

/-- The cache after some calls. -/
def PatternCache.afterCalls (cache : PatternCache) (calls : List Call) : PatternCache :=
  calls.foldl (fun cache call => (cache.serve call).after) cache

section

variable {outcome outcome' : Nat → Bool}

/-- One more condition is joined by its connective. -/
theorem joinedPlaced_concat {front : List Placed} (some : front ≠ []) (x : Placed) :
    joinedPlaced outcome (front ++ [x]) =
      match x.1.connective with
      | .and => joinedPlaced outcome front && outcome x.2
      | .or => joinedPlaced outcome front || outcome x.2 := by
  cases front with
  | nil => exact absurd rfl some
  | cons first rest =>
    simp only [joinedPlaced, List.cons_append, List.foldl_append, List.foldl_cons, List.foldl_nil]

/-- The outcome depends on what the conditions of the list come to only. -/
theorem joinedPlaced_congr {placed : List Placed}
    (same : ∀ x ∈ placed, outcome x.2 = outcome' x.2) :
    joinedPlaced outcome placed = joinedPlaced outcome' placed := by
  cases placed with
  | nil => rfl
  | cons first rest =>
    obtain ⟨here, later⟩ := List.forall_mem_cons.mp same
    rw [joinedPlaced, joinedPlaced, here]
    apply List.foldl_ext
    intro acc x member
    rw [later x member]

/-- Conditions that come to what they come to alone are joined as `joined` says. -/
theorem joinedPlaced_eq_joined {holds : Condition → Bool} {conditions : List Condition}
    (alone : ∀ x ∈ conditions.zipIdx, outcome x.2 = holds x.1) :
    joinedPlaced outcome conditions.zipIdx = joined holds conditions := by
  have own : joinedPlaced outcome conditions.zipIdx =
      joined (fun x : Condition => holds x) (conditions.zipIdx.map Prod.fst) := by
    generalize conditions.zipIdx = placed at alone
    cases placed with
    | nil => rfl
    | cons first rest =>
      obtain ⟨here, later⟩ := List.forall_mem_cons.mp alone
      rw [joinedPlaced, List.map_cons, joined, List.foldl_map, here]
      apply List.foldl_ext
      intro acc x member
      rw [later x member]
      rfl
  rw [own, List.zipIdx_map_fst]

end

/-! ## The loop -/

/-- The outcome so far of the conditions in front; before the first one there is none. -/
def runningOf (outcome : Nat → Bool) (front : List Condition) : Option Bool :=
  if front.isEmpty then none else some (joinedPlaced outcome front.zipIdx)

theorem runningOf_cons (outcome : Nat → Bool) (first : Condition) (front : List Condition) :
    runningOf outcome (first :: front) = some (joinedPlaced outcome (first :: front).zipIdx) :=
  rfl

theorem runningOf_concat (outcome : Nat → Bool) (front : List Condition) (c : Condition) :
    runningOf outcome (front ++ [c]) =
      some ((c.connectiveAt front.length).join (runningOf outcome front)
        (outcome front.length)) := by
  have last : (front ++ [c]).zipIdx = front.zipIdx ++ [(c, front.length)] := by
    simp [List.zipIdx_append]
  cases front with
  | nil => rfl
  | cons first front =>
    have here : (first :: front).zipIdx ≠ [] := by simp
    have own : c.connectiveAt (first :: front).length = c.connective := rfl
    rw [List.cons_append, runningOf_cons, ← List.cons_append, last, joinedPlaced_concat here, own,
      runningOf_cons]
    cases c.connective <;> rfl

theorem runningOf_congr {outcome outcome' : Nat → Bool} {front : List Condition}
    (same : ∀ j < front.length, outcome j = outcome' j) :
    runningOf outcome front = runningOf outcome' front := by
  have placed : joinedPlaced outcome front.zipIdx = joinedPlaced outcome' front.zipIdx :=
    joinedPlaced_congr fun x member => same _ (List.snd_lt_of_mem_zipIdx member)
  rw [runningOf, runningOf, placed]

/-- A condition can change the outcome where the loop does not pass over it. -/
theorem canChange_eq (outcome : Nat → Bool) (front : List Condition) (c : Condition)
    (rest : List Condition) :
    canChange outcome (front ++ c :: rest) (c, front.length) =
      (Matching.nextStep (runningOf outcome front) (c.connectiveAt front.length) rest ==
        .judge) := by
  have before : (front ++ c :: rest).zipIdx.take front.length = front.zipIdx := by
    simp [List.zipIdx_append]
  cases front with
  | nil => rfl
  | cons first front =>
    have own : c.connectiveAt (first :: front).length = c.connective := rfl
    rw [canChange, before, own, runningOf_cons]
    cases c.connective <;> cases joinedPlaced outcome (first :: front).zipIdx <;>
      cases more : Matching.hasLaterOr rest <;> simp [Matching.nextStep, more]

/-- A false outcome that only conditions joined by `and` follow is final: none of them can change
    it. -/
theorem final_of_false (outcome : Nat → Bool) {rest : List Condition}
    (noOr : Matching.hasLaterOr rest = false) {front : List Condition}
    (isFalse : runningOf outcome front = some false) :
    runningOf outcome (front ++ rest) = some false ∧
      (rest.zipIdx front.length).filter (canChange outcome (front ++ rest)) = [] := by
  induction rest generalizing front with
  | nil => simpa using isFalse
  | cons c rest ih =>
    simp only [Matching.hasLaterOr, List.any_cons, Bool.or_eq_false_iff,
      beq_eq_false_iff_ne] at noOr
    obtain ⟨notOr, later⟩ := noOr
    have isAnd : c.connectiveAt front.length = .and := by
      unfold Condition.connectiveAt
      cases connective : c.connective with
      | and => split <;> rfl
      | or => exact absurd connective notOr
    have still : runningOf outcome (front ++ [c]) = some false := by
      rw [runningOf_concat, isFalse, isAnd]
      rfl
    have fixed : canChange outcome (front ++ c :: rest) (c, front.length) = false := by
      rw [canChange_eq, isFalse, isAnd]
      cases more : Matching.hasLaterOr rest <;> simp [Matching.nextStep, more]
    obtain ⟨running, none⟩ := ih later still
    rw [List.append_assoc, List.singleton_append] at running none
    rw [List.length_append, List.length_singleton] at none
    refine ⟨running, ?_⟩
    rw [List.zipIdx_cons, List.filter_cons_of_neg (by simp [fixed])]
    exact none

/-- What the loop does from some point on: it judges some conditions over a cache, one after the
    other, and takes down what they come to. -/
structure Judges (ctx : Context) (outcome : Nat → Bool) (judged : List Placed)
    (cache : PatternCache) (p : Matching.Progress) (result : Matching.Progress × PatternCache) :
    Prop where
  replies : (cache.turns (judged.map (callOf ctx))).map PatternCache.Turn.reply =
    judged.map (replyOf outcome)
  cache : result.2 = cache.afterCalls (judged.map (callOf ctx))
  hits : result.1.hits = p.hits ++ (judged.filter fun x => outcome x.2).map hitOf
  evaluated : result.1.evaluated = p.evaluated + judged.length

theorem Judges.nil (ctx : Context) (outcome : Nat → Bool) (cache : PatternCache)
    (p : Matching.Progress) : Judges ctx outcome [] cache p (p, cache) :=
  ⟨rfl, rfl, by simp, rfl⟩

theorem Judges.cons {ctx : Context} {outcome : Nat → Bool} {x : Placed} {judged : List Placed}
    {cache : PatternCache} {p : Matching.Progress} {result : Matching.Progress × PatternCache}
    (here : (cache.judge x.1 (ctx.resolve x.1.field)).1 = outcome x.2)
    (later : Judges ctx outcome judged (cache.judge x.1 (ctx.resolve x.1.field)).2
      (p.note x.2 x.1 (outcome x.2)) result) :
    Judges ctx outcome (x :: judged) cache p result := by
  obtain ⟨replies, after, hits, evaluated⟩ := later
  refine ⟨?_, after, ?_, ?_⟩
  · rw [List.map_cons, List.map_cons, PatternCache.turns, List.map_cons]
    refine congrArg₂ List.cons ?_ replies
    rw [replyOf, ← here]
    rfl
  · rw [hits, Matching.Progress.note, List.filter_cons]
    cases outcome x.2 <;> simp [hitOf]
  · have one : (p.note x.2 x.1 (outcome x.2)).evaluated = p.evaluated + 1 := rfl
    rw [evaluated, one, List.length_cons]
    omega

/-- The judge that keeps patterns. -/
def judgeBy (ctx : Context) (c : Condition) : Judge Bool :=
  fun cache => cache.judge c (ctx.resolve c.field)

/-- A condition that is passed over would not change the outcome, whatever it came to. -/
theorem join_of_not_judged {running : Option Bool} {op : Connective} {rest : List Condition}
    (passed : Matching.nextStep running op rest ≠ .judge) (matched : Bool) :
    some (op.join running matched) = running := by
  cases running with
  | none => exact absurd rfl passed
  | some acc =>
    cases acc <;> cases op <;> first | rfl | exact absurd rfl passed

/-- The loop ends early only at a false outcome that no condition left joins by `or`. -/
theorem final_of_stop {outcome : Nat → Bool} {front : List Condition} {c : Condition}
    {rest : List Condition} (step : Matching.nextStep (runningOf outcome front)
      (c.connectiveAt front.length) rest = .stop) :
    runningOf outcome front = some false ∧ Matching.hasLaterOr (c :: rest) = false := by
  cases front with
  | nil => cases step
  | cons first front =>
    have own : c.connectiveAt (first :: front).length = c.connective := rfl
    rw [own, runningOf_cons] at step
    rw [runningOf_cons]
    cases acc : joinedPlaced outcome (first :: front).zipIdx <;>
      cases connective : c.connective <;> cases more : Matching.hasLaterOr rest <;>
      simp only [acc, connective, more, Matching.nextStep, reduceCtorEq, if_true, if_false,
        Bool.false_eq_true] at step
    refine ⟨rfl, ?_⟩
    rw [Matching.hasLaterOr, List.any_cons, connective]
    exact more

/-- The loop from some point on, over the conditions `rest` after those in `front`.  `known` has
    what those in front came to, and of the others what they would come to alone; `outcome` corrects
    it where a condition is judged. -/
structure GoesOn (ctx : Context) (front rest : List Condition) (known outcome : Nat → Bool)
    (p : Matching.Progress) (cache : PatternCache) : Prop where
  before : ∀ j < front.length, outcome j = known j
  judges : Judges ctx outcome
    ((rest.zipIdx front.length).filter (canChange outcome (front ++ rest))) cache p
    ((Matching.go (judgeBy ctx) front.length p rest).run cache)
  running : ((Matching.go (judgeBy ctx) front.length p rest).run cache).1.running =
    runningOf outcome (front ++ rest)
  unjudged : ∀ x ∈ rest.zipIdx front.length, canChange outcome (front ++ rest) x = false →
    outcome x.2 = x.1.holds (ctx.resolve x.1.field)

section

variable {ctx : Context} {front rest : List Condition} {c : Condition} {known outcome : Nat → Bool}
  {p : Matching.Progress} {cache : PatternCache}

theorem goesOn_nil (running : p.running = runningOf known front) :
    GoesOn ctx front [] known known p cache := by
  refine ⟨fun _ _ => rfl, Judges.nil ctx known cache p, ?_, by simp⟩
  rw [List.append_nil]
  exact running

/-- The loop ends: none of the conditions left can change the outcome. -/
theorem goesOn_of_stop (running : p.running = runningOf known front)
    (alone : ∀ x ∈ (c :: rest).zipIdx front.length,
      known x.2 = x.1.holds (ctx.resolve x.1.field))
    (step : Matching.nextStep (runningOf known front) (c.connectiveAt front.length) rest = .stop) :
    GoesOn ctx front (c :: rest) known known p cache := by
  obtain ⟨isFalse, noOr⟩ := final_of_stop step
  obtain ⟨final, none⟩ := final_of_false known noOr isFalse
  have ends : (Matching.go (judgeBy ctx) front.length p (c :: rest)).run cache = (p, cache) := by
    rw [Matching.go, running, step]
    rfl
  refine ⟨fun _ _ => rfl, ?_, ?_, fun x member _ => alone x member⟩
  · rw [none, ends]
    exact Judges.nil ctx known cache p
  · rw [ends, final, ← isFalse]
    exact running

/-- The loop passes over a condition, which cannot change the outcome. -/
theorem goesOn_of_skip (running : p.running = runningOf known front)
    (here : known front.length = c.holds (ctx.resolve c.field))
    (step : Matching.nextStep (runningOf known front) (c.connectiveAt front.length) rest = .skip)
    (later : GoesOn ctx (front ++ [c]) rest known outcome p cache) :
    GoesOn ctx front (c :: rest) known outcome p cache := by
  obtain ⟨same, judges, after, unjudged⟩ := later
  rw [List.length_append, List.length_singleton, List.append_assoc, List.singleton_append] at *
  have before : runningOf outcome front = runningOf known front :=
    runningOf_congr fun j inFront => same j (by omega)
  have fixed : canChange outcome (front ++ c :: rest) (c, front.length) = false := by
    rw [canChange_eq, before, step]
    rfl
  have goes : Matching.go (judgeBy ctx) front.length p (c :: rest) =
      Matching.go (judgeBy ctx) (front.length + 1) p rest := by
    rw [Matching.go, running, step]
  refine ⟨fun j inFront => same j (by omega), ?_, ?_, ?_⟩
  · rw [List.zipIdx_cons, List.filter_cons_of_neg (by simp [fixed]), goes]
    exact judges
  · rw [goes]
    exact after
  · rw [List.zipIdx_cons, List.forall_mem_cons]
    exact ⟨fun _ => (same _ (by omega)).trans here, unjudged⟩

/-- The loop judges a condition, which can change the outcome. -/
theorem goesOn_of_judge (running : p.running = runningOf known front)
    (step : Matching.nextStep (runningOf known front) (c.connectiveAt front.length) rest = .judge)
    {matched : Bool} {after : PatternCache}
    (judged : cache.judge c (ctx.resolve c.field) = (matched, after))
    (later : GoesOn ctx (front ++ [c]) rest (Function.update known front.length matched) outcome
      (p.note front.length c matched) after) :
    GoesOn ctx front (c :: rest) known outcome p cache := by
  obtain ⟨same, judges, ends, unjudged⟩ := later
  rw [List.length_append, List.length_singleton, List.append_assoc, List.singleton_append] at *
  have inFront : ∀ j < front.length, outcome j = known j := fun j bound =>
    (same j (by omega)).trans (Function.update_of_ne (by omega) _ _)
  have own : outcome front.length = matched :=
    (same _ (by omega)).trans (Function.update_self _ _ _)
  have changes : canChange outcome (front ++ c :: rest) (c, front.length) = true := by
    rw [canChange_eq, runningOf_congr inFront, step]
    rfl
  have goes : (Matching.go (judgeBy ctx) front.length p (c :: rest)).run cache =
      (Matching.go (judgeBy ctx) (front.length + 1) (p.note front.length c matched) rest).run
        after := by
    rw [Matching.go, running, step, StateT.run_bind]
    simp only [judgeBy, StateT.run, judged]
    rfl
  refine ⟨inFront, ?_, ?_, ?_⟩
  · rw [List.zipIdx_cons, List.filter_cons_of_pos changes, goes]
    refine Judges.cons (by rw [judged, own]) ?_
    rw [judged, own]
    exact judges
  · rw [goes]
    exact ends
  · rw [List.zipIdx_cons, List.forall_mem_cons]
    exact ⟨fun fixed => absurd (changes.symm.trans fixed) (by simp), unjudged⟩

end

/-- From any point on, the loop judges exactly the conditions that can change the outcome. -/
theorem go_judges (ctx : Context) (rest : List Condition) {front : List Condition}
    {known : Nat → Bool} {p : Matching.Progress} (cache : PatternCache)
    (running : p.running = runningOf known front)
    (alone : ∀ x ∈ rest.zipIdx front.length, known x.2 = x.1.holds (ctx.resolve x.1.field)) :
    ∃ outcome : Nat → Bool, GoesOn ctx front rest known outcome p cache := by
  induction rest generalizing front known p cache with
  | nil => exact ⟨known, goesOn_nil running⟩
  | cons c rest ih =>
    have length_c : (front ++ [c]).length = front.length + 1 := by simp
    have here : known front.length = c.holds (ctx.resolve c.field) :=
      alone (c, front.length) (by simp)
    have others : ∀ x ∈ rest.zipIdx (front ++ [c]).length,
        known x.2 = x.1.holds (ctx.resolve x.1.field) := by
      rw [length_c]
      exact fun x member => alone x (by simp [List.zipIdx_cons, member])
    cases step : Matching.nextStep (runningOf known front) (c.connectiveAt front.length) rest with
    | stop => exact ⟨known, goesOn_of_stop running alone step⟩
    | skip =>
      have notJudged : Matching.nextStep (runningOf known front) (c.connectiveAt front.length)
          rest ≠ .judge := by
        rw [step]
        decide
      have passed : runningOf known (front ++ [c]) = runningOf known front := by
        rw [runningOf_concat]
        exact join_of_not_judged notJudged _
      obtain ⟨outcome, later⟩ := ih cache (running.trans passed.symm) others
      exact ⟨outcome, goesOn_of_skip running here step later⟩
    | judge =>
      cases judged : cache.judge c (ctx.resolve c.field) with
      | mk matched after =>
        let found := Function.update known front.length matched
        have inFront : runningOf found front = runningOf known front :=
          runningOf_congr fun j bound => Function.update_of_ne (by omega) _ _
        have noted : (p.note front.length c matched).running = runningOf found (front ++ [c]) := by
          have own : found front.length = matched := Function.update_self _ _ _
          rw [runningOf_concat, inFront, own, ← running]
          rfl
        have later : ∀ x ∈ rest.zipIdx (front ++ [c]).length,
            found x.2 = x.1.holds (ctx.resolve x.1.field) := fun x member => by
          have beyond := List.le_snd_of_mem_zipIdx member
          rw [← others x member]
          exact Function.update_of_ne (by omega) _ _
        obtain ⟨outcome, goes⟩ := ih after noted later
        exact ⟨outcome, goesOn_of_judge running step judged goes⟩

/-! ## Matching -/

/-- The outcome of the first `j` conditions of a list. -/
def outcomeOfFirst (outcome : Nat → Bool) (conditions : List Condition) (j : Nat) : Bool :=
  joinedPlaced outcome (conditions.zipIdx.take j)

/-- Where each condition comes to what it would be alone, so do the first ones together. -/
theorem outcomeOfFirst_of_alone {outcome : Nat → Bool} {holds : Condition → Bool}
    {conditions : List Condition} (alone : ∀ x ∈ conditions.zipIdx, outcome x.2 = holds x.1)
    (j : Nat) : outcomeOfFirst outcome conditions j = joined holds (conditions.take j) := by
  have first : conditions.zipIdx.take j = (conditions.take j).zipIdx := by
    apply List.ext_getElem?
    intro i
    rw [List.getElem?_take, List.getElem?_zipIdx, List.getElem?_zipIdx, List.getElem?_take]
    split <;> rfl
  rw [outcomeOfFirst, first]
  refine joinedPlaced_eq_joined fun x member => alone x ?_
  rw [← first] at member
  exact List.mem_of_mem_take member

theorem mem_judgedOf {outcome : Nat → Bool} {conditions : List Condition} {x : Placed} :
    x ∈ judgedOf outcome conditions ↔ x ∈ conditions.zipIdx ∧
      (x.2 = 0 ∨ x.1.connective = .and ∧ outcomeOfFirst outcome conditions x.2 = true ∨
        x.1.connective = .or ∧ outcomeOfFirst outcome conditions x.2 = false) := by
  rw [judgedOf, List.mem_filter, canChange]
  apply and_congr_right
  intro _
  rw [outcomeOfFirst]
  cases x.1.connective <;> simp

theorem ascending_judgedOf (outcome : Nat → Bool) (conditions : List Condition) :
    (judgedOf outcome conditions).Pairwise fun x y => x.2 < y.2 := by
  apply List.Pairwise.filter
  rw [← List.pairwise_map, List.zipIdx_map_snd]
  exact List.pairwise_lt_range'

/-- A list with conditions is matched by the loop from its start. -/
theorem matchConditions_run {conditions : List Condition} (some : conditions ≠ []) (ctx : Context)
    (cache : PatternCache) :
    let ended := (Matching.go (judgeBy ctx) 0 {} conditions).run cache
    (matchConditions conditions ctx).run cache =
      (⟨ended.1.running.getD false, ended.1.hits, ended.1.evaluated⟩, ended.2) := by
  intro ended
  have nonempty : ¬ conditions.isEmpty = true := by simpa using some
  rw [matchConditions, Matching.run, if_neg nonempty]
  rfl

/-- What judging alone comes to is found where kept patterns judge as they compile. -/
theorem outcome_of_faithful {ctx : Context} {conditions : List Condition} {cache : PatternCache}
    {outcome : Nat → Bool} {judged : List Placed} (flags : FlagsAgree conditions ctx)
    (faithful : cache.Faithful) (inside : ∀ x ∈ judged, x.1 ∈ conditions)
    (replies : (cache.turns (judged.map (callOf ctx))).map PatternCache.Turn.reply =
      judged.map (replyOf outcome)) :
    ∀ x ∈ judged, outcome x.2 = x.1.holds (ctx.resolve x.1.field) := by
  have agree : ∀ c actual, .judge c actual ∈ judged.map (callOf ctx) → c.FlagAgrees actual := by
    intro c actual member
    obtain ⟨x, among, equal⟩ := List.mem_map.mp member
    cases equal
    exact flags x.1 (inside x among)
  rw [faithful.turns agree, List.map_map] at replies
  intro x among
  have reply := List.map_inj_left.mp replies x among
  exact (congrArg Condition.Finding.matched (Option.some.inj reply)).symm

/-- Matching comes to what the loop takes down. -/
theorem matchConditions_of_goesOn {conditions : List Condition} {ctx : Context}
    {known outcome : Nat → Bool} {cache : PatternCache}
    (goes : GoesOn ctx [] conditions known outcome {} cache) :
    (matchConditions conditions ctx).run cache =
      (⟨outcomeOfFirst outcome conditions conditions.length,
          ((judgedOf outcome conditions).filter fun x => outcome x.2).map hitOf,
          (judgedOf outcome conditions).length⟩,
        cache.afterCalls ((judgedOf outcome conditions).map (callOf ctx))) := by
  cases conditions with
  | nil => rfl
  | cons first rest =>
    obtain ⟨-, judges, running, -⟩ := goes
    have all : (first :: rest).zipIdx.take (first :: rest).length = (first :: rest).zipIdx :=
      List.take_of_length_le (by simp)
    have known : ((Matching.go (judgeBy ctx) 0 {} (first :: rest)).run cache).1.running =
        some (outcomeOfFirst outcome (first :: rest) (first :: rest).length) := by
      rw [outcomeOfFirst, all]
      exact running
    have hits := judges.hits
    have evaluated := judges.evaluated
    rw [List.nil_append] at hits
    rw [Nat.zero_add] at evaluated
    rw [matchConditions_run (List.cons_ne_nil _ _), known]
    exact Prod.ext (congrArg₂ (Match.mk _) hits evaluated) judges.cache

/-- Over every cache, matching judges the first condition and those later ones that are joined by
    `and` into an outcome that is true so far, or by `or` into one that is false; it judges no
    others, and leaves the cache as these leave it.  It counts them, and its hits are those of them
    that match.  `outcome` has what each condition is found to be when it is judged, and what it
    would be alone when it is not; where kept patterns judge as they compile it is what each
    condition would be alone. -/
theorem matchConditions_judges (conditions : List Condition) (ctx : Context)
    (cache : PatternCache) :
    ∃ outcome : Nat → Bool,
      let judged := judgedOf outcome conditions
      let calls := judged.map (callOf ctx)
      let result := (matchConditions conditions ctx).run cache
      (∀ x, x ∈ judged ↔ x ∈ conditions.zipIdx ∧
        (x.2 = 0 ∨ x.1.connective = .and ∧ outcomeOfFirst outcome conditions x.2 = true ∨
          x.1.connective = .or ∧ outcomeOfFirst outcome conditions x.2 = false)) ∧
      (cache.turns calls).map PatternCache.Turn.reply = judged.map (replyOf outcome) ∧
      result.2 = cache.afterCalls calls ∧
      result.1.evaluated = judged.length ∧
      result.1.hits = (judged.filter fun x => outcome x.2).map hitOf ∧
      result.1.hits.Pairwise (fun h h' => h.index < h'.index) ∧
      result.1.matched = outcomeOfFirst outcome conditions conditions.length ∧
      (∀ x ∈ conditions.zipIdx, x ∉ judged → outcome x.2 = x.1.holds (ctx.resolve x.1.field)) ∧
      (FlagsAgree conditions ctx → cache.Faithful →
        (∀ x ∈ conditions.zipIdx, outcome x.2 = x.1.holds (ctx.resolve x.1.field)) ∧
          ∀ j, outcomeOfFirst outcome conditions j =
            joined (fun c => c.holds (ctx.resolve c.field)) (conditions.take j)) := by
  let known : Nat → Bool := fun j => conditions[j]?.any fun c => c.holds (ctx.resolve c.field)
  have alone : ∀ x ∈ conditions.zipIdx, known x.2 = x.1.holds (ctx.resolve x.1.field) := by
    intro x member
    simp only [known, List.mem_zipIdx_iff_getElem?.mp member, Option.any_some]
  obtain ⟨outcome, goes⟩ : ∃ outcome, GoesOn ctx [] conditions known outcome {} cache :=
    go_judges ctx conditions cache rfl alone
  refine ⟨outcome, ?_⟩
  intro judged calls result
  have reported : result = _ := matchConditions_of_goesOn goes
  have replies : (cache.turns calls).map PatternCache.Turn.reply = judged.map (replyOf outcome) :=
    goes.judges.replies
  have unjudged : ∀ x ∈ conditions.zipIdx, x ∉ judged →
      outcome x.2 = x.1.holds (ctx.resolve x.1.field) := by
    intro x member absent
    refine goes.unjudged x member (Bool.not_eq_true _ ▸ fun changes => ?_)
    exact absent (List.mem_filter.mpr ⟨member, changes⟩)
  refine ⟨fun x => mem_judgedOf, replies, by rw [reported], by rw [reported], by rw [reported], ?_,
    by rw [reported], unjudged, ?_⟩
  · rw [reported, List.pairwise_map]
    exact (ascending_judgedOf outcome conditions).filter _
  · intro flags faithful
    have alone : ∀ x ∈ conditions.zipIdx, outcome x.2 = x.1.holds (ctx.resolve x.1.field) := by
      intro x member
      by_cases among : x ∈ judged
      · refine outcome_of_faithful flags faithful (fun y inside => ?_) replies x among
        exact List.fst_mem_of_mem_zipIdx (mem_judgedOf.mp inside).1
      · exact unjudged x member among
    exact ⟨alone, outcomeOfFirst_of_alone alone⟩

end Verdict
