import Verdict.Condition.Evaluation
import Verdict.Context
import Verdict.Number.Scalar

/-!
# Matching lists of conditions

Conditions are joined strictly from left to right by the connective of each; there is no
precedence.  `matchConditions` skips a condition that cannot change the outcome so far, and stops
when no later condition can.  The confidence of a match weighs the conditions that matched.
-/

namespace Verdict

/-- A condition that matched, by its position. -/
structure Hit where
  index : Nat
  field : String
  operator : Operator
  weight : Float
  deriving Repr, BEq

/-- The JSON form of a hit. -/
def Hit.toJson (h : Hit) : Json :=
  .obj [("index", .ofNat h.index), ("field", .str h.field), ("operator", Named.toJson h.operator)]

/-- The outcome of a list of conditions: the hits, and how many conditions were judged. -/
structure Match where
  matched : Bool
  hits : List Hit
  evaluated : Nat
  deriving Repr, BEq

/-- A judge of conditions, which may keep patterns. -/
abbrev Judge := StateM PatternCache

/-- The connective of the condition at a position; that of the first one does not count. -/
def Condition.connectiveAt (c : Condition) (index : Nat) : Connective :=
  if index == 0 then .and else c.connective

/-- The outcome so far joined with that of one more condition. -/
def Connective.join (op : Connective) (running : Option Bool) (matched : Bool) : Bool :=
  match running with
  | none => matched
  | some acc =>
      match op with
      | .and => acc && matched
      | .or => acc || matched

namespace Matching

/-- What is known after some conditions: the outcome so far, the hits, and how many conditions
    were judged. -/
structure Progress where
  running : Option Bool := none
  hits : List Hit := []
  evaluated : Nat := 0

/-- What to do with the next condition. -/
inductive Step where
  | judge
  | skip
  | stop
  deriving DecidableEq

/-- Whether some condition after the first `index` joins with `or`. -/
def hasLaterOr : List Condition → Bool
  | cs => cs.any fun c => c.connective == .or

/-- A false outcome cannot be changed by `and`, nor a true one by `or`; it is final when only
    such conditions follow. -/
def nextStep (running : Option Bool) (op : Connective) (rest : List Condition) : Step :=
  match running, op with
  | some false, .and => if hasLaterOr rest then .skip else .stop
  | some true, .or => .skip
  | _, _ => .judge

/-- Notes the outcome of one condition. -/
def Progress.note (p : Progress) (index : Nat) (c : Condition) (matched : Bool) : Progress where
  running := some ((c.connectiveAt index).join p.running matched)
  hits := if matched then p.hits ++ [⟨index, c.field, c.operator, c.weight⟩] else p.hits
  evaluated := p.evaluated + 1

/-- Goes through the conditions from a position on. -/
def go {m : Type → Type} [Monad m] (judge : Condition → m Bool) (index : Nat) (p : Progress) :
    List Condition → m Progress
  | [] => pure p
  | c :: rest =>
      match nextStep p.running (c.connectiveAt index) rest with
      | .stop => pure p
      | .skip => go judge (index + 1) p rest
      | .judge => do
          let matched ← judge c
          go judge (index + 1) (p.note index c matched) rest

/-- The outcome of a list of conditions under a judge.  The empty list matches. -/
def run {m : Type → Type} [Monad m] (judge : Condition → m Bool) (conditions : List Condition) :
    m Match :=
  if conditions.isEmpty then pure ⟨true, [], 0⟩
  else do
    let p ← go judge 0 {} conditions
    return ⟨p.running.getD false, p.hits, p.evaluated⟩

end Matching

/-- Matches conditions against a context with compiled patterns kept. -/
def matchConditions (conditions : List Condition) (ctx : Context) : Judge Match :=
  Matching.run (fun c => fun cache => cache.judge c (ctx.resolve c.field)) conditions

/-- The confidence of a match: the weight of its hits over the weight of all conditions, at most
    one.  A match whose conditions have no weight is certain. -/
def Match.confidence {ν : Type} [Scalar ν] (m : Match) (conditions : List Condition) : ν :=
  let one : ν := Scalar.nat 1
  let total : ν := Scalar.sum (conditions.map fun c => Scalar.ofFloat c.weight)
  if !m.matched then Scalar.nat 0
  else if Scalar.less (Scalar.nat 0) total then
    let share := Scalar.sum (m.hits.map fun h => Scalar.ofFloat h.weight) / total
    if Scalar.less share one then share else one
  else one

end Verdict
