import Verdict.Decision

/-!
# Resolution of rules into a decision

The rules that apply to a request are evaluated by priority, highest first.  The first one that
matches with a block or an allow action fixes whether the request is allowed; actions of warning
raise the level to a warning where it is still to allow; a fail-fast rule that blocks ends the
evaluation, whether or not it fixed anything.
-/

namespace Verdict

/-- The rules that apply to a request, in the order of their evaluation. -/
def applicableRules (rules : List Rule) (ctx : Context) : List Rule :=
  sortByPriority Rule.priority (rules.filter fun r => r.isApplicable ctx)

/-- Whether a rule, once it matches, ends the evaluation: it is fail-fast and blocks. -/
def Rule.cuts (r : Rule) : Bool :=
  r.failFast && hasEffect r.enabledActions .deny

/-- What is known after some rules were evaluated. -/
structure Resolution where
  allow : Bool := true
  level : Level := .allow
  verdictFixed : Bool := false
  denyReason : Option String := none
  warnReason : Option String := none
  reasons : List String := []
  matched : List MatchedRule := []
  evaluated : Nat := 0
  shortCircuited : Bool := false

namespace Resolution

/-- What is noted of a rule that matched. -/
def noteOf (vocabulary : Vocabulary) (verdictFixed : Bool) (r : Rule) : String :=
  let actions := r.enabledActions
  let deny := hasEffect actions .deny
  if !vocabulary.enforces then s!"{r.name}: {vocabulary.label .warn}"
  else if deny && !verdictFixed then s!"{r.name}: {vocabulary.label .deny}"
  else if deny then s!"{r.name}: deny ignored, verdict fixed by higher priority rule"
  else if hasEffect actions .allow && !verdictFixed then
    s!"{r.name}: {vocabulary.label .allow}"
  else if hasEffect actions .warn then s!"{r.name}: {vocabulary.label .warn}"
  else s!"{r.name}: matched"

/-- The record of a rule that matched. -/
def recordOf (r : Rule) (m : Match) : MatchedRule where
  ruleId := r.id
  ruleName := r.name
  priority := r.priority
  hits := m.hits
  actions := r.enabledActions
  confidence := m.confidence r.conditions

/-- Denies the request if a block action of the rule decides. -/
def deny (s : Resolution) (r : Rule) : Resolution :=
  if hasEffect r.enabledActions .deny && !s.verdictFixed then
    { s with allow := false, level := .deny, denyReason := some r.name }
  else s

/-- Fixes whether the request is allowed if the rule blocks or allows. -/
def fix (s : Resolution) (r : Rule) : Resolution :=
  if hasEffect r.enabledActions .deny || hasEffect r.enabledActions .allow then
    { s with verdictFixed := true }
  else s

/-- Raises the level to a warning if the rule warns and the level is still to allow. -/
def warn (s : Resolution) (r : Rule) : Resolution :=
  if hasEffect r.enabledActions .warn && s.level == .allow then
    { s with level := .warn, warnReason := some r.name }
  else s

/-- Takes in a rule that matched. -/
def apply (vocabulary : Vocabulary) (s : Resolution) (r : Rule) (m : Match) : Resolution :=
  let note := noteOf vocabulary s.verdictFixed r
  let s := if vocabulary.enforces then ((s.deny r).fix r).warn r else s
  { s with reasons := s.reasons ++ [note], matched := s.matched ++ [recordOf r m] }

/-- Evaluates rules in turn until one cuts the evaluation. -/
def run (vocabulary : Vocabulary) (ctx : Context) (s : Resolution) : List Rule → Judge Resolution
  | [] => pure s
  | r :: rest => do
      let m ← matchConditions r.conditions ctx
      let s := { s with evaluated := s.evaluated + 1 }
      if !m.matched then run vocabulary ctx s rest
      else
        let s := s.apply vocabulary r m
        if r.cuts then return { s with shortCircuited := true }
        else run vocabulary ctx s rest

/-- The names of the rules that matched, as a reason. -/
def matchedReason (s : Resolution) : String :=
  "matched " ++ ", ".intercalate (s.matched.map MatchedRule.ruleName)

/-- The reason of a decision for which rules matched. -/
def reason (s : Resolution) : String :=
  match s.level with
  | .deny => s.denyReason.getD s.matchedReason
  | .warn => s.warnReason.getD s.matchedReason
  | .allow => s.matchedReason

/-- The decision after all rules. -/
def finish (vocabulary : Vocabulary) (ctx : Context) (s : Resolution) : Decision :=
  if s.matched.isEmpty then
    .noMatch ctx.requestId vocabulary s.evaluated ctx.timestamp
  else
    { requestId := ctx.requestId
      allow := s.allow
      level := s.level
      verdict := if vocabulary.enforces then vocabulary.label s.level else vocabulary.label .warn
      reason := s.reason
      reasons := s.reasons
      matchedRules := s.matched
      evaluatedRules := s.evaluated
      shortCircuited := s.shortCircuited
      timestamp := ctx.timestamp }

end Resolution

/-- The decision of some rules on a request. -/
def resolve (vocabulary : Vocabulary) (rules : List Rule) (ctx : Context) : Judge Decision := do
  let s ← Resolution.run vocabulary ctx {} (applicableRules rules ctx)
  return s.finish vocabulary ctx

end Verdict
