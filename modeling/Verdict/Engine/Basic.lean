import Verdict.Audit
import Verdict.Config
import Verdict.Dispatch.Plan
import Verdict.Intel
import Verdict.Resolution
import Verdict.Store.Basic

/-!
# Engines

An `Engine` holds the stores of rules, scoring rules and profiles, the compiled patterns of each
kind of evaluation, the bus and the audit.  Requests are judged by the snapshots; nothing here
waits.
-/

namespace Verdict

/-- Everything that requests are judged with. -/
structure Engine where
  config : Config := {}
  rules : Store Rule := {}
  scoringRules : Store ScoringRule := {}
  profiles : Store Profile := {}
  providers : List Provider := []
  bus : Bus := {}
  /-- Patterns of the conditions of rules. -/
  rulePatterns : PatternCache := .empty
  /-- Patterns of the conditions of scoring rules. -/
  scoringPatterns : PatternCache := .empty
  audit : List Note := []

/-- An operation on an engine that may fail; what it changed before it failed stays changed. -/
abbrev Operation (β : Type) := ExceptT Failure (StateM Engine) β

namespace Engine

/-- Adds a note to the audit. -/
def note (n : Note) (e : Engine) : Engine :=
  { e with audit := e.audit ++ [n] }

/-- Drops all compiled patterns, so that those of changed or deleted rules are gone. -/
def dropPatterns (e : Engine) : Engine :=
  { e with rulePatterns := e.rulePatterns.clear, scoringPatterns := e.scoringPatterns.clear }

/-- An engine over some repositories, every snapshot taken.  It does not start without them. -/
def start (config : Config) (rules : Repository Rule) (scoringRules : Repository ScoringRule)
    (profiles : Repository Profile) (providers : List Provider) (bus : Bus) :
    Except Failure Engine := do
  config.validate
  let rules ← Store.refresh { repository := rules }
  let scoringRules ← Store.refresh { repository := scoringRules }
  let profiles ← Store.refresh { repository := profiles }
  return {
    config := config
    rules := rules
    scoringRules := scoringRules
    profiles := profiles
    providers := providers
    bus := bus }

/-- Judges conditions of rules with the patterns kept for them. -/
def judgeRules {β : Type} (judge : Judge β) : StateM Engine β := fun e =>
  let (b, patterns) := judge e.rulePatterns
  (b, { e with rulePatterns := patterns })

/-- Judges conditions of scoring rules with the patterns kept for them. -/
def judgeScoringRules {β : Type} (judge : Judge β) : StateM Engine β := fun e =>
  let (b, patterns) := judge e.scoringPatterns
  (b, { e with scoringPatterns := patterns })

/-- Decides on a request. -/
def decide (ctx : Context) : StateM Engine Decision := do
  let e ← get
  let d ← judgeRules (resolve e.config.vocabulary e.rules.snapshot.items ctx)
  modify (note (.decided d))
  return d

/-- The profile for a request: one of the managed profiles, or of the standard ones when none is
    managed. -/
def profileFor (e : Engine) (now : Instant) (ctx : Context) : Profile :=
  let managed := e.profiles.snapshot.items
  let profiles := if managed.isEmpty then Profile.standardSet now else managed
  (selectProfile? ctx profiles).getD (Profile.new now "standard" .medium 30)

/-- Assesses the risk of a request. -/
def assess (now : Instant) (id : String) (ctx : Context) : StateM Engine (Assessment Float) := do
  let e ← get
  let a ← judgeScoringRules
    (Verdict.assess id ctx (e.profileFor now ctx) e.scoringRules.snapshot.items)
  modify (note (.assessed a))
  return a

/-- Gives something to the bus; says whether it was accepted. -/
def post (d : Delivery) : StateM Engine Bool := do
  let e ← get
  let timeout := e.config.publishMillis.toNat
  set { e with bus := e.bus.publish timeout d.topic d.content.toJson }
  let accepted := e.bus.outcome timeout d.topic == .accepted
  if accepted then
    if let some n := d.note? then modify (note n)
  return accepted

/-- The record of a decision, as it is published. -/
def decisionRecord (e : Engine) (d : Decision) : Delivery :=
  ⟨e.config.topics.policyDecisions, .record d.toJson⟩

/-- The record of an assessment, as it is published. -/
def assessmentRecord (e : Engine) (a : Assessment Float) : Delivery :=
  ⟨e.config.topics.riskAssessments, .record a.toJson⟩

end Engine

/-- What one rule alone makes of a request. -/
structure DryRun where
  ruleId : String
  /-- Whether the rule would be considered for the request. -/
  applicable : Bool
  /-- Whether its conditions match, considered or not. -/
  matched : Bool
  hits : List Hit
  confidence : Float
  decision : Decision
  deriving Repr, BEq

/-- The JSON form of a dry run. -/
def DryRun.toJson (r : DryRun) : Json :=
  .obj [("rule_id", .str r.ruleId), ("applicable", .bool r.applicable),
    ("matched", .bool r.matched), ("matched_conditions", .arr (r.hits.map Hit.toJson)),
    ("confidence", .ofFloat r.confidence), ("decision", r.decision.toJson)]

/-- Tries the rule of an id on a request. -/
def Engine.testRule (id : String) (ctx : Context) : Operation DryRun := do
  let e ← get
  let rule ← ofExcept (e.rules.get id)
  let m ← (judgeRules (matchConditions rule.conditions ctx) : StateM Engine Match)
  let d ← (judgeRules (resolve e.config.vocabulary [rule] ctx) : StateM Engine Decision)
  return {
    ruleId := id
    applicable := rule.isApplicable ctx
    matched := m.matched
    hits := m.hits
    confidence := m.confidence rule.conditions
    decision := d }

end Verdict
