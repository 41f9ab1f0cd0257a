import Verdict.Matching
import Verdict.Rule

/-!
# Decisions

A `Decision` is what the rules say about one request.  A `Vocabulary` gives the words for it, and
says whether rules can refuse a request at all.
-/

namespace Verdict

/-- How severe a decision is. -/
inductive Level where
  | allow
  | warn
  | deny
  deriving Repr, DecidableEq, Inhabited

instance : Named Level where
  all := [.allow, .warn, .deny]
  name
    | .allow => "allow"
    | .warn => "warn"
    | .deny => "deny"

/-- The words in which decisions are given. -/
inductive Vocabulary where
  | access
  | compliance
  | classification
  deriving Repr, DecidableEq, Inhabited

instance : Named Vocabulary where
  all := [.access, .compliance, .classification]
  name
    | .access => "access"
    | .compliance => "compliance"
    | .classification => "classification"

namespace Vocabulary

/-- The word for a level. -/
def label : Vocabulary → Level → String
  | .access, level => Named.name level
  | .compliance, .allow => "compliant"
  | .compliance, .warn => "warning"
  | .compliance, .deny => "violation"
  | .classification, .allow => "unlabeled"
  | .classification, _ => "labeled"

/-- The reason when no rule matched. -/
def defaultReason : Vocabulary → String
  | .access => "no applicable policy matched"
  | .compliance => "no compliance rule violated"
  | .classification => "no classification rule matched"

/-- Whether rules can warn and refuse; classification only labels. -/
def enforces : Vocabulary → Bool
  | .classification => false
  | _ => true

end Vocabulary

/-- A rule that matched, with its enabled actions. -/
structure MatchedRule where
  ruleId : String
  ruleName : String
  priority : Int := 0
  hits : List Hit := []
  actions : List Action
  confidence : Float := 1
  deriving Repr, BEq

/-- The JSON form of a matched rule. -/
def MatchedRule.toJson (m : MatchedRule) : Json :=
  .obj [("rule_id", .str m.ruleId), ("rule_name", .str m.ruleName),
    ("priority", .ofInt m.priority), ("matched_conditions", .arr (m.hits.map Hit.toJson)),
    ("actions", .arr (m.actions.map Action.toJson)), ("confidence", .ofFloat m.confidence)]

/-- What the rules say about a request. -/
structure Decision where
  requestId : String
  allow : Bool
  level : Level
  verdict : String
  reason : String
  reasons : List String := []
  matchedRules : List MatchedRule := []
  evaluatedRules : Nat := 0
  shortCircuited : Bool := false
  timestamp : Instant
  deriving Repr, BEq

namespace Decision

/-- The decision when no rule matched. -/
def noMatch (requestId : String) (vocabulary : Vocabulary) (evaluated : Nat)
    (timestamp : Instant) : Decision where
  requestId := requestId
  allow := true
  level := .allow
  verdict := vocabulary.label .allow
  reason := vocabulary.defaultReason
  evaluatedRules := evaluated
  timestamp := timestamp

/-- Whether no rule matched. -/
def isDefault (d : Decision) : Bool :=
  d.matchedRules.isEmpty

/-- The ids of the rules that matched. -/
def matchedIds (d : Decision) : List String :=
  d.matchedRules.map MatchedRule.ruleId

/-- The JSON form of a decision. -/
def toJson (d : Decision) : Json :=
  .obj [("request_id", .str d.requestId), ("allow", .bool d.allow),
    ("level", Named.toJson d.level), ("verdict", .str d.verdict), ("reason", .str d.reason),
    ("reasons", .ofStrings d.reasons),
    ("matched_rules", .arr (d.matchedRules.map MatchedRule.toJson)),
    ("evaluated_rules", .ofNat d.evaluatedRules), ("short_circuited", .bool d.shortCircuited),
    ("timestamp", d.timestamp.toJson)]

end Decision

end Verdict
