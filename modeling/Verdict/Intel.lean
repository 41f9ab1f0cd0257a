import Verdict.Context
import Verdict.Number.Scalar

/-!
# Threat intelligence

Providers say what they know of an indicator, such as an address.  They are asked all at once,
and each has some time to answer; one that fails or is late contributes nothing.
`Context.enrich` puts what they said of a request's address into its security factors.
-/

namespace Verdict

/-- What a provider says of an indicator. -/
structure Reputation where
  /-- From 0, harmless, to 100, certainly malicious. -/
  score : Float
  malicious : Bool := false
  categories : List String := []
  deriving Repr, BEq

/-- What a provider says of an indicator that it does not know. -/
def Reputation.clean : Reputation where
  score := 0

/-- A provider that answers from a table. -/
structure Provider where
  name : String
  entries : KeyMap Reputation := .empty
  /-- How many milliseconds an answer takes. -/
  latency : Nat := 0
  failing : Bool := false
  deriving Repr, BEq

namespace Provider

/-- The answer of a provider that has some time for it; one that comes just as the time is over
    counts. -/
def answer? (p : Provider) (timeout : Nat) (indicator : String) : Option Reputation :=
  if timeout < p.latency || p.failing then none
  else some ((p.entries.get? indicator).getD .clean)

/-- How many milliseconds go by until it is known what all providers say. -/
def wait (providers : List Provider) (timeout : Nat) : Nat :=
  (providers.map fun p => Nat.min p.latency timeout).foldl Nat.max 0

end Provider

/-- What several providers say of an indicator. -/
structure Consensus where
  indicator : String
  /-- The highest score. -/
  score : Float := 0
  /-- Whether some provider calls the indicator malicious. -/
  malicious : Bool := false
  /-- All categories in ascending order, each once. -/
  categories : List String := []
  /-- The providers that answered. -/
  providers : List String := []
  deriving Repr, BEq

namespace Consensus

/-- Words in ascending order, each once. -/
def ascending (words : List String) : List String :=
  (KeyMap.ofList (words.map fun w => (w, ()))).entries.map Prod.fst

/-- The larger of two numbers. -/
def larger (x y : Float) : Float :=
  if Number.less x y then y else x

/-- The consensus of some answers, each with the name of its provider. -/
def ofAnswers (indicator : String) (answers : List (String × Reputation)) : Consensus where
  indicator := indicator
  score := (answers.map fun (_, r) => Scalar.between 0 100 r.score).foldl larger 0
  malicious := answers.any fun (_, r) => r.malicious
  categories := ascending (answers.flatMap fun (_, r) => r.categories)
  providers := answers.map Prod.fst

/-- Asks all providers. -/
def ask (providers : List Provider) (timeout : Nat) (indicator : String) : Consensus :=
  ofAnswers indicator
    (providers.filterMap fun p => (p.answer? timeout indicator).map fun r => (p.name, r))

/-- Whether no provider answered. -/
def isEmpty (c : Consensus) : Bool :=
  c.providers.isEmpty

/-- The JSON form of a consensus. -/
def toJson (c : Consensus) : Json :=
  .obj [("indicator", .str c.indicator), ("score", .ofFloat c.score),
    ("malicious", .bool c.malicious), ("categories", .ofStrings c.categories),
    ("providers", .ofStrings c.providers)]

end Consensus

/-- Sets the security factors that providers say something about; a request without an address,
    or one of which no provider says anything, stays as it is. -/
def Context.enrich (ctx : Context) (providers : List Provider) (timeout : Nat) : Context :=
  match ctx.clientIp with
  | none => ctx
  | some ip =>
      let c := Consensus.ask providers timeout ip
      if c.isEmpty then ctx
      else
        ((ctx.withSecurityFactor "ip_reputation" (.ofFloat c.score)).withSecurityFactor
          "malicious_ip" (.bool c.malicious)).withSecurityFactor
            "threat_categories" (.ofStrings c.categories)

end Verdict
