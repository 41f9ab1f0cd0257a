import Verdict.Command.Arguments
import Verdict.Command.EnvFile
import Verdict.Command.LogFilter
import Verdict.Engine.Live

/-!
# Running a command

A command reads its configuration, its rule file and its request, and answers with a JSON value or
a line of text.  `Surroundings` is all that it sees of the system.
-/

namespace Verdict.Command

/-- What a command sees of the system. -/
structure Surroundings where
  /-- The content of the file of a name. -/
  file? : String → Option String
  /-- The value of an environment variable. -/
  env? : String → Option String
  now : Instant
  /-- Names for events and assessments. -/
  ids : Nat → String

/-- What a command answers. -/
inductive Answer where
  | json (j : Json)
  | line (s : String)

/-- The text of an answer. -/
def Answer.text : Answer → String
  | .json j => j.pretty
  | .line s => s

/-- The name of the environment file. -/
def envFileName : String := ".env"

/-- The variable that holds a log filter. -/
def logVariable : String := "RUST_LOG"

namespace Surroundings

/-- The content of a file. -/
def content (s : Surroundings) (name : String) : Except Failure String :=
  match s.file? name with
  | some content => .ok content
  | none => .error (.io s!"cannot read {name}")

/-- Reads the configuration of a file. -/
def configOf (s : Surroundings) (name : String) : Except Failure Config := do
  let content ← s.content name
  Config.read ((Format.ofPath? name).getD (.detect content)) content

/-- The system with the variables of the environment file set, if there is such a file. -/
def withEnvFile (s : Surroundings) : Surroundings :=
  match s.file? envFileName with
  | some content => { s with env? := EnvFile.apply s.env? content }
  | none => s

/-- The configuration without a file on the command line: that of the file that a variable names,
    or the default, overridden by other variables. -/
def configOfVariables (s : Surroundings) : Except Failure Config := do
  let c ←
    match s.env? Config.fileVariable with
    | some name => s.configOf name
    | none => .ok {}
  let (c, outcome) := c.overrideBy s.env?
  outcome
  c.validate
  return c

/-- Refuses a configuration whose log level is no filter.  A variable that holds a filter stands
    in for the log level. -/
def checkLog (s : Surroundings) (c : Config) : Except Failure Unit :=
  if (s.env? logVariable).any LogFilter.isValid || LogFilter.isValid c.logLevel then .ok ()
  else .error (.config .badLogFilter)

/-- Reads a rule file. -/
def ruleFile (s : Surroundings) (name : String) : Except Failure RuleFile := do
  let content ← s.content name
  RuleFile.readAs s.now ((Format.ofPath? name).getD (.detect content)) content

/-- Reads a request. -/
def context (s : Surroundings) (name : String) : Except Failure Context := do
  let content ← s.content name
  Datum.readText (Context.ofDatum? s.now) (.detect content) content

/-- An engine over the entities of a rule file. -/
def engine (s : Surroundings) (c : Config) (name : String) : Except Failure Engine := do
  let h := (← s.ruleFile name).holdings
  Engine.start c { items := h.rules } { items := h.scoringRules } { items := h.profiles } [] {}

/-- Does what is asked for under a configuration. -/
def perform (s : Surroundings) (c : Config) : Task → Except Failure Answer
  | .evaluate rules context => do
      let e ← s.engine c rules
      let ctx ← s.context context
      let ((d, report), _) := (Live.evaluateAndDispatch s.ids ctx).run { state := e }
      return .json (Json.obj [("decision", d.toJson), ("dispatch", report.toJson)]).normal
  | .score bundle context => do
      let e ← s.engine c bundle
      let ctx ← s.context context
      return .json ((Engine.assess s.now (s.ids 0) ctx).run e).1.toJson
  | .test rules rule context => do
      let e ← s.engine c rules
      let ctx ← s.context context
      return .json (← ((Engine.testRule rule ctx).run e).1).toJson
  | .validate rules => do
      let f ← s.ruleFile rules
      f.validate
      let h := f.holdings
      return .line
        (s!"ok: {h.rules.length} rules, {h.scoringRules.length} scoring rules, " ++
          s!"{h.profiles.length} profiles")

/-- Runs an invocation. -/
def run (s : Surroundings) (i : Invocation) : Except Failure Answer := do
  let (s, c) ←
    match i.config with
    | some name => do pure (s, ← s.configOf name)
    | none =>
        let s := s.withEnvFile
        do pure (s, ← s.configOfVariables)
  let c := { c with vocabulary := i.vocabulary.getD c.vocabulary }
  s.checkLog c
  s.perform c i.task

end Surroundings

end Verdict.Command
