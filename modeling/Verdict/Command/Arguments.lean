import Verdict.Decision
import Verdict.Text.Blank
import Verdict.Text.Pieces

/-!
# Command-line arguments

A command follows the options that hold for all commands, and its own options follow it.  The
options for all commands may also stand among those of the command, and count more there.
-/

namespace Verdict.Command

/-- What is asked for. -/
inductive Task where
  /-- Decide on a request and carry out the actions. -/
  | evaluate (rules context : String)
  /-- Assess the risk of a request. -/
  | score (bundle context : String)
  /-- Try one rule on a request. -/
  | test (rules rule context : String)
  /-- Look for what is wrong with a rule file. -/
  | validate (rules : String)
  deriving Repr, DecidableEq

/-- A task with the options for all tasks. -/
structure Invocation where
  task : Task
  config : Option String := none
  vocabulary : Option Vocabulary := none
  deriving Repr, DecidableEq

/-- What the arguments ask for. -/
inductive Request where
  | run (i : Invocation)
  | version
  | help
  deriving Repr, DecidableEq

/-- Why arguments make no sense. -/
inductive UsageFault where
  | unknown (argument : String)
  | missingValue (option : String)
  | badValue (option value : String)
  | repeated (option : String)
  | missing (option : String)
  | noCommand
  deriving Repr, DecidableEq

/-- The wording of a usage fault. -/
def UsageFault.message : UsageFault → String
  | .unknown argument => s!"unexpected argument '{argument}'"
  | .missingValue option => s!"a value is required for '--{option}'"
  | .badValue option value => s!"invalid value '{value}' for '--{option}'"
  | .repeated option => s!"the argument '--{option}' cannot be used multiple times"
  | .missing option => s!"the argument '--{option}' is required"
  | .noCommand => "a command is required"

namespace Invocation

/-- The names of the files that are read for a task. -/
def files (i : Invocation) : List String :=
  i.config.toList ++
    match i.task with
    | .evaluate rules context => [rules, context]
    | .score bundle context => [bundle, context]
    | .test rules _ context => [rules, context]
    | .validate rules => [rules]

end Invocation

/-- The name and the version of the program. -/
def versionLine : String := "decisionctl 0.1.0"

/-- How the program is called. -/
def usage : String :=
  "Evaluate, score and validate API security rules from the command line\n\n" ++
  "Usage: decisionctl [--config FILE] [--vocabulary WORD] COMMAND\n\n" ++
  "Commands:\n" ++
  "  evaluate --rules FILE --context FILE\n" ++
  "  score --bundle FILE --context FILE\n" ++
  "  test --rules FILE --rule ID --context FILE\n" ++
  "  validate --rules FILE"

/-- Values by the names of their options. -/
abbrev Values := List (String × String)

/-- The options for all commands. -/
def sharedOptions : List String := ["config", "vocabulary"]

/-- The options of each command; all of them are required. -/
def commands : List (String × List String) :=
  [("evaluate", ["rules", "context"]), ("score", ["bundle", "context"]),
    ("test", ["rules", "rule", "context"]), ("validate", ["rules"])]

/-- Reads the word for a vocabulary. -/
def readVocabulary? (s : String) : Option Vocabulary :=
  Named.ofName? (Text.toAsciiLower (Text.trim s))

/-- Whether a value is right for an option: a file has a name, a vocabulary is one of its words. -/
def accepts (option value : String) : Bool :=
  if option == "vocabulary" then (readVocabulary? value).isSome
  else if option == "rule" then true
  else !value.isEmpty

/-- One argument. -/
inductive Argument where
  /-- Two hyphens; only plain words may follow. -/
  | stop
  | long (name : String) (value : Option String)
  | short (flag : Char)
  | word (s : String)
  deriving Repr, DecidableEq

/-- What an argument is. -/
def Argument.ofText (s : String) : Argument :=
  match s.toList with
  | ['-', '-'] => .stop
  | '-' :: '-' :: cs =>
      match Text.cutOnce '=' cs with
      | some (name, value) => .long (String.ofList name) (some (String.ofList value))
      | none => .long (String.ofList cs) none
  | '-' :: flag :: _ => .short flag
  | _ => .word s

/-- Takes in the value of an option. -/
def take (values : Values) (option value : String) : Except UsageFault Values :=
  if values.any fun (name, _) => name == option then .error (.repeated option)
  else if accepts option value then .ok (values ++ [(option, value)])
  else .error (.badValue option value)

/-- What is read of the arguments at one level. -/
inductive Reading where
  /-- The arguments are over. -/
  | over (values : Values)
  /-- A plain word, and the arguments after it. -/
  | word (values : Values) (s : String) (rest : List String)
  | version
  | help

/-- Reads options up to a plain word.  Only the arguments before a command know of a version. -/
def readOptions (known : List String) (outer : Bool) (values : Values) :
    List String → Except UsageFault Reading
  | [] => .ok (.over values)
  | arg :: rest =>
      match Argument.ofText arg with
      | .stop =>
          match rest with
          | [] => .ok (.over values)
          | extra :: _ => .error (.unknown extra)
      | .word s => .ok (.word values s rest)
      | .short flag =>
          if flag == 'h' then .ok .help
          else if flag == 'V' && outer then .ok .version
          else .error (.unknown arg)
      | .long name value =>
          if known.contains name then
            match value, rest with
            | some value, rest => do
                let values ← take values name value
                readOptions known outer values rest
            | none, next :: rest =>
                match Argument.ofText next with
                | .word value => do
                    let values ← take values name value
                    readOptions known outer values rest
                | _ => .error (.missingValue name)
            | none, [] => .error (.missingValue name)
          else if name == "help" && value.isNone then .ok .help
          else if name == "version" && value.isNone && outer then .ok .version
          else .error (.unknown arg)

/-- The value of a required option. -/
def required (values : Values) (option : String) : Except UsageFault String :=
  match values.lookup option with
  | some value => .ok value
  | none => .error (.missing option)

/-- The task of a command with its options. -/
def taskOf (command : String) (values : Values) : Except UsageFault Task := do
  match command with
  | "evaluate" => return .evaluate (← required values "rules") (← required values "context")
  | "score" => return .score (← required values "bundle") (← required values "context")
  | "test" =>
      return .test (← required values "rules") (← required values "rule")
        (← required values "context")
  | "validate" => return .validate (← required values "rules")
  | _ => throw (.unknown command)

/-- Reads the options of a command. -/
def readCommand (shared : Values) (command : String) (own args : List String) :
    Except UsageFault Request := do
  match ← readOptions (own ++ sharedOptions) false [] args with
  | .over values =>
      let task ← taskOf command values
      let all := values ++ shared
      return .run {
        task := task
        config := all.lookup "config"
        vocabulary := (all.lookup "vocabulary").bind readVocabulary? }
  | .word _ s _ => throw (.unknown s)
  | .version => return .version
  | .help => return .help

/-- Reads all arguments. -/
def Request.ofArguments (args : List String) : Except UsageFault Request := do
  match ← readOptions sharedOptions true [] args with
  | .over _ => throw .noCommand
  | .word shared s rest =>
      match commands.lookup s with
      | some own => readCommand shared s own rest
      | none => if s == "help" then return .help else throw (.unknown s)
  | .version => return .version
  | .help => return .help

end Verdict.Command
