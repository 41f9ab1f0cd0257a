import Std.Time.DateTime.Timestamp
import Verdict.Command.Run
import Verdict.Identifier

/-!
# The command line

Reads files, variables, the clock and a random seed, runs a command on them, and prints what it
answers.
-/

namespace Verdict.Command

/-- Reads a file, if it can be read. -/
def readFile? (name : String) : IO (Option String) := do
  try
    return some (← IO.FS.readFile name)
  catch _ => return none

/-- Reads the files of some names. -/
def readFiles (names : List String) : IO (List (String × String)) :=
  names.filterMapM fun name => do return (← readFile? name).map fun content => (name, content)

/-- Reads the variables of some names. -/
def readVariables (names : List String) : IO (List (String × String)) :=
  names.filterMapM fun name => do return (← IO.getEnv name).map fun value => (name, value)

/-- What an invocation sees of the system. -/
def look (i : Invocation) : IO Surroundings := do
  let files ← readFiles (envFileName :: i.files)
  let mentioned := ((files.lookup envFileName).map EnvFile.mentioned).getD []
  let env ← readVariables (logVariable :: Config.variableNames ++ mentioned)
  let now ← Std.Time.Timestamp.now
  let seed ← IO.rand 0 (Nat.pow 2 128 - 1)
  let s : Surroundings :=
    { file? := fun name => files.lookup name
      env? := fun name => env.lookup name
      now := .ofUnix now.toNanosecondsSinceUnixEpoch.val
      ids := Identifier.ofSeed seed }
  let more ← readFiles (s.withEnvFile.env? Config.fileVariable).toList
  return { s with file? := fun name => (files ++ more).lookup name }

/-- Runs what the arguments ask for; gives the exit code. -/
def execute (args : List String) : IO UInt32 := do
  match Request.ofArguments args with
  | .error fault =>
      IO.eprintln s!"error: {fault.message}\n\n{usage}"
      return 2
  | .ok .version =>
      IO.println versionLine
      return 0
  | .ok .help =>
      IO.println usage
      return 0
  | .ok (.run i) =>
      match (← look i).run i with
      | .ok answer =>
          IO.println answer.text
          return 0
      | .error failure =>
          IO.eprintln s!"decisionctl: {failure.message}"
          return 1

end Verdict.Command

def main (args : List String) : IO UInt32 :=
  Verdict.Command.execute args
