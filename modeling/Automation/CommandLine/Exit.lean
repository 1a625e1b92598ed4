import Automation.CommandLine.Command

/-!
A call of the program from its arguments to its exit.
-/
namespace Automation.CommandLine

/-- What a call leaves behind. -/
structure Exit where
  code : Nat
  stdout : String := ""
  stderr : String := ""
  deriving DecidableEq

/-- The commands and what they take. -/
def usage : String := "\n".intercalate [
  "Usage: actionflow <COMMAND>",
  "",
  "Commands:",
  "  exec      Run an action: <ACTION> --seed <SEED> [--record <RECORD>] [--workspace <WORKSPACE>]",
  "            [--actor <ACTOR>] [--json]",
  "  emit      Dispatch an event: <EVENT> --seed <SEED> [--json]",
  "  validate  Check an action: <ACTION>",
  "  due       List what is due: --seed <SEED> [--since <SINCE>] [--at <AT>]",
  "  help      Print this message",
  ""]

namespace Exit

def ofRefusal : Refusal → Exit
  | .help => { code := 0, stdout := usage }
  | .version => { code := 0, stdout := "actionflow 0.1.0\n" }
  | .misuse => { code := 2, stderr := usage }

def ofFailure (f : Failure) : Exit := { code := 1, stderr := f.report }

/-- What was printed stays printed when there is something to complain about. -/
def ofResult : Except (Stop Failure) Outcome → Exit
  | .ok outcome => match outcome.complaint with
    | none => { code := 0, stdout := outcome.text }
    | some f => { ofFailure f with stdout := outcome.text }
  | .error (.failed f) => ofFailure f
  | .error (.crashed c) => { code := 101, stderr := c.message ++ "\n" }

end Exit

/-- The work that a call asks for, or its exit if there is none. Arguments are read before
settings. -/
def prepare (env : Variables) (files : Files) (args : List String) : Except Exit Job := do
  let command ← (Command.parse args).mapError Exit.ofRefusal
  let config ← (Config.ofVariables env).mapError fun e =>
    .ofFailure ((Failure.of e.message).during "Invalid ACTIONFLOW_* engine settings")
  (command.job config env files).mapError .ofFailure

/-- A whole call, done with the collaborators of an environment. -/
def call {σ : Type} (environment : Program.Environment σ) (start : SeedData → σ)
    (env : Variables) (files : Files) (args : List String) : Exit :=
  match prepare env files args with
  | .error exit => exit
  | .ok job => .ofResult (Program.run environment job.work.run (start job.seed)).1

end Automation.CommandLine
