import Automation.CommandLine.Arguments
import Automation.Engine.Standard
import Automation.Execution
import Automation.Files
import Automation.Json.Printer
import Automation.Validation

/-!
Reports of runs as they are printed.
-/
namespace Automation

def StepResult.summary (r : StepResult) : String :=
  let step := r.stepId ++ " [" ++ r.stepType ++ "]"
  match r.error with
  | some error => "  x " ++ step ++ ": " ++ error ++ "\n"
  | none => "  - " ++ step ++ "\n"

namespace ExecutionReport

/-- A line for the run, one for each step, and one for what went wrong. -/
def summary (r : ExecutionReport) : String :=
  r.actionId ++ " " ++ r.status.name ++ " (" ++ r.executionId ++ ")\n" ++
    String.join (r.stepResults.map StepResult.summary) ++
    match r.error with
    | some error => "  error: " ++ error ++ "\n"
    | none => ""

/-- The report with its members in the order in which they are told. -/
def listed (r : ExecutionReport) : Json.Value :=
  .listed (r.members (.array (r.stepResults.map (.listed ·.members))))

def print (json : Bool) (reports : List ExecutionReport) : String :=
  if json then (Json.Value.array (reports.map listed)).pretty ++ "\n"
  else String.join (reports.map summary)

end ExecutionReport
end Automation

/-!
Commands that try actions out on a store filled from a file.
-/
namespace Automation.CommandLine

inductive Command where
  /-- Runs an action on request, in its own workspace unless another one is named. -/
  | exec (actionId seed : String) (recordId workspaceId actorId : Option String) (json : Bool)
  /-- Runs what an event sets off. -/
  | emit (event seed : String) (json : Bool)
  | validate (action : String)
  /-- Lists what is due in a span of time, which is the last minute if nothing else is said. -/
  | due (seed : String) (since last : Option Time.Instant)

namespace Command

private def seedSwitch : Switch := ⟨"seed", some 's', true⟩

private def jsonSwitch : Switch := ⟨"json", some 'j', false⟩

private def execSwitches : List Switch :=
  [seedSwitch, ⟨"record", some 'r', true⟩, ⟨"workspace", some 'w', true⟩, ⟨"actor", none, true⟩,
    jsonSwitch]

private def dueSwitches : List Switch := [seedSwitch, ⟨"since", none, true⟩, ⟨"at", none, true⟩]

private def required : Option String → Except Refusal String
  | some text => .ok text
  | none => .error .misuse

/-- A path is never empty. -/
private def path (text : Option String) : Except Refusal String := do
  let text ← required text
  if text.isEmpty then .error .misuse else return text

private def time : Option String → Except Refusal (Option Time.Instant)
  | none => .ok none
  | some text => match Time.Rfc3339.parse text with
    | .ok t => .ok (some t)
    | .error _ => .error .misuse

private def parseExec (texts : List String) : Except Refusal Command := do
  let args ← Arguments.scan execSwitches 1 {} texts
  let actionId ← required args.operands.head?
  let seed ← path (args.value? "seed")
  return .exec actionId seed (args.value? "record") (args.value? "workspace") (args.value? "actor")
    (args.has "json")

private def parseEmit (texts : List String) : Except Refusal Command := do
  let args ← Arguments.scan [seedSwitch, jsonSwitch] 1 {} texts
  return .emit (← path args.operands.head?) (← path (args.value? "seed")) (args.has "json")

private def parseValidate (texts : List String) : Except Refusal Command := do
  let args ← Arguments.scan [] 1 {} texts
  return .validate (← path args.operands.head?)

private def parseDue (texts : List String) : Except Refusal Command := do
  let args ← Arguments.scan dueSwitches 0 {} texts
  let seed ← path (args.value? "seed")
  return .due seed (← time (args.value? "since")) (← time (args.value? "at"))

def parsers : List (String × (List String → Except Refusal Command)) :=
  [("exec", parseExec), ("emit", parseEmit), ("validate", parseValidate), ("due", parseDue)]

/-- The command that arguments name. -/
def parse : List String → Except Refusal Command
  | [] => .error .misuse
  | name :: rest => match parsers.lookup name with
    | some parse => parse rest
    | none =>
      if ["help", "--help", "-h"].contains name then .error .help
      else if ["--version", "-V"].contains name then .error .version
      else .error .misuse

/-- The files that a command reads, in the order in which it reads them. -/
def paths : Command → List String
  | exec _ seed _ _ _ _ => [seed]
  | emit event seed _ => [event, seed]
  | validate action => [action]
  | due seed _ _ => [seed]

end Command

/-- What a command prints, and what it complains about in the end. -/
structure Outcome where
  text : String
  complaint : Option Failure := none

/-- Work on a store that is filled with a seed. -/
structure Job where
  seed : SeedData
  work : Work Failure Outcome

namespace Command

private def plainly {α : Type} (work : Work EngineError α) : Work Failure α :=
  work.mapError fun e => .of e.message

private def execWork (engine : Engine) (actionId : String)
    (recordId workspaceId actorId : Option String) (json : Bool) : Work Failure Outcome := do
  let store : Connection Failure := engine.store fun e => .of e.message
  let workspaceId ← match workspaceId with
    | some id => pure id
    | none => match (← store.get .actions actionId).bind (·.workspaceId?) with
      | some id => pure id
      | none => Work.fail (.of ("Action not found in seed: " ++ actionId))
  let report ← (engine.executeManual workspaceId actionId recordId actorId).mapError fun e =>
    (Failure.of e.message).during ("Failed to run action " ++ actionId)
  return {
    text := ExecutionReport.print json [report]
    complaint := if report.succeeded then none
      else some (.of ("Execution " ++ report.executionId ++ " failed")) }

private def emitWork (engine : Engine) (event : TriggerEvent) (json : Bool) :
    Work Failure Outcome := do
  let reports ← plainly (engine.handleEvent event)
  let text := ExecutionReport.print json reports
  return { text := if reports.isEmpty && !json then "No actions triggered\n" else text }

/-- Each issue on a line of its own. -/
def judge (path : String) (issues : List ValidationIssue) : Outcome :=
  if issues.isEmpty then { text := path ++ ": OK\n" }
  else {
    text := String.join (issues.map fun issue => path ++ ": " ++ issue.toText ++ "\n")
    complaint := some (.of (toString issues.length ++ " issue(s) found")) }

/-- A line for an action that is due. -/
def dueLine (action : Action) : String :=
  action.id ++ "\t" ++ action.trigger.schedule.getD "" ++ "\t" ++ action.name ++ "\n"

private def dueWork (engine : Engine) (since last : Option Time.Instant) :
    Work Failure Outcome := do
  let now ← Work.ofProgram Program.now
  let last := last.getD now
  let since := since.getD (last.addSeconds (-60))
  let actions ← plainly (engine.dueActions since last)
  let nothing := "No scheduled actions due in (" ++ since.toPlainText ++ ", " ++
    last.toPlainText ++ "]\n"
  return { text := if actions.isEmpty then nothing else String.join (actions.map dueLine) }

/-- What a command has to do, once its files are read. -/
def job (config : Config) (env : Variables) (files : Files) :
    Command → Except Failure Job :=
  let engine := Engine.standard config env
  fun
  | exec actionId seed recordId workspaceId actorId json => do
    let seed ← files.seed seed
    return ⟨seed, execWork engine actionId recordId workspaceId actorId json⟩
  | emit event seed json => do
    let event ← files.document TriggerEvent.decode event
    return ⟨← files.seed seed, emitWork engine event json⟩
  | validate path => do
    let action ← files.document Action.decode path
    return ⟨{}, pure (judge path (action.issues config))⟩
  | due seed since last => do
    return ⟨← files.seed seed, dueWork engine since last⟩

end Command
end Automation.CommandLine
