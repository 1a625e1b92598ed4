import Automation.Action
import Automation.Engine.Sequence
import Automation.Execution
import Automation.Store.Table

/-!
Why a run could not be opened, closed or looked up, and why an action could not be run at all.
-/
namespace Automation

inductive LifecycleError where
  | executionNotFound (id : String)
  | alreadyTerminal (id : String) (status : String)
  | store (error : StoreError)
  deriving DecidableEq

def LifecycleError.message : LifecycleError → String
  | executionNotFound id => "Execution not found: " ++ id
  | alreadyTerminal id status => "Execution " ++ id ++ " is already " ++ status
  | store error => error.message

inductive EngineError where
  | actionNotFound (id : String)
  | wrongWorkspace (id : String)
  | actionInactive (id : String)
  | store (error : StoreError)
  | lifecycle (error : LifecycleError)
  deriving DecidableEq

def EngineError.message : EngineError → String
  | actionNotFound id => "Action not found: " ++ id
  | wrongWorkspace id => "Action " ++ id ++ " belongs to another workspace"
  | actionInactive id => "Action " ++ id ++ " is not active"
  | store error => error.message
  | lifecycle error => error.message

end Automation

/-!
The life of a run: it is opened, its steps run, and it is closed. The status of a stored run goes
from pending over running to completed or failed. Also a run that breaks down is closed.
-/
namespace Automation

/-- What set off a run. -/
structure Occasion where
  triggeredBy : TriggeredBy
  record : Option RecordSnapshot
  actorId : Option String
  deriving DecidableEq

/-- The status and the error of a run with these results, unless `stop` ended it. -/
def summarize (results : List StepResult) (stop : Option String) :
    ExecutionStatus × Option String :=
  match halted? results with
  | some r => (.failed, r.error <|> stop)
  | none => match stop with
    | some error => (.failed, some error)
    | none => (.completed, none)

/-- What a sequence was ended by other than a failed step. -/
def Ending.error? : Ending → Option String
  | finished _ => none
  | aborted e => some e.message
  | crashed c => some ("Internal error: " ++ c.message)

namespace Engine

/-- The store as it is seen by those who open and close runs. -/
def executions (engine : Engine) : Connection LifecycleError := engine.store .store

/-- A run that has not begun. -/
def pendingExecution (action : Action) (occasion : Occasion) (now : Time.Instant) :
    ActionExecution where
  id := ""
  actionId := action.id
  workspaceId := action.workspaceId
  status := .pending
  triggeredBy := occasion.triggeredBy
  triggerRecordId := occasion.record.map (·.id)
  stepResults := []
  initiatorId := occasion.actorId
  startedAt := now
  completedAt := none
  error := none

/-- Opens a run and gives its id. -/
def start (engine : Engine) (action : Action) (occasion : Occasion) :
    Work LifecycleError String := do
  let now ← Work.ofProgram Program.now
  let fields ← Work.ofExcept
    ((Document.fieldsOf (pendingExecution action occasion now).encode).mapError .store)
  let id ← engine.executions.insert .actionExecutions fields
  engine.executions.patch .actionExecutions id
    [("status", .string ExecutionStatus.running.name)]
  return id

/-- The stored run of an id. -/
def load (engine : Engine) (id : String) : Work LifecycleError ActionExecution := do
  match ← engine.executions.get .actionExecutions id with
  | none => Work.fail (.executionNotFound id)
  | some doc => Work.ofExcept ((doc.decodeAs ActionExecution.decode).mapError .store)

/-- Closes a run that still has the status it was read with. -/
def closing (before status : ExecutionStatus) (results : List StepResult) (error : Option String)
    (now : Time.Instant) : DocumentUpdate where
  set := Json.Members.ofList ([("status", .string status.name),
    ("stepResults", StepResult.encodeAll results), ("completedAt", now.encode)] ++
    (error.map fun text => ("error", Json.Value.string text)).toList)
  expect := [("status", .string before.name)]

/-- Closes a run with the results of its steps. Of several such calls one succeeds, since the status
is written only if it is still the one that was read. -/
def finish (engine : Engine) (id : String) (results : List StepResult) (stop : Option String) :
    Work LifecycleError ExecutionStatus := do
  let execution ← engine.load id
  if execution.status.isTerminal then Work.fail (.alreadyTerminal id execution.status.name)
  else
    let (status, error) := summarize results stop
    let now ← Work.ofProgram Program.now
    let applied ← engine.executions.update .actionExecutions id
      (closing execution.status status results error now)
    if applied then return status
    else
      let current ← engine.load id
      Work.fail (.alreadyTerminal id current.status.name)

/-- The context that the first step of a run sees. -/
def firstContext (action : Action) (occasion : Occasion) (executionId : String) : Context :=
  .initial action.workspaceId occasion.actorId occasion.record (some executionId)

def executedEntry (action : Action) (occasion : Occasion) (executionId : String)
    (status : ExecutionStatus) : AuditEntry where
  workspaceId := action.workspaceId
  entityType := "action"
  entityId := action.id
  action := "action_executed"
  actorId := occasion.actorId
  metadata := some (.ofPairs [("executionId", .string executionId),
    ("status", .string status.name), ("triggeredBy", .string occasion.triggeredBy.name)])

/-- Runs an action from beginning to end. -/
def run (engine : Engine) (action : Action) (occasion : Occasion) :
    Work LifecycleError ExecutionReport := do
  let executionId ← engine.start action occasion
  let trace ← Work.ofProgram
    (engine.runSequence action.steps (firstContext action occasion executionId))
  let stop := trace.ending.error?
  let status ← engine.finish executionId trace.results stop
  let (_, error) := summarize trace.results stop
  Work.ignoring (engine.writeAudit (executedEntry action occasion executionId status))
  return ⟨executionId, action.id, status, trace.results, error⟩

end Engine
end Automation
