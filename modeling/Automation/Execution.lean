import Automation.Decode.Record
import Automation.Step.Basic
import Automation.Time.Rfc3339

/-!
What a run leaves behind: the result of each attempted step, the stored record of the run, and the
report for its caller.
-/
namespace Automation

/-- A time as it stands in a document. -/
def Time.Instant.decode : Decode.Decoder Time.Instant := Decode.located fun
  | .text s | .plain s =>
    (Time.Rfc3339.parseLenient s).mapError fun e => .of (.custom e.message)
  | tree => Decode.unexpected "an RFC 3339 formatted date and time string" tree

def Time.Instant.encode (t : Time.Instant) : Json.Value := .string t.toText

inductive ExecutionStatus where
  | pending
  | running
  | completed
  | failed
  deriving DecidableEq

namespace ExecutionStatus

/-- A run never leaves a terminal status. -/
def isTerminal : ExecutionStatus → Bool
  | completed | failed => true
  | pending | running => false

def name : ExecutionStatus → String
  | pending => "pending"
  | running => "running"
  | completed => "completed"
  | failed => "failed"

def all : List ExecutionStatus := [pending, running, completed, failed]

def decode : Decode.Decoder ExecutionStatus :=
  Decode.choice (all.map fun status => (status.name, status))

end ExecutionStatus

/-- Whether a user or an event asked for the run. -/
inductive TriggeredBy where
  | manual
  | automatic
  deriving DecidableEq

namespace TriggeredBy

def name : TriggeredBy → String
  | manual => "manual"
  | automatic => "automatic"

def decode : Decode.Decoder TriggeredBy :=
  Decode.choice [("manual", manual), ("automatic", automatic)]

end TriggeredBy

inductive StepStatus where
  | completed
  | failed
  deriving DecidableEq

namespace StepStatus

def name : StepStatus → String
  | completed => "completed"
  | failed => "failed"

def decode : Decode.Decoder StepStatus :=
  Decode.choice [("completed", completed), ("failed", failed)]

end StepStatus

structure StepResult where
  stepId : String
  stepType : String
  status : StepStatus
  startedAt : Time.Instant
  completedAt : Time.Instant
  output : Option Json.Value
  error : Option String
  deriving DecidableEq

namespace StepResult

def completed (step : Step) (startedAt completedAt : Time.Instant) (output : Json.Value) :
    StepResult where
  stepId := step.id
  stepType := step.type.name
  status := .completed
  startedAt := startedAt
  completedAt := completedAt
  output := some output
  error := none

/-- A step that fails may have an output all the same. -/
def failed (step : Step) (startedAt completedAt : Time.Instant) (error : String)
    (output : Option Json.Value) : StepResult where
  stepId := step.id
  stepType := step.type.name
  status := .failed
  startedAt := startedAt
  completedAt := completedAt
  output := output
  error := some error

def isFailed (r : StepResult) : Bool := r.status == .failed

def fields : Decode.Record StepResult :=
  StepResult.mk <$> .required "stepId" Decode.text <*> .required "stepType" Decode.text <*>
    .required "status" StepStatus.decode <*> .required "startedAt" Time.Instant.decode <*>
    .required "completedAt" Time.Instant.decode <*> .maybe "output" Decode.value <*>
    .maybe "error" Decode.text

def decode : Decode.Decoder StepResult := fields.decode "struct StepResult"

/-- The members of the result as JSON, in the order in which they are told. -/
def members (r : StepResult) : List (String × Option Json.Value) :=
  [("stepId", some (.string r.stepId)), ("stepType", some (.string r.stepType)),
    ("status", some (.string r.status.name)), ("startedAt", some r.startedAt.encode),
    ("completedAt", some r.completedAt.encode), ("output", r.output),
    ("error", r.error.map .string)]

def encode (r : StepResult) : Json.Value := .ofPresent r.members

def encodeAll (results : List StepResult) : Json.Value := .array (results.map encode)

end StepResult

/-- The first failed result; a sequence of steps ends with it. -/
def halted? (results : List StepResult) : Option StepResult := results.find? (·.isFailed)

/-- The stored record of a run. -/
structure ActionExecution where
  id : String
  actionId : String
  workspaceId : String
  status : ExecutionStatus
  triggeredBy : TriggeredBy
  triggerRecordId : Option String
  stepResults : List StepResult
  initiatorId : Option String
  startedAt : Time.Instant
  completedAt : Option Time.Instant
  error : Option String
  deriving DecidableEq

namespace ActionExecution

def record : Decode.Record ActionExecution :=
  ActionExecution.mk <$> .withDefault "_id" "" Decode.text <*> .required "actionId" Decode.text <*>
    .required "workspaceId" Decode.text <*> .required "status" ExecutionStatus.decode <*>
    .required "triggeredBy" TriggeredBy.decode <*> .maybe "triggerRecordId" Decode.text <*>
    .withDefault "stepResults" [] (Decode.list StepResult.decode) <*>
    .maybe "initiatorId" Decode.text <*> .required "startedAt" Time.Instant.decode <*>
    .maybe "completedAt" Time.Instant.decode <*> .maybe "error" Decode.text

def decode : Decode.Decoder ActionExecution := record.decode "struct ActionExecution"

def encode (e : ActionExecution) : Json.Value :=
  .ofPresent [("_id", some (.string e.id)), ("actionId", some (.string e.actionId)),
    ("workspaceId", some (.string e.workspaceId)), ("status", some (.string e.status.name)),
    ("triggeredBy", some (.string e.triggeredBy.name)),
    ("triggerRecordId", e.triggerRecordId.map .string),
    ("stepResults", some (StepResult.encodeAll e.stepResults)),
    ("initiatorId", e.initiatorId.map .string), ("startedAt", some e.startedAt.encode),
    ("completedAt", e.completedAt.map (·.encode)), ("error", e.error.map .string)]

end ActionExecution

structure ExecutionReport where
  executionId : String
  actionId : String
  status : ExecutionStatus
  stepResults : List StepResult
  error : Option String
  deriving DecidableEq

namespace ExecutionReport

def succeeded (r : ExecutionReport) : Bool := r.status == .completed

/-- The members of the report as JSON, in the order in which they are told. -/
def members (r : ExecutionReport) (results : Json.Value) : List (String × Option Json.Value) :=
  [("executionId", some (.string r.executionId)), ("actionId", some (.string r.actionId)),
    ("status", some (.string r.status.name)), ("stepResults", some results),
    ("error", r.error.map .string)]

def encode (r : ExecutionReport) : Json.Value :=
  .ofPresent (r.members (StepResult.encodeAll r.stepResults))

end ExecutionReport
end Automation
