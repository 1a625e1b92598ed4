import Automation.Step.Error
import Automation.Store.Document

/-!
What a step sees while it runs. A context is a value: each step and each loop iteration gets one of
its own, derived from the one before.
-/
namespace Automation

/-- A record as it was when the run was triggered. -/
structure RecordSnapshot where
  id : String
  creationTime : Int
  objectTypeId : Option String
  data : Json.Members
  deriving DecidableEq

namespace RecordSnapshot

/-- Data that is not an object counts as none. -/
def ofDocument (doc : Document) : RecordSnapshot where
  id := doc.id
  creationTime := doc.creationTime
  objectTypeId := doc.getText? "objectTypeId"
  data := ((doc.get? "data").bind (·.asObject?)).getD []

/-- The data with the id and the creation time among it. -/
def toValue (r : RecordSnapshot) : Json.Value :=
  .object ((r.data.insert idField (.string r.id)).insert creationTimeField (.ofInt r.creationTime))

def encode (r : RecordSnapshot) : Json.Value :=
  .ofPairs [("id", .string r.id), ("creationTime", .ofInt r.creationTime),
    ("objectTypeId", .ofText? r.objectTypeId), ("data", .object r.data)]

end RecordSnapshot

structure Context where
  workspaceId : String
  actorId : Option String
  executionId : Option String
  record : Option RecordSnapshot
  /-- Output of the step before, if there was one. -/
  previous : Option Json.Value
  /-- Outputs of the steps so far by step id. -/
  stepOutputs : Json.Members
  loopItem : Option Json.Value
  loopIndex : Option Nat
  nestingDepth : Nat
  deriving DecidableEq

namespace Context

/-- The context a run begins with. -/
def initial (workspaceId : String) (actorId : Option String) (record : Option RecordSnapshot)
    (executionId : Option String) : Context where
  workspaceId := workspaceId
  actorId := actorId
  executionId := executionId
  record := record
  previous := none
  stepOutputs := []
  loopItem := none
  loopIndex := none
  nestingDepth := 0

def recordId? (ctx : Context) : Option String := ctx.record.map (·.id)

/-- The context behind a step. -/
def withOutput (ctx : Context) (stepId : String) (output : Json.Value) : Context :=
  { ctx with previous := some output, stepOutputs := ctx.stepOutputs.insert stepId output }

/-- The depth of a loop body, if loops may nest that deep. -/
def bodyDepth (ctx : Context) (max : Nat) : Except StepError Nat :=
  let depth := ctx.nestingDepth + 1
  if max < depth then .error (.loopNestingExceeded depth max) else .ok depth

/-- The context of one iteration of a loop whose body stands at a depth. -/
def atItem (ctx : Context) (item : Json.Value) (index depth : Nat) : Context :=
  { ctx with loopItem := some item, loopIndex := some index, nestingDepth := depth }

/-- The context of one iteration, if loops may nest that deep. -/
def withLoopItem (ctx : Context) (item : Json.Value) (index max : Nat) :
    Except StepError Context :=
  (ctx.bodyDepth max).map (ctx.atItem item index)

def encode (ctx : Context) : Json.Value :=
  .ofPairs [("workspaceId", .string ctx.workspaceId), ("actorId", .ofText? ctx.actorId),
    ("executionId", .ofText? ctx.executionId),
    ("record", (ctx.record.map (·.encode)).getD .null),
    ("previousStepOutput", ctx.previous.getD .null), ("variables", .object ctx.stepOutputs),
    ("loopItem", ctx.loopItem.getD .null),
    ("loopIndex", (ctx.loopIndex.map .ofNat).getD .null),
    ("nestingDepth", .ofNat ctx.nestingDepth)]

end Context
end Automation
