import Automation.Engine.Basic

/-!
Steps that create, delete and archive records.
-/
namespace Automation.Engine

def recordEntry (ctx : Context) (recordId action : String) : AuditEntry :=
  { workspaceId := ctx.workspaceId, entityType := "record", entityId := recordId, action }

def newRecord (ctx : Context) (objectTypeId : String) (data : Json.Members) : Json.Members :=
  Json.Members.ofList [("workspaceId", .string ctx.workspaceId),
    ("objectTypeId", .string objectTypeId), ("data", .object data), ("archived", .bool false),
    ("createdBy", .ofText? ctx.actorId)]

/-- Creates a record of an object type of the workspace. -/
def createRecord (engine : Engine) (ctx : Context) (stepId objectTypeId : String)
    (data : Json.Members) : Work StepError Json.Value := do
  let _ ← engine.records.requireIn ctx.workspaceId .objectTypes objectTypeId
  let recordId ← engine.records.insert .records (newRecord ctx objectTypeId data)
  engine.audit ctx stepId (recordEntry ctx recordId "record_created")
  return .ofPairs [("recordId", .string recordId), ("objectTypeId", .string objectTypeId)]

def deleteEntries (engine : Engine) : List Document → Work StepError Unit
  | [] => pure ()
  | entry :: rest => do
    engine.records.delete .listEntries entry.id
    deleteEntries engine rest

/-- Deletes a record, and its memberships of lists before it. -/
def deleteRecord (engine : Engine) (ctx : Context) (stepId : String) (recordId : Option String) :
    Work StepError Json.Value := do
  let record ← engine.targetRecord ctx recordId
  let entries ← engine.records.query .listEntries (.byText [("recordId", record.id)])
  engine.deleteEntries entries
  engine.records.delete .records record.id
  engine.audit ctx stepId (recordEntry ctx record.id "record_deleted")
  return .ofPairs [("recordId", .string record.id), ("deleted", .bool true),
    ("removedListEntries", .ofNat entries.length)]

/-- Marks a record as archived. -/
def archiveRecord (engine : Engine) (ctx : Context) (stepId : String) (recordId : Option String) :
    Work StepError Json.Value := do
  let record ← engine.targetRecord ctx recordId
  let now ← Work.ofProgram Program.now
  engine.records.patch .records record.id
    (.ofList [("archived", .bool true), ("archivedAt", .ofInt now.toMilliseconds)])
  engine.audit ctx stepId (recordEntry ctx record.id "record_archived")
  return .ofPairs [("recordId", .string record.id), ("archived", .bool true)]

end Automation.Engine
