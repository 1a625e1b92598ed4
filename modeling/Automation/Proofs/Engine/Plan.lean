import Automation.Engine.Sequence
import Automation.Proofs.Step.Command

/-!
What steps plan. A step that changes the store reads all it needs, does one thing and tells of it in the
audit log; a record that is deleted loses its memberships of lists before. So all that such a step does is
known from what it has read.
-/
namespace Automation

open Json (Value)

/-- Steps of the type change the store. -/
def StepType.mutates : StepType → Bool
  | .updateField | .clearField | .copyField | .transformField | .createRecord | .deleteRecord
  | .archiveRecord | .addToList | .removeFromList | .updateListEntry => true
  | .sendWebhook | .condition | .loop | .callTool | .unknown _ => false

/-- What is left to do when all that is needed is read: nothing, or one operation, which is told of. The
entries are deleted before it. -/
inductive Intent where
  | rest (output : Value)
  | act (entries : List Document) (op : StoreOp) (entry : op.Answer → AuditEntry)
      (output : op.Answer → Value)

namespace Engine

/-- An entry of the audit log as steps write it. -/
def stamped (ctx : Context) (stepId : String) (entry : AuditEntry) : AuditEntry :=
  { entry with
    actorId := ctx.actorId
    metadata := some (.ofPairs [("executionId", .ofText? ctx.executionId),
      ("stepId", .string stepId)]) }

def carryOut (engine : Engine) (ctx : Context) (stepId : String) : Intent → Work StepError Value
  | .rest output => return output
  | .act entries op entry output => do
    engine.deleteEntries entries
    let answer ← engine.records.ask op
    engine.audit ctx stepId (entry answer)
    return output answer

end Engine

namespace Intent

open Engine

def change (ctx : Context) (record : Document) (c : DataChange) (now : Time.Instant) : Intent :=
  .act [] (.update .records record.id (c.update now))
    (fun _ => { recordEntry ctx record.id "record_updated" with changes := [c.change] })
    fun _ => .ofPairs (("recordId", .string record.id) :: c.output)

def create (ctx : Context) (objectTypeId : String) (data : Json.Members) : Intent :=
  .act [] (.insert .records (newRecord ctx objectTypeId data))
    (fun id => recordEntry ctx id "record_created")
    fun id => .ofPairs [("recordId", .string id), ("objectTypeId", .string objectTypeId)]

def delete (ctx : Context) (record : Document) (entries : List Document) : Intent :=
  .act entries (.delete .records record.id) (fun _ => recordEntry ctx record.id "record_deleted")
    fun _ => .ofPairs [("recordId", .string record.id), ("deleted", .bool true),
      ("removedListEntries", .ofNat entries.length)]

def archive (ctx : Context) (record : Document) (now : Time.Instant) : Intent :=
  let set : Json.Members := .ofList
    [("archived", .bool true), ("archivedAt", .ofInt now.toMilliseconds)]
  .act [] (.update .records record.id { set })
    (fun _ => recordEntry ctx record.id "record_archived")
    fun _ => .ofPairs [("recordId", .string record.id), ("archived", .bool true)]

def enter (ctx : Context) (m : Membership) (data : Json.Members) : Intent :=
  .act [] (.insert .listEntries (newEntry ctx m data))
    (fun id => { entryAudit ctx id "list_entry_added" with
      metadata := some (.ofPairs [("listId", .string m.listId), ("recordId", .string m.recordId)]) })
    fun id => m.output id [("alreadyMember", .bool false)]

def leave (ctx : Context) (m : Membership) (entry : Document) : Intent :=
  .act [] (.delete .listEntries entry.id) (fun _ => entryAudit ctx entry.id "list_entry_removed")
    fun _ => m.output entry.id []

def amend (ctx : Context) (m : Membership) (entry : Document) (data : Json.Members)
    (now : Time.Instant) : Intent :=
  .act [] (.update .listEntries entry.id (entryUpdate data now))
    (fun _ => entryAudit ctx entry.id "list_entry_updated")
    fun _ => m.output entry.id [("data",
      .object ((((entry.get? "data").bind (·.asObject?)).getD []).merge data))]

end Intent

namespace Engine

/-- What a step intends on account of what it reads. Steps that change nothing intend nothing. -/
def plan (engine : Engine) (ctx : Context) : Primitive → Work StepError Intent
  | .field command recordId => do
    let record ← engine.targetRecord ctx recordId
    let change ← Work.ofExcept (FieldCommand.change record command)
    let now ← Work.ofProgram Program.now
    return .change ctx record change now
  | .createRecord objectTypeId data => do
    let _ ← engine.records.requireIn ctx.workspaceId .objectTypes objectTypeId
    return .create ctx objectTypeId data
  | .deleteRecord recordId => do
    let record ← engine.targetRecord ctx recordId
    let entries ← engine.records.query .listEntries (.byText [("recordId", record.id)])
    return .delete ctx record entries
  | .archiveRecord recordId => do
    let record ← engine.targetRecord ctx recordId
    let now ← Work.ofProgram Program.now
    return .archive ctx record now
  | .list command listId recordId data => do
    let m ← engine.membership ctx listId recordId
    match command with
    | .add => match m.entry with
      | some entry => return .rest (m.output entry.id [("alreadyMember", .bool true)])
      | none =>
        let _ ← engine.records.requireIn ctx.workspaceId .records m.recordId
        return .enter ctx m (data.getD [])
    | .remove =>
      let entry ← Work.ofExcept m.requireEntry
      return .leave ctx m entry
    | .update =>
      let entry ← Work.ofExcept m.requireEntry
      let now ← Work.ofProgram Program.now
      return .amend ctx m entry (data.getD []) now
  | .sendWebhook _ | .callTool _ _ => return .rest .null

/-- A step that changes the store does so as it has planned. -/
theorem runPrimitive_eq (engine : Engine) (ctx : Context) (stepId : String) {p : Primitive}
    (mutates : p.type.mutates = true) :
    engine.runPrimitive ctx stepId p = engine.plan ctx p >>= engine.carryOut ctx stepId := by
  cases p with
  | sendWebhook webhook => cases mutates
  | callTool tool arguments => cases mutates
  | field command recordId =>
    simp only [plan, bind_assoc, pure_bind]
    rfl
  | createRecord objectTypeId data =>
    simp only [plan, bind_assoc, pure_bind]
    rfl
  | deleteRecord recordId =>
    simp only [plan, bind_assoc, pure_bind]
    rfl
  | archiveRecord recordId =>
    simp only [plan, bind_assoc, pure_bind, runPrimitive, archiveRecord, Connection.patch]
    rfl
  | list command listId recordId data =>
    simp only [plan, bind_assoc]
    refine bind_congr fun m => ?_
    cases command with
    | add =>
      dsimp only
      unfold addToList
      cases m.entry with
      | some entry => rfl
      | none =>
        simp only [bind_assoc, pure_bind]
        rfl
    | remove =>
      simp only [bind_assoc, pure_bind]
      rfl
    | update =>
      simp only [bind_assoc, pure_bind]
      rfl

end Engine
end Automation
