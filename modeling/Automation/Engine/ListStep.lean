import Automation.Engine.Basic

/-!
Steps that make records members of lists.
-/
namespace Automation.Engine

/-- A list and a record, and the entry that makes the record a member of the list. -/
structure Membership where
  listId : String
  recordId : String
  entry : Option Document

def membership (engine : Engine) (ctx : Context) (listId : String) (recordId : Option String) :
    Work StepError Membership := do
  let list ← engine.records.requireIn ctx.workspaceId .lists listId
  let recordId ← Work.ofExcept (targetId ctx recordId)
  let entry ← engine.records.first .listEntries
    (.byText [("listId", list.id), ("recordId", recordId)])
  return ⟨list.id, recordId, entry⟩

/-- The entry of a record that is a member. -/
def Membership.requireEntry (m : Membership) : Except StepError Document :=
  match m.entry with
  | some entry => .ok entry
  | none => .error (.validation ("Record " ++ m.recordId ++ " is not in list " ++ m.listId))

def Membership.output (m : Membership) (entryId : String) (more : List (String × Json.Value)) :
    Json.Value :=
  .ofPairs ([("listId", .string m.listId), ("recordId", .string m.recordId),
    ("entryId", .string entryId)] ++ more)

def entryAudit (ctx : Context) (entryId action : String) : AuditEntry :=
  { workspaceId := ctx.workspaceId, entityType := "listEntry", entityId := entryId, action }

def newEntry (ctx : Context) (m : Membership) (data : Json.Members) : Json.Members :=
  Json.Members.ofList [("workspaceId", .string ctx.workspaceId), ("listId", .string m.listId),
    ("recordId", .string m.recordId), ("data", .object data), ("addedBy", .ofText? ctx.actorId)]

/-- Adds a record to a list unless it is a member already. -/
def addToList (engine : Engine) (ctx : Context) (stepId : String) (m : Membership)
    (data : Json.Members) : Work StepError Json.Value := do
  match m.entry with
  | some entry => return m.output entry.id [("alreadyMember", .bool true)]
  | none =>
    let _ ← engine.records.requireIn ctx.workspaceId .records m.recordId
    let entryId ← engine.records.insert .listEntries (newEntry ctx m data)
    engine.audit ctx stepId { entryAudit ctx entryId "list_entry_added" with
      metadata := some (.ofPairs [("listId", .string m.listId), ("recordId", .string m.recordId)]) }
    return m.output entryId [("alreadyMember", .bool false)]

def removeFromList (engine : Engine) (ctx : Context) (stepId : String) (m : Membership) :
    Work StepError Json.Value := do
  let entry ← Work.ofExcept m.requireEntry
  engine.records.delete .listEntries entry.id
  engine.audit ctx stepId (entryAudit ctx entry.id "list_entry_removed")
  return m.output entry.id []

/-- Only the keys that are given are written. -/
def entryUpdate (data : Json.Members) (now : Time.Instant) : DocumentUpdate :=
  { set := data.foldl (fun set (key, value) => set.insert ("data." ++ key) value)
      [("updatedAt", .ofInt now.toMilliseconds)] }

/-- Merges data into that of a member's entry. -/
def updateListEntry (engine : Engine) (ctx : Context) (stepId : String) (m : Membership)
    (data : Json.Members) : Work StepError Json.Value := do
  let entry ← Work.ofExcept m.requireEntry
  let before := ((entry.get? "data").bind (·.asObject?)).getD []
  let now ← Work.ofProgram Program.now
  let _ ← engine.records.update .listEntries entry.id (entryUpdate data now)
  engine.audit ctx stepId (entryAudit ctx entry.id "list_entry_updated")
  return m.output entry.id [("data", .object (before.merge data))]

def changeList (engine : Engine) (ctx : Context) (stepId : String) (command : ListCommand)
    (listId : String) (recordId : Option String) (data : Option Json.Members) :
    Work StepError Json.Value := do
  let m ← engine.membership ctx listId recordId
  match command with
  | .add => engine.addToList ctx stepId m (data.getD [])
  | .remove => engine.removeFromList ctx stepId m
  | .update => engine.updateListEntry ctx stepId m (data.getD [])

end Automation.Engine
