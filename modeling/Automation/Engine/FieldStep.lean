import Automation.Engine.Basic
import Automation.Transform

/-!
Steps that change one key of a record's data. Only that key is written, so that changes of other
keys are kept.
-/
namespace Automation.Engine

/-- The value of a key of a record's data, null when there is none. -/
def fieldValue (record : Document) (field : String) : Json.Value :=
  (((record.get? "data").bind (·.member? field))).getD .null

/-- A change of a key; without a value the key is removed. -/
structure DataChange where
  change : FieldChange
  value : Option Json.Value
  output : List (String × Json.Value)

namespace DataChange

/-- The new value of a key. -/
def setting (record : Document) (field : String) (value : Json.Value)
    (output : List (String × Json.Value)) : DataChange :=
  ⟨⟨field, fieldValue record field, value⟩, some value, output⟩

def update (c : DataChange) (now : Time.Instant) : DocumentUpdate :=
  let path := "data." ++ c.change.field
  let stamped : Json.Members := [("updatedAt", .ofInt now.toMilliseconds)]
  match c.value with
  | some value => { set := stamped.insert path value }
  | none => { set := stamped, unset := [path] }

end DataChange

/-- What a command changes in a record. -/
def FieldCommand.change (record : Document) : FieldCommand → Except StepError DataChange
  | .update field value =>
    .ok (.setting record field value
      [("field", .string field), ("value", value), ("previousValue", fieldValue record field)])
  | .clear field =>
    let before := fieldValue record field
    .ok ⟨⟨field, before, .null⟩, none, [("field", .string field), ("previousValue", before)]⟩
  | .copy source target =>
    let value := fieldValue record source
    .ok (.setting record target value
      [("sourceField", .string source), ("targetField", .string target), ("value", value)])
  | .transform field name target amount decimals => do
    let value ← Transform.applyNamed name (fieldValue record field) amount decimals
    let target := (Command.nonBlank? target).getD field
    return .setting record target value
      [("field", .string field), ("targetField", .string target), ("transform", .string name),
        ("previousValue", fieldValue record target), ("value", value)]

/-- Changes a key of a record and tells of it in the audit log. -/
def changeField (engine : Engine) (ctx : Context) (stepId : String) (command : FieldCommand)
    (recordId : Option String) : Work StepError Json.Value := do
  let record ← engine.targetRecord ctx recordId
  let change ← Work.ofExcept (FieldCommand.change record command)
  let now ← Work.ofProgram Program.now
  let _ ← engine.records.update .records record.id (change.update now)
  engine.audit ctx stepId
    { workspaceId := ctx.workspaceId, entityType := "record", entityId := record.id
      action := "record_updated", changes := [change.change] }
  return .ofPairs (("recordId", .string record.id) :: change.output)

end Automation.Engine
