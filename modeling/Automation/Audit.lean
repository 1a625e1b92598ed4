import Automation.Decode.Record
import Automation.Json.Value

/-!
Entries of the audit log: who changed what.
-/
namespace Automation

structure FieldChange where
  field : String
  before : Json.Value
  after : Json.Value
  deriving DecidableEq

namespace FieldChange

def record : Decode.Record FieldChange :=
  FieldChange.mk <$> .required "field" Decode.text <*> .required "before" Decode.value <*>
    .required "after" Decode.value

def decode : Decode.Decoder FieldChange := record.decode "struct FieldChange"

def encode (c : FieldChange) : Json.Value :=
  .ofPairs [("field", .string c.field), ("before", c.before), ("after", c.after)]

end FieldChange

/-- Without an actor the system made the change. -/
structure AuditEntry where
  workspaceId : String
  entityType : String
  entityId : String
  action : String
  changes : List FieldChange := []
  actorId : Option String := none
  metadata : Option Json.Value := none
  deriving DecidableEq

namespace AuditEntry

def actorType (e : AuditEntry) : String := if e.actorId.isSome then "user" else "system"

def encode (e : AuditEntry) : Json.Value :=
  .ofPresent [("workspaceId", some (.string e.workspaceId)),
    ("entityType", some (.string e.entityType)), ("entityId", some (.string e.entityId)),
    ("action", some (.string e.action)), ("changes", some (.array (e.changes.map (·.encode)))),
    ("actorId", some (.ofText? e.actorId)), ("actorType", some (.string e.actorType)),
    ("metadata", e.metadata)]

end AuditEntry
end Automation
