import Automation.Action
import Automation.Context

/-!
Events, and the actions that an event sets off.
-/
namespace Automation

/-- `record` is the record as it was when the event happened. -/
structure TriggerEvent where
  workspaceId : String
  eventType : TriggerType
  objectTypeId : Option String
  listId : Option String
  changedFields : List String
  recordId : Option String
  record : Option RecordSnapshot
  actorId : Option String
  deriving DecidableEq

namespace TriggerEvent

def fields : Decode.Record TriggerEvent :=
  (fun workspaceId eventType objectTypeId listId changedFields recordId actorId =>
      { workspaceId, eventType, objectTypeId, listId, changedFields, recordId, record := none
        actorId }) <$>
    .required "workspaceId" Decode.text <*> .required "eventType" TriggerType.decode <*>
    .maybe "objectTypeId" Decode.text <*> .maybe "listId" Decode.text <*>
    .withDefault "changedFields" [] (Decode.list Decode.text) <*>
    .maybe "recordId" Decode.text <*> .maybe "actorId" Decode.text

def decode : Decode.Decoder TriggerEvent := fields.decode "struct TriggerEvent"

def encode (e : TriggerEvent) : Json.Value :=
  .ofPairs [("workspaceId", .string e.workspaceId), ("eventType", .string e.eventType.name),
    ("objectTypeId", .ofText? e.objectTypeId), ("listId", .ofText? e.listId),
    ("changedFields", .array (e.changedFields.map .string)), ("recordId", .ofText? e.recordId),
    ("actorId", .ofText? e.actorId)]

/-- The event with the record it is about. -/
def withRecord (e : TriggerEvent) (record : RecordSnapshot) : TriggerEvent :=
  { e with
    recordId := some record.id
    objectTypeId := e.objectTypeId <|> record.objectTypeId
    record := some record }

end TriggerEvent

namespace Action

/-- A scope that is set has to be met. -/
def inScope (scope value : Option String) : Bool := scope.all fun id => value == some id

def isTriggeredBy (a : Action) (e : TriggerEvent) : Bool :=
  a.isActive && a.workspaceId == e.workspaceId && a.trigger.type == e.eventType &&
    inScope a.trigger.objectTypeId e.objectTypeId && inScope a.trigger.listId e.listId &&
    (a.trigger.type != .onFieldChange ||
      (a.trigger.watchedFields.getD []).any e.changedFields.contains)

end Action

/-- The actions an event sets off, conditions aside. -/
def TriggerEvent.select (e : TriggerEvent) (actions : List Action) : List Action :=
  actions.filter (·.isTriggeredBy e)

end Automation
