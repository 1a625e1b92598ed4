import Automation.Condition.Basic
import Automation.Step.Decoding

/-!
Actions: what sets one off, the conditions it is subject to, and its steps.
-/
namespace Automation

inductive TriggerType where
  | manual
  | onCreate
  | onUpdate
  | onDelete
  | onFieldChange
  | onListAdd
  | onListRemove
  | scheduled
  deriving DecidableEq

namespace TriggerType

def name : TriggerType → String
  | manual => "manual"
  | onCreate => "onCreate"
  | onUpdate => "onUpdate"
  | onDelete => "onDelete"
  | onFieldChange => "onFieldChange"
  | onListAdd => "onListAdd"
  | onListRemove => "onListRemove"
  | scheduled => "scheduled"

def all : List TriggerType :=
  [manual, onCreate, onUpdate, onDelete, onFieldChange, onListAdd, onListRemove, scheduled]

def decode : Decode.Decoder TriggerType := Decode.choice (all.map fun type => (type.name, type))

end TriggerType

/-- What is absent does not restrict the trigger. -/
structure TriggerSpec where
  type : TriggerType
  objectTypeId : Option String
  listId : Option String
  watchedFields : Option (List String)
  schedule : Option String
  deriving DecidableEq

namespace TriggerSpec

def record : Decode.Record TriggerSpec :=
  TriggerSpec.mk <$> .required "type" TriggerType.decode <*> .maybe "objectTypeId" Decode.text <*>
    .maybe "listId" Decode.text <*> .maybe "watchedFields" (Decode.list Decode.text) <*>
    .maybe "schedule" Decode.text

def decode : Decode.Decoder TriggerSpec := record.decode "struct TriggerSpec"

def encode (t : TriggerSpec) : Json.Value :=
  .ofPresent [("type", some (.string t.type.name)), ("objectTypeId", t.objectTypeId.map .string),
    ("listId", t.listId.map .string),
    ("watchedFields", t.watchedFields.map fun fields => .array (fields.map .string)),
    ("schedule", t.schedule.map .string)]

end TriggerSpec

structure Action where
  id : String
  workspaceId : String
  name : String
  slug : String
  description : Option String
  trigger : TriggerSpec
  conditions : List Condition
  steps : List Step
  isActive : Bool
  isSystem : Bool
  createdBy : Option String

namespace Action

def record : Decode.Record Action :=
  Action.mk <$> .withDefault "_id" "" Decode.text <*> .required "workspaceId" Decode.text <*>
    .required "name" Decode.text <*> .required "slug" Decode.text <*>
    .maybe "description" Decode.text <*> .required "trigger" TriggerSpec.decode <*>
    .withDefault "conditions" [] (Decode.list Condition.decode) <*>
    .withDefault "steps" [] Step.decodeList <*> .withDefault "isActive" true Decode.bool <*>
    .withDefault "isSystem" false Decode.bool <*> .maybe "createdBy" Decode.text

def decode : Decode.Decoder Action := record.decode "struct Action"

def encode (a : Action) : Json.Value :=
  .ofPresent [("_id", some (.string a.id)), ("workspaceId", some (.string a.workspaceId)),
    ("name", some (.string a.name)), ("slug", some (.string a.slug)),
    ("description", a.description.map .string), ("trigger", some a.trigger.encode),
    ("conditions", some (.array (a.conditions.map Condition.encode))),
    ("steps", some (.array (Step.encodeAll a.steps))), ("isActive", some (.bool a.isActive)),
    ("isSystem", some (.bool a.isSystem)), ("createdBy", a.createdBy.map .string)]

end Action
end Automation
