import Automation.Condition.Basic
import Automation.Step.Error
import Automation.Step.Basic
import Automation.Text.Blank
import Automation.Webhook.Basic

/-!
What a step is to do, read from its settings once the placeholders in them are filled in.
-/
namespace Automation

/-- A change of one key of a record's data. -/
inductive FieldCommand where
  | update (field : String) (value : Json.Value)
  | clear (field : String)
  | copy (source target : String)
  | transform (field name : String) (target : Option String) (amount : Option Binary64)
      (decimals : Option Nat)
  deriving DecidableEq

/-- Something done to the entry that makes a record a member of a list. -/
inductive ListCommand where
  | add
  | remove
  | update
  deriving DecidableEq

/-- What a condition step looks at. -/
inductive Subject where
  | record
  | previous
  | loopItem
  deriving DecidableEq

/-- Where the items of a loop come from. -/
inductive LoopSource where
  | query
  | array
  | field
  deriving DecidableEq

structure LoopSettings where
  source : LoopSource
  items : Option Json.Value
  field : Option String
  objectTypeId : Option String
  filters : List Condition
  maxIterations : Option Nat
  recordId : Option String

/-- A step that does one thing. `recordId` names a record other than that of the run. -/
inductive Primitive where
  | field (command : FieldCommand) (recordId : Option String)
  | createRecord (objectTypeId : String) (data : Json.Members)
  | deleteRecord (recordId : Option String)
  | archiveRecord (recordId : Option String)
  | list (command : ListCommand) (listId : String) (recordId : Option String)
      (data : Option Json.Members)
  | sendWebhook (webhook : Webhook)
  | callTool (tool : String) (arguments : Json.Value)

inductive Command where
  | primitive (primitive : Primitive)
  | condition (conditions : List Condition) (subject : Subject)
  | loop (settings : LoopSettings)

namespace Command

open Decode

def recordId : Record (Option String) := .maybe "recordId" text

def updateFields : Record Primitive :=
  (fun field value => Primitive.field (.update field value)) <$> .required "field" text <*>
    .withDefault "value" .null value <*> recordId

def clearFields : Record Primitive :=
  (fun field => Primitive.field (.clear field)) <$> .required "field" text <*> recordId

def copyFields : Record Primitive :=
  (fun source target => Primitive.field (.copy source target)) <$> .required "sourceField" text <*>
    .required "targetField" text <*> recordId

def transformFields : Record Primitive :=
  (fun field name target amount decimals =>
      Primitive.field (.transform field name target amount decimals)) <$>
    .required "field" text <*> .required "transform" text <*> .maybe "targetField" text <*>
    .maybe "amount" float <*> .maybe "decimals" nat32 <*> recordId

def createFields : Record Primitive :=
  .createRecord <$> .required "objectTypeId" text <*> .withDefault "data" [] members

def listFields (command : ListCommand) : Record Primitive :=
  .list command <$> .required "listId" text <*> recordId <*> .maybe "data" members

def toolFields : Record Primitive :=
  .callTool <$> .requiredAs "tool" ["toolName"] text <*> .withDefault "arguments" .null value

def Subject.decode : Decoder Subject :=
  choice [("record", .record), ("previous", .previous), ("loopItem", .loopItem)]

def conditionFields : Record Command :=
  .condition <$> .required "conditions" (list Condition.decode) <*>
    .withDefault "subject" .record Subject.decode

def LoopSource.decode : Decoder LoopSource :=
  choice [("query", .query), ("array", .array), ("field", .field)]

def loopFields : Record Command :=
  (fun source items field objectTypeId filters maxIterations recordId =>
      .loop { source, items, field, objectTypeId, filters, maxIterations, recordId }) <$>
    .required "source" LoopSource.decode <*> .maybe "items" value <*> .maybe "field" text <*>
    .maybe "objectTypeId" text <*> .withDefault "filters" [] (list Condition.decode) <*>
    .maybe "maxIterations" nat64 <*> recordId

def primitively (kind : String) (fields : Record Primitive) : Decoder Command := fun tree =>
  (fields.decode kind tree).map .primitive

/-- How the settings of a kind of step are read; other names stand for no kind. -/
def decoder? : StepType → Option (Decoder Command)
  | .updateField => some (primitively "struct UpdateFieldConfig" updateFields)
  | .clearField => some (primitively "struct ClearFieldConfig" clearFields)
  | .copyField => some (primitively "struct CopyFieldConfig" copyFields)
  | .transformField => some (primitively "struct TransformFieldConfig" transformFields)
  | .createRecord => some (primitively "struct CreateRecordConfig" createFields)
  | .deleteRecord => some (primitively "struct RecordRef" (.deleteRecord <$> recordId))
  | .archiveRecord => some (primitively "struct RecordRef" (.archiveRecord <$> recordId))
  | .addToList => some (primitively "struct ListEntryConfig" (listFields .add))
  | .removeFromList => some (primitively "struct ListEntryConfig" (listFields .remove))
  | .updateListEntry => some (primitively "struct ListEntryConfig" (listFields .update))
  | .sendWebhook => some fun tree => (Webhook.decode tree).map fun w => .primitive (.sendWebhook w)
  | .condition => some (conditionFields.decode "struct ConditionConfig")
  | .loop => some (loopFields.decode "struct LoopConfig")
  | .callTool => some (primitively "struct ToolCallConfig" toolFields)
  | .unknown _ => none

/-- Settings that are missing are an empty object. -/
def settings : Json.Value → Json.Value
  | .null => .object []
  | value => value

/-- The command of a step with settings whose placeholders are filled in. -/
def parse (type : StepType) (stepId : String) (config : Json.Value) : Except StepError Command :=
  match decoder? type with
  | none => .error (.validation ("Unknown step type: " ++ type.name))
  | some decode => (decode (.ofValue (settings config))).mapError fun e =>
    .validation ("Invalid " ++ type.name ++ " config for step '" ++ stepId ++ "': " ++
      e.message .json)

/-- An id that is more than blanks. -/
def nonBlank? (id : Option String) : Option String :=
  (id.map Text.trim).filter (!·.isEmpty)

end Command
end Automation
