import Automation.Decode.Basic
import Automation.Duration

/-!
The tables of a store, and the fields that the store itself keeps in every document.
-/
namespace Automation

inductive Table where
  | objectTypes
  | records
  | lists
  | listEntries
  | actions
  | actionExecutions
  | auditLogs
  | webhookLogs
  deriving DecidableEq

namespace Table

def name : Table → String
  | objectTypes => "objectTypes"
  | records => "records"
  | lists => "lists"
  | listEntries => "listEntries"
  | actions => "actions"
  | actionExecutions => "actionExecutions"
  | auditLogs => "auditLogs"
  | webhookLogs => "webhookLogs"

def all : List Table :=
  [objectTypes, records, lists, listEntries, actions, actionExecutions, auditLogs, webhookLogs]

def decode : Decode.Decoder Table := Decode.choice (all.map fun table => (table.name, table))

end Table

/-- Name of the field that holds a document's id. -/
def idField : String := "_id"

/-- Name of the field that holds when a document was made, in milliseconds since 1970. -/
def creationTimeField : String := "_creationTime"

end Automation

/-!
Why a store operation failed.
-/
namespace Automation

inductive StoreError where
  | notFound (table : Table) (id : String)
  | wrongWorkspace (table : Table) (id : String)
  | timeout (limit : Duration)
  | unavailable (reason : String)
  | serialization (reason : String)
  deriving DecidableEq

namespace StoreError

/-- No step can go on after a lost connection or corrupt data. -/
def isFatal : StoreError → Bool
  | unavailable _ | serialization _ => true
  | notFound _ _ | wrongWorkspace _ _ | timeout _ => false

def message : StoreError → String
  | notFound table id => table.name ++ " document not found: " ++ id
  | wrongWorkspace table id =>
    table.name ++ " document " ++ id ++ " belongs to another workspace"
  | timeout limit => "Store operation timed out after " ++ limit.toText
  | unavailable reason => "Store unavailable: " ++ reason
  | serialization reason => "Store serialization error: " ++ reason

end StoreError
end Automation
