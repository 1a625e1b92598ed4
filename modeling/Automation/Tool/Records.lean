import Automation.RecordSearch
import Automation.Tool.Basic

/-!
The tools that every engine has: they read records of the caller's workspace.
-/
namespace Automation.Toolbox

def arguments {α : Type} (tool : String) (decode : Decode.Decoder α)
    (value : Json.Value) : Work ToolFailure α :=
  match decode (.ofValue value) with
  | .ok a => pure a
  | .error e => Work.fail (.raised (.validation (tool ++ ": " ++ e.message .json)))

def recordId : Decode.Decoder String :=
  Decode.Record.decode "struct GetRecordArgs" (.required "recordId" Decode.text)

/-- A record by its id; one of another workspace is not found. -/
def getRecord : Tool where
  name := "get_record"
  call c value ctx := do
    let id ← arguments "get_record" recordId value
    match ← c.get .records id with
    | some doc =>
      if doc.inWorkspace ctx.workspaceId then return .success doc.toValue
      else return missing id
    | none => return missing id
where
  missing (id : String) : ToolResult := .error (some ("Record not found: " ++ id))

structure SearchArguments where
  objectTypeId : String
  conditions : List Condition
  limit : Option Nat

def searchArguments : Decode.Decoder SearchArguments :=
  Decode.Record.decode "struct SearchRecordsArgs"
    (SearchArguments.mk <$> .required "objectTypeId" Decode.text <*>
      .withDefault "filters" [] (Decode.list Condition.decode) <*> .maybe "limit" Decode.size)

def defaultSearchLimit : Nat := 25

def maxSearchLimit : Nat := 100

/-- Records of an object type that meet conditions, and their number. -/
def searchRecords : Tool where
  name := "search_records"
  call c value ctx := do
    let args ← arguments "search_records" searchArguments value
    let search : RecordSearch := ⟨ctx.workspaceId, args.objectTypeId, args.conditions⟩
    let docs ← search.run c (min (args.limit.getD defaultSearchLimit) maxSearchLimit)
    return .success (.ofPairs [("records", .array (docs.map (·.toValue))),
      ("count", .ofNat docs.length)])

/-- The tools that read records. -/
def recordTools : Toolbox := (Toolbox.register {} getRecord).register searchRecords

end Automation.Toolbox
