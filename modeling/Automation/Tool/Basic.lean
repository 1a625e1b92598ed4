import Automation.Step.Error
import Automation.Text.Shown
import Automation.Work

/-!
Tools that a step can call by name.
-/
namespace Automation

/-- On whose behalf a tool is called. -/
structure ToolContext where
  workspaceId : String
  actorId : Option String
  executionId : Option String
  deriving DecidableEq

/-- A tool may tell of an error of its own, with or without a text. -/
inductive ToolResult where
  | success (data : Json.Value)
  | error (text : Option String)
  deriving DecidableEq

def ToolResult.encode : ToolResult → Json.Value
  | success data => .ofPairs [("status", .string "success"), ("data", data)]
  | error text => .ofPresent [("status", some (.string "error")), ("error", text.map .string)]

/-- A call that stalls never comes to an end by itself. -/
inductive ToolFailure where
  | raised (error : StepError)
  | stalled
  deriving DecidableEq

structure Tool where
  name : String
  call : Connection ToolFailure → Json.Value → ToolContext → Work ToolFailure ToolResult

/-- Tools in the order of their names, one for each name. -/
structure Toolbox where
  tools : List Tool := []

namespace Toolbox

private def place (tool : Tool) : List Tool → List Tool
  | [] => [tool]
  | other :: rest =>
    if other.name = tool.name then tool :: rest
    else if tool.name < other.name then tool :: other :: rest
    else other :: place tool rest

/-- Takes the place of a tool with the same name. -/
def register (box : Toolbox) (tool : Tool) : Toolbox := ⟨place tool box.tools⟩

def find? (box : Toolbox) (name : String) : Option Tool := box.tools.find? (·.name == name)

def has (box : Toolbox) (name : String) : Bool := (box.find? name).isSome

def names (box : Toolbox) : List String := box.tools.map (·.name)

def toText (box : Toolbox) : String :=
  "ToolRegistry \x7b tools: [" ++ ", ".intercalate (box.names.map Text.shown) ++ "] \x7d"

def call (box : Toolbox) (c : Connection ToolFailure) (name : String) (arguments : Json.Value)
    (ctx : ToolContext) : Work ToolFailure ToolResult :=
  match box.find? name with
  | some tool => tool.call c arguments ctx
  | none => Work.fail (.raised (.validation ("Unknown tool: " ++ name)))

end Toolbox
end Automation
