import Automation.Json.Value

/-!
Steps: one unit of work each, with the steps nested in it.
-/
namespace Automation

/-- A name that stands for no kind of step is kept, so that it fails only when the step runs. -/
inductive StepType where
  | updateField
  | clearField
  | copyField
  | transformField
  | createRecord
  | deleteRecord
  | archiveRecord
  | addToList
  | removeFromList
  | updateListEntry
  | sendWebhook
  | condition
  | loop
  | callTool
  | unknown (name : String)
  deriving DecidableEq

namespace StepType

def name : StepType → String
  | updateField => "updateField"
  | clearField => "clearField"
  | copyField => "copyField"
  | transformField => "transformField"
  | createRecord => "createRecord"
  | deleteRecord => "deleteRecord"
  | archiveRecord => "archiveRecord"
  | addToList => "addToList"
  | removeFromList => "removeFromList"
  | updateListEntry => "updateListEntry"
  | sendWebhook => "sendWebhook"
  | condition => "condition"
  | loop => "loop"
  | callTool => "callMcpTool"
  | unknown name => name

def known : List StepType :=
  [updateField, clearField, copyField, transformField, createRecord, deleteRecord, archiveRecord,
    addToList, removeFromList, updateListEntry, sendWebhook, condition, loop, callTool]

def ofName (text : String) : StepType := (known.find? (·.name == text)).getD (unknown text)

def isKnown : StepType → Bool
  | unknown _ => false
  | _ => true

end StepType

/-- `config` may hold placeholders. Branches belong to conditions and `steps` to loops. -/
structure Step where
  id : String
  type : StepType
  name : Option String
  config : Json.Value
  thenSteps : List Step
  elseSteps : List Step
  steps : List Step

namespace Step

/-- The steps directly inside, in the order they are declared. -/
def children (step : Step) : List Step := step.thenSteps ++ step.elseSteps ++ step.steps

mutual
/-- Most loops on one path from this step down, itself among them. -/
def loopDepth : Step → Nat
  | ⟨_, type, _, _, thenSteps, elseSteps, steps⟩ =>
    let inner := max (max (loopDepths thenSteps) (loopDepths elseSteps)) (loopDepths steps)
    if type = .loop then inner + 1 else inner
termination_by structural step => step

def loopDepths : List Step → Nat
  | [] => 0
  | step :: rest => max (loopDepth step) (loopDepths rest)
termination_by structural steps => steps
end

private def nested (name : String) (steps : List Json.Value) : String × Option Json.Value :=
  (name, if steps.isEmpty then none else some (.array steps))

mutual
def encode : Step → Json.Value
  | ⟨id, type, name, config, thenSteps, elseSteps, steps⟩ =>
    .ofPresent [("id", some (.string id)), ("type", some (.string type.name)),
      ("name", name.map .string), ("config", if config.isNull then none else some config),
      nested "thenSteps" (encodeAll thenSteps), nested "elseSteps" (encodeAll elseSteps),
      nested "steps" (encodeAll steps)]
termination_by structural step => step

def encodeAll : List Step → List Json.Value
  | [] => []
  | step :: rest => encode step :: encodeAll rest
termination_by structural steps => steps
end

end Step
end Automation
