import Automation.Action
import Automation.Config
import Automation.Cron.Schedule

/-!
Faults of an action that show before it runs.
-/
namespace Automation

inductive Fault where
  | noSchedule
  | badSchedule (error : Cron.ScheduleError)
  | nothingWatched
  | duplicateId
  | unknownType (name : String)
  | noConditions
  | nestedTooDeep (depth max : Nat)
  | noMaxIterations
  | tooManyIterations (requested limit : Nat)
  | strayBranches
  | strayBody
  deriving DecidableEq

def Fault.message : Fault → String
  | noSchedule => "Scheduled trigger requires a cron schedule"
  | badSchedule error => error.message
  | nothingWatched => "onFieldChange trigger without watchedFields never fires"
  | duplicateId => "Duplicate step id"
  | unknownType name => "Unknown step type: " ++ name
  | noConditions => "Condition step has no conditions"
  | nestedTooDeep depth max =>
    "Loop nesting depth " ++ toString depth ++ " is above the maximum of " ++ toString max
  | noMaxIterations => "Loop requires maxIterations of at least 1"
  | tooManyIterations requested limit =>
    "maxIterations " ++ toString requested ++ " is above the limit of " ++ toString limit
  | strayBranches => "Only condition steps may have thenSteps or elseSteps"
  | strayBody => "Only loop steps may have nested steps"

/-- A fault of one step, or of the action as a whole. -/
structure ValidationIssue where
  stepId : Option String
  fault : Fault
  deriving DecidableEq

namespace ValidationIssue

def encode (issue : ValidationIssue) : Json.Value :=
  .ofPresent [("stepId", issue.stepId.map .string), ("message", some (.string issue.fault.message))]

def toText (issue : ValidationIssue) : String :=
  match issue.stepId with
  | some id => "step '" ++ id ++ "': " ++ issue.fault.message
  | none => issue.fault.message

end ValidationIssue

namespace Validation

def triggerFaults (trigger : TriggerSpec) : List Fault :=
  match trigger.type with
  | .scheduled => match trigger.schedule with
    | none => [.noSchedule]
    | some text => match Cron.Schedule.parse text with
      | .ok _ => []
      | .error e => [.badSchedule e]
  | .onFieldChange =>
    if (trigger.watchedFields.getD []).isEmpty then [.nothingWatched] else []
  | _ => []

/-- Faults of a loop inside so many loops, itself counted. -/
def loopFaults (config : Config) (depth : Nat) (settings : Json.Value) : List Fault :=
  (if config.maxLoopNesting < depth then [.nestedTooDeep depth config.maxLoopNesting] else []) ++
    match (settings.member? "maxIterations").bind (·.asNat64?) with
    | none | some 0 => [.noMaxIterations]
    | some n =>
      if config.maxLoopIterations < n then [.tooManyIterations n config.maxLoopIterations] else []

def hasConditions (settings : Json.Value) : Bool :=
  ((settings.member? "conditions").bind (·.asArray?)).any (!·.isEmpty)

/-- The depth of loops at which a step's children stand. -/
def childDepth (type : StepType) (depth : Nat) : Nat := if type = .loop then depth + 1 else depth

/-- Faults of a step itself. -/
def stepFaults (config : Config) (depth : Nat) (seen : List String) (step : Step) : List Fault :=
  (if seen.contains step.id then [.duplicateId] else []) ++
    (match step.type with
      | .unknown name => [.unknownType name]
      | .condition => if hasConditions step.config then [] else [.noConditions]
      | .loop => loopFaults config (depth + 1) step.config
      | _ => []) ++
    (if step.type != .condition && !(step.thenSteps.isEmpty && step.elseSteps.isEmpty) then
      [.strayBranches] else []) ++
    (if step.type != .loop && !step.steps.isEmpty then [.strayBody] else [])

mutual
/-- Issues of a step and of those inside it, and the ids seen by then. -/
def stepIssues (config : Config) (depth : Nat) (seen : List String) :
    Step → List ValidationIssue × List String
  | ⟨id, type, name, settings, thenSteps, elseSteps, steps⟩ =>
    let own := stepFaults config depth seen ⟨id, type, name, settings, thenSteps, elseSteps, steps⟩
    let depth := childDepth type depth
    let (a, seen) := stepsIssues config depth (id :: seen) thenSteps
    let (b, seen) := stepsIssues config depth seen elseSteps
    let (c, seen) := stepsIssues config depth seen steps
    (own.map (⟨some id, ·⟩) ++ a ++ b ++ c, seen)
termination_by structural step => step

def stepsIssues (config : Config) (depth : Nat) (seen : List String) :
    List Step → List ValidationIssue × List String
  | [] => ([], seen)
  | step :: rest =>
    let (first, seen) := stepIssues config depth seen step
    let (others, seen) := stepsIssues config depth seen rest
    (first ++ others, seen)
termination_by structural steps => steps
end

end Validation

/-- All faults of an action; none of them means that it is well formed. -/
def Action.issues (a : Action) (config : Config) : List ValidationIssue :=
  (Validation.triggerFaults a.trigger).map (⟨none, ·⟩) ++
    (Validation.stepsIssues config 0 [] a.steps).1

end Automation
