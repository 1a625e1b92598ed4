import Automation.Engine.FieldStep
import Automation.Engine.ListStep
import Automation.Engine.OutsideStep
import Automation.Engine.RecordStep
import Automation.Execution
import Automation.RecordSearch
import Automation.Template

/-!
Running steps one after another. The first failed step ends its sequence. Branches and loop bodies
are sequences themselves, and a fatal error ends every sequence around it.
-/
namespace Automation

/-- How a sequence of steps came to its end, which a failed step may have brought about. -/
inductive Ending where
  | finished (ctx : Context)
  | aborted (error : StepError)
  | crashed (crash : Crash)

/-- One result for each step that was attempted. -/
structure Trace where
  results : List StepResult
  ending : Ending

/-- What came of one step. A step that fails may have an output all the same. -/
inductive StepOutcome where
  | completed (output : Json.Value) (ctx : Context)
  | failed (error : StepError) (output : Option Json.Value)
  | crashed (crash : Crash)

namespace Engine

def runPrimitive (engine : Engine) (ctx : Context) (stepId : String) :
    Primitive → Work StepError Json.Value
  | .field command recordId => engine.changeField ctx stepId command recordId
  | .createRecord objectTypeId data => engine.createRecord ctx stepId objectTypeId data
  | .deleteRecord recordId => engine.deleteRecord ctx stepId recordId
  | .archiveRecord recordId => engine.archiveRecord ctx stepId recordId
  | .list command listId recordId data =>
    engine.changeList ctx stepId command listId recordId data
  | .sendWebhook webhook => engine.sendWebhook ctx stepId webhook
  | .callTool tool arguments => engine.callTool ctx tool arguments

/-- A step that stopped has no output. -/
def StepOutcome.ofStop : Stop StepError → StepOutcome
  | .failed e => .failed e none
  | .crashed c => .crashed c

/-- A step that does one thing leaves the context as it is. -/
def primitiveOutcome (engine : Engine) (ctx : Context) (stepId : String) (p : Primitive) :
    Program StepOutcome := do
  match ← (engine.runPrimitive ctx stepId p).run with
  | .ok output => return .completed output ctx
  | .error stop => return StepOutcome.ofStop stop

/-- The record of the run as it is stored now, or else as it was in the beginning. -/
def currentRecord (engine : Engine) (ctx : Context) : Work StepError Json.Value := do
  match ctx.record with
  | none => return .null
  | some snapshot => match ← engine.records.get .records snapshot.id with
    | some doc => return (RecordSnapshot.ofDocument doc).toValue
    | none => return snapshot.toValue

def subjectValue (engine : Engine) (ctx : Context) : Subject → Work StepError Json.Value
  | .record => engine.currentRecord ctx
  | .previous => return ctx.previous.getD .null
  | .loopItem => return ctx.loopItem.getD .null

def branchOutput (holds : Bool) (results : List StepResult) : Json.Value :=
  .ofPairs [("result", .bool holds), ("branch", .string (if holds then "then" else "else")),
    ("stepResults", StepResult.encodeAll results)]

/-- The outcome of a condition whose branch was run. -/
def branchOutcome (holds : Bool) (trace : Trace) : StepOutcome :=
  let output := branchOutput holds trace.results
  match trace.ending with
  | .crashed c => .crashed c
  | .aborted e => .failed e (some output)
  | .finished ctx => match halted? trace.results with
    | some r => .failed (.branchFailed r.stepId (r.error.getD "")) (some output)
    | none => .completed output ctx

/-- Runs one of two branches; the context behind it is that of the branch. -/
def runCondition (engine : Engine) (ctx : Context) (conditions : List Condition)
    (subject : Subject) (thenBranch elseBranch : Context → Program Trace) :
    Program StepOutcome := do
  match ← (engine.subjectValue ctx subject).run with
  | .error stop => return StepOutcome.ofStop stop
  | .ok value =>
    let holds := Condition.allHold conditions value
    let trace ← if holds then thenBranch ctx else elseBranch ctx
    return branchOutcome holds trace

/-- How many items a loop may have and the depth of its body, if the engine admits the loop. -/
def loopBounds (engine : Engine) (ctx : Context) (stepId : String) (loopDepth : Nat)
    (maxIterations : Option Nat) : Except StepError (Nat × Nat) := do
  let max ← match maxIterations with
    | some (n + 1) => .ok (n + 1)
    | _ => .error (.validation ("Loop step '" ++ stepId ++
        "' requires maxIterations of at least 1"))
  let limit := engine.config.maxLoopIterations
  if limit < max then .error (.iterationLimitExceeded max limit)
  let maxNesting := engine.config.maxLoopNesting
  let depth ← ctx.bodyDepth maxNesting
  let deepest := ctx.nestingDepth + loopDepth
  if maxNesting < deepest then .error (.loopNestingExceeded deepest maxNesting)
  return (max, depth)

/-- The items of a loop; of records no more are read than tell whether there are too many. -/
def loopItems (engine : Engine) (ctx : Context) (settings : LoopSettings) (max : Nat) :
    Work StepError (List Json.Value) := do
  match settings.source with
  | .array => match settings.items with
    | some (.array items) => return items
    | _ => Work.fail (.validation "Loop source 'array' requires an items array")
  | .field => match Command.nonBlank? settings.field with
    | none => Work.fail (.validation "Loop source 'field' requires a field name")
    | some field =>
      let record ← engine.targetRecord ctx settings.recordId
      match fieldValue record field with
      | .null => return []
      | .array items => return items
      | _ => Work.fail (.validation ("Field '" ++ field ++ "' is not an array"))
  | .query => match Command.nonBlank? settings.objectTypeId with
    | none => Work.fail (.validation "Loop source 'query' requires an objectTypeId")
    | some objectTypeId =>
      let search : RecordSearch := ⟨ctx.workspaceId, objectTypeId, settings.filters⟩
      let docs ← search.run engine.records (max + 1)
      return docs.map fun doc => (RecordSnapshot.ofDocument doc).toValue

/-- Results of the iterations so far, and what ended them early. -/
structure Iterations where
  results : List (List StepResult)
  stop : Option (Stop StepError)

/-- Why an iteration ends its loop, if it does. -/
def iterationStop (index : Nat) (trace : Trace) : Option (Stop StepError) :=
  match trace.ending with
  | .crashed c => some (.crashed c)
  | .aborted e => some (.failed e)
  | .finished _ => (halted? trace.results).map fun r =>
    .failed (.iterationFailed index r.stepId (r.error.getD ""))

/-- Runs the body once for each item, from place `index` on, until an iteration fails. -/
def iterate (body : Json.Value → Nat → Program Trace) (index : Nat) :
    List Json.Value → Program Iterations
  | [] => return ⟨[], none⟩
  | item :: rest => do
    let trace ← body item index
    match iterationStop index trace with
    | some stop => return ⟨[trace.results], some stop⟩
    | none =>
      let others ← iterate body (index + 1) rest
      return ⟨trace.results :: others.results, others.stop⟩

def loopOutput (truncated : Bool) (iterations : List (List StepResult)) : Json.Value :=
  .ofPairs [("count", .ofNat iterations.length), ("truncated", .bool truncated),
    ("iterations", .array (iterations.mapIdx fun index results =>
      .ofPairs [("index", .ofNat index), ("stepResults", StepResult.encodeAll results)]))]

/-- The outcome of a loop; nothing of its iterations shows in the context behind it. -/
def loopOutcome (ctx : Context) (truncated : Bool) (iterations : Iterations) : StepOutcome :=
  let output := loopOutput truncated iterations.results
  match iterations.stop with
  | none => .completed output ctx
  | some (.failed e) => .failed e (some output)
  | some (.crashed c) => .crashed c

/-- Runs a body once for each item; every iteration starts from the context of the loop. -/
def runLoop (engine : Engine) (ctx : Context) (stepId : String) (loopDepth : Nat)
    (settings : LoopSettings) (body : Context → Program Trace) : Program StepOutcome :=
  match engine.loopBounds ctx stepId loopDepth settings.maxIterations with
  | .error e => return .failed e none
  | .ok (max, depth) => do
    match ← (engine.loopItems ctx settings max).run with
    | .error stop => return StepOutcome.ofStop stop
    | .ok items =>
      let iterations ← iterate (fun item index => body (ctx.atItem item index depth)) 0
        (items.take max)
      return loopOutcome ctx (max < items.length) iterations

mutual
/-- Runs one step with its placeholders filled in. -/
def runStep (engine : Engine) : Step → Context → Program StepOutcome
  | ⟨id, type, name, config, thenSteps, elseSteps, steps⟩, ctx =>
    match Command.parse type id (Template.resolve ctx config) with
    | .error e => return .failed e none
    | .ok (.primitive p) => engine.primitiveOutcome ctx id p
    | .ok (.condition conditions subject) =>
      engine.runCondition ctx conditions subject (fun ctx => runSequence engine thenSteps ctx)
        (fun ctx => runSequence engine elseSteps ctx)
    | .ok (.loop settings) =>
      let depth := Step.loopDepth ⟨id, type, name, config, thenSteps, elseSteps, steps⟩
      engine.runLoop ctx id depth settings fun ctx => runSequence engine steps ctx
termination_by structural step => step

/-- Runs steps one after another, each in the context that the one before leaves. -/
def runSequence (engine : Engine) : List Step → Context → Program Trace
  | [], ctx => return ⟨[], .finished ctx⟩
  | step :: rest, ctx => do
    let startedAt ← Program.now
    match ← runStep engine step ctx with
    | .crashed c => return ⟨[], .crashed c⟩
    | .failed e output =>
      let completedAt ← Program.now
      let ending := if e.isFatal then .aborted e else .finished ctx
      return ⟨[.failed step startedAt completedAt e.message output], ending⟩
    | .completed output next =>
      let completedAt ← Program.now
      let trace ← runSequence engine rest (next.withOutput step.id output)
      return ⟨.completed step startedAt completedAt output :: trace.results, trace.ending⟩
termination_by structural steps => steps
end

end Engine
end Automation
