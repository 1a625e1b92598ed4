import Automation.Cron.Schedule
import Automation.Engine.Lifecycle
import Automation.Trigger

/-!
Which actions run: those that somebody asks for, those that an event sets off, and those whose time
has come.
-/
namespace Automation.Engine

/-- The store as it is seen by those who look for actions. -/
def actions (engine : Engine) : Connection EngineError := engine.store .store

/-- The stored action of an id. -/
def loadAction (engine : Engine) (id : String) : Work EngineError Action := do
  match ← engine.actions.get .actions id with
  | none => Work.fail (.actionNotFound id)
  | some doc => Work.ofExcept ((doc.decodeAs Action.decode).mapError .store)

/-- The actions that a query finds; what cannot be read is left out. -/
def loadActions (engine : Engine) (q : Query) : Work EngineError (List Action) := do
  let docs ← engine.actions.query .actions q
  return docs.filterMap fun doc => (doc.decodeAs Action.decode).toOption

/-- Runs an active action of the workspace on request, whatever its conditions say. -/
def executeManual (engine : Engine) (workspaceId actionId : String)
    (recordId actorId : Option String) : Work EngineError ExecutionReport := do
  let action ← engine.loadAction actionId
  if action.workspaceId ≠ workspaceId then Work.fail (.wrongWorkspace actionId)
  else if !action.isActive then Work.fail (.actionInactive actionId)
  else
    let record ← match recordId with
      | none => pure none
      | some id =>
        let doc ← engine.actions.requireIn workspaceId .records id
        pure (some (RecordSnapshot.ofDocument doc))
    Work.mapError .lifecycle (engine.run action ⟨.manual, record, actorId⟩)

/-- The record of an event as it is stored in the workspace, or else as the event carries it. -/
def eventRecord (engine : Engine) (event : TriggerEvent) :
    Work EngineError (Option RecordSnapshot) := do
  match event.recordId with
  | none => return event.record
  | some id => match ← engine.actions.get .records id with
    | some doc =>
      if doc.inWorkspace event.workspaceId then return some (RecordSnapshot.ofDocument doc)
      else return event.record
    | none => return event.record

/-- Runs actions one after another; a run that cannot be opened or closed has no report. -/
def runAll (engine : Engine) (occasion : Occasion) :
    List Action → Work EngineError (List ExecutionReport)
  | [] => return []
  | action :: rest => do
    match ← Work.ofProgram (engine.run action occasion).run with
    | .error (.crashed c) => Work.crash c
    | .error (.failed _) => runAll engine occasion rest
    | .ok report =>
      let others ← runAll engine occasion rest
      return report :: others

/-- Runs the actions that an event sets off and whose conditions hold on its record. -/
def handleEvent (engine : Engine) (event : TriggerEvent) :
    Work EngineError (List ExecutionReport) := do
  let actions ← engine.loadActions (.byText [("workspaceId", event.workspaceId)])
  let selected := event.select actions
  if selected.isEmpty then return []
  else
    let record ← engine.eventRecord event
    let data := (record.map (·.toValue)).getD .null
    let runnable := selected.filter fun action => Condition.allHold action.conditions data
    engine.runAll ⟨.automatic, record, event.actorId⟩ runnable

/-- The action has a schedule that fires after `since` and not after `now`. -/
def isDue (since now : Time.Instant) (action : Action) : Bool :=
  action.isActive && match action.trigger.schedule.map Cron.Schedule.parse with
    | some (.ok schedule) => schedule.isDue since now
    | _ => false

/-- The scheduled actions whose time comes after `since` and not after `now`. -/
def dueActions (engine : Engine) (since now : Time.Instant) : Work EngineError (List Action) := do
  let actions ← engine.loadActions (.byText [("trigger.type", TriggerType.scheduled.name)])
  return actions.filter (isDue since now)

def runDue (engine : Engine) (since now : Time.Instant) :
    Work EngineError (List ExecutionReport) := do
  let due ← engine.dueActions since now
  engine.runAll ⟨.automatic, none, none⟩ due

end Automation.Engine
