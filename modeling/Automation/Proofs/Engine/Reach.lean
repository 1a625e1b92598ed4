import Automation.Proofs.Engine.Attempts
import Automation.Proofs.Engine.Interpretation
import Automation.Proofs.Engine.Plan
import Automation.Proofs.Engine.WrittenFields
import Automation.Proofs.Program.Asks
import Automation.Engine.Lifecycle
import Automation.Tool.Records

/-!
What the parts of a run ask for. Opening and closing a run concerns stored runs only, and the steps in
between concern neither these nor actions.
-/
namespace Automation

namespace Step

mutual
/-- All steps of the tree are of such types. -/
def Typed (types : StepType → Prop) : Step → Prop
  | ⟨_, type, _, _, thenSteps, elseSteps, steps⟩ => types type ∧ TypedAll types thenSteps ∧
      TypedAll types elseSteps ∧ TypedAll types steps
termination_by structural step => step

def TypedAll (types : StepType → Prop) : List Step → Prop
  | [] => True
  | step :: rest => Typed types step ∧ TypedAll types rest
termination_by structural steps => steps
end

end Step

/-- Tables that steps have to do with. -/
def Table.OfSteps (table : Table) : Prop := table ≠ .actions ∧ table ≠ .actionExecutions

/-- Tables that steps look into. -/
def Table.OfData : Table → Prop
  | .objectTypes | .records | .lists | .listEntries => True
  | .actions | .actionExecutions | .auditLogs | .webhookLogs => False

theorem Table.OfData.ofSteps : ∀ {table : Table}, table.OfData → table.OfSteps
  | .objectTypes, _ | .records, _ | .lists, _ | .listEntries, _ => ⟨nofun, nofun⟩

/-- The operations by which a step may change the store, apart from deleting the entries of a record. -/
inductive Primitive.MayDo : Primitive → StoreOp → Prop
  | change {command : FieldCommand} {recordId : Option String} {id : String} {u : DocumentUpdate}
      (spares : u.SparesLinks) : MayDo (.field command recordId) (.update .records id u)
  | create {objectTypeId : String} {data fields : Json.Members} :
      MayDo (.createRecord objectTypeId data) (.insert .records fields)
  | drop {recordId : Option String} {id : String} : MayDo (.deleteRecord recordId) (.delete .records id)
  | archive {recordId : Option String} {id : String} {u : DocumentUpdate} (spares : u.SparesLinks) :
      MayDo (.archiveRecord recordId) (.update .records id u)
  | enter {listId : String} {recordId : Option String} {data : Option Json.Members}
      {fields : Json.Members} : MayDo (.list .add listId recordId data) (.insert .listEntries fields)
  | leave {listId : String} {recordId : Option String} {data : Option Json.Members} {id : String} :
      MayDo (.list .remove listId recordId data) (.delete .listEntries id)
  | amend {listId : String} {recordId : Option String} {data : Option Json.Members} {id : String}
      {u : DocumentUpdate} (spares : u.SparesLinks) :
      MayDo (.list .update listId recordId data) (.update .listEntries id u)

/-- What is intended is done by such an operation. -/
def Intent.Suits (p : Primitive) : Intent → Prop
  | .rest _ => True
  | .act _ op _ _ => p.MayDo op

namespace Engine

open Work Connection

variable {engine : Engine} {ctx : Context} {stepId : String} {kind : Effect → Prop}

private theorem ofRun {op : StoreOp} (h : op.table = .actionExecutions) :
    Effect.On (· = .actionExecutions) (.store op) := h

theorem start_asks (action : Action) (occasion : Occasion) :
    (engine.start action occasion).Asks (Effect.On (· = .actionExecutions)) fun _ => True := by
  refine (asks_ofProgram (Program.asks_now trivial)).bind fun now _ => ?_
  refine (asks_ofExcept fun _ _ => trivial).bind fun fields _ => ?_
  refine (asks_ask (ofRun rfl)).bind fun id _ => ?_
  exact (asks_patch (ofRun rfl)).bind fun _ _ => asks_pure trivial

private theorem load_asks (id : String) :
    (engine.load id).Asks (Effect.On (· = .actionExecutions)) fun _ => True := by
  refine (asks_ask (ofRun rfl)).bind fun found _ => ?_
  cases found with
  | none => exact asks_fail _
  | some doc => exact asks_ofExcept fun _ _ => trivial

/-- Who closes a run makes of it what its results say. -/
theorem finish_asks (id : String) (results : List StepResult) (stop : Option String) :
    (engine.finish id results stop).Asks (Effect.On (· = .actionExecutions))
      (· = (summarize results stop).1) := by
  refine (load_asks id).bind fun execution _ => ?_
  dsimp only
  split
  · exact asks_fail _
  · refine (asks_ofProgram (Program.asks_now trivial)).bind fun now _ => ?_
    refine (asks_ask (ofRun rfl)).bind fun applied _ => ?_
    split
    · exact asks_pure rfl
    · exact (load_asks id).bind fun current _ => asks_fail _

theorem writeAudit_asks {entry : AuditEntry} (h : ∀ fields, kind (.store (.insert .auditLogs fields))) :
    (engine.writeAudit entry).Asks kind fun _ => True :=
  (asks_ofExcept fun _ _ => trivial).bind fun fields _ =>
    (asks_ask (h fields)).bind fun _ _ => asks_pure trivial

theorem audit_asks {entry : AuditEntry} (h : ∀ fields, kind (.store (.insert .auditLogs fields))) :
    (engine.audit ctx stepId entry).Asks kind fun _ => True := (writeAudit_asks h).ignoring

/-- Where the store answers, the audit log takes an entry or loses it. -/
theorem ignoring_writeAudit {ε σ : Type} {world : World σ} {policy : Policy σ} {kept : σ → Prop}
    {stop : Stop ε → σ → Prop} {s : σ} (entry : AuditEntry)
    (permitted : ∀ fields, policy.permitted (.store (.insert .auditLogs fields)) s)
    (sighted : ∀ effect reply twin, ¬policy.twins effect s reply twin)
    (answers : ∀ fields reply after, world (.store (.insert .auditLogs fields)) s reply after →
      (∃ answer, reply = .answered answer) ∧ kept after) :
    (Work.ignoring (engine.writeAudit entry)).Meets world policy (fun _ => kept) stop s := by
  obtain ⟨fields, encoded⟩ : ∃ fields, Document.fieldsOf entry.encode = .ok fields := ⟨_, rfl⟩
  refine Work.Meets.ignoring ?_
  unfold writeAudit
  rw [encoded]
  refine Connection.meets_askThen (permitted fields) (fun reply twin same => absurd same ?_)
    fun reply after w => ?_
  · exact sighted _ reply twin
  · obtain ⟨⟨answer, rfl⟩, kept⟩ := answers fields reply after w
    cases answer <;> exact kept

/-- Effects that are enough for steps to look at what is stored, and to ask others. -/
structure Looking (kind : Effect → Prop) : Prop where
  clock : kind .clock
  exchange : ∀ request deadline, kind (.exchange request deadline)
  get : ∀ table id, table.OfData → kind (.store (.get table id))
  query : ∀ table q, table.OfData → kind (.store (.query table q))

/-- Effects that are enough for steps that neither add to a list nor delete a record. -/
structure Ordinary (kind : Effect → Prop) : Prop extends Looking kind where
  insert : ∀ table fields, table.OfSteps → table ≠ .listEntries → kind (.store (.insert table fields))
  update : ∀ table id u, table.OfSteps → u.SparesLinks → kind (.store (.update table id u))
  leave : ∀ id, kind (.store (.delete .listEntries id))

/-- Effects that are enough for all steps. -/
structure Sufficient (kind : Effect → Prop) : Prop extends Ordinary kind where
  enter : ∀ fields, kind (.store (.insert .listEntries fields))
  drop : ∀ id, kind (.store (.delete .records id))

theorem sufficient_ofSteps : Sufficient (Effect.On Table.OfSteps) where
  clock := trivial
  exchange _ _ := trivial
  get _ _ h := h.ofSteps
  query _ _ h := h.ofSteps
  insert _ _ h _ := h
  update _ _ _ h _ := h
  leave _ := ⟨nofun, nofun⟩
  enter _ := ⟨nofun, nofun⟩
  drop _ := ⟨nofun, nofun⟩

theorem Ordinary.audit {entry : AuditEntry} (o : Ordinary kind) :
    (engine.audit ctx stepId entry).Asks kind fun _ => True :=
  audit_asks fun fields => o.insert .auditLogs fields ⟨nofun, nofun⟩ nofun

theorem Looking.now (o : Looking kind) {ε : Type} :
    (Work.ofProgram Program.now : Work ε Time.Instant).Asks kind fun _ => True :=
  asks_ofProgram (Program.asks_now o.clock)

theorem Looking.targetRecord {recordId : Option String} (o : Looking kind) :
    (engine.targetRecord ctx recordId).Asks kind fun _ => True :=
  (asks_ofExcept fun _ _ => trivial).bind fun _ _ => asks_requireIn (o.get .records _ trivial)

theorem Looking.membership {listId : String} {recordId : Option String} (o : Looking kind) :
    (engine.membership ctx listId recordId).Asks kind fun _ => True := by
  refine (asks_requireIn (o.get .lists _ trivial)).bind fun list _ => ?_
  refine (asks_ofExcept fun _ _ => trivial).bind fun id _ => ?_
  exact (asks_first (o.query .listEntries _ trivial)).bind fun _ _ => asks_pure trivial

/-- Who plans only looks at what is stored. -/
theorem Looking.plan (o : Looking kind) (p : Primitive) :
    (engine.plan ctx p).Asks kind (Intent.Suits p) := by
  cases p with
  | field command recordId =>
    refine o.targetRecord.bind fun record _ => ?_
    refine (asks_ofExcept fun _ _ => trivial).bind fun change _ => ?_
    exact o.now.bind fun now _ => asks_pure (.change (change.sparesLinks now))
  | createRecord objectTypeId data =>
    exact (asks_requireIn (o.get .objectTypes _ trivial)).bind fun _ _ => asks_pure .create
  | deleteRecord recordId =>
    refine o.targetRecord.bind fun record _ => ?_
    exact (asks_ask (o.query .listEntries _ trivial)).bind fun entries _ => asks_pure .drop
  | archiveRecord recordId =>
    refine o.targetRecord.bind fun record _ => ?_
    exact o.now.bind fun now _ => asks_pure (.archive (archive_sparesLinks now))
  | list command listId recordId data =>
    refine o.membership.bind fun m _ => ?_
    cases command with
    | add =>
      dsimp only
      split
      · exact asks_pure trivial
      · exact (asks_requireIn (o.get .records _ trivial)).bind fun _ _ => asks_pure .enter
    | remove => exact (asks_ofExcept fun _ _ => trivial).bind fun entry _ => asks_pure .leave
    | update =>
      refine (asks_ofExcept fun _ _ => trivial).bind fun entry _ => ?_
      exact o.now.bind fun now _ => asks_pure (.amend (entryUpdate_sparesLinks _ now))
  | sendWebhook webhook => exact asks_pure trivial
  | callTool tool arguments => exact asks_pure trivial

theorem deleteEntries_asks (leaves : ∀ id, kind (.store (.delete .listEntries id)))
    (entries : List Document) : (engine.deleteEntries entries).Asks kind fun _ => True := by
  induction entries with
  | nil => exact asks_pure trivial
  | cons entry rest ih => exact (asks_ask (leaves entry.id)).bind fun _ _ => ih

/-- A step that changes the store asks for no more than what it plans takes. -/
theorem Looking.mutating {p : Primitive} (o : Looking kind) (mutates : p.type.mutates = true)
    (does : ∀ op, p.MayDo op → kind (.store op))
    (leaves : ∀ id, kind (.store (.delete .listEntries id)))
    (tells : ∀ fields, kind (.store (.insert .auditLogs fields))) :
    (engine.runPrimitive ctx stepId p).Asks kind fun _ => True := by
  rw [runPrimitive_eq engine ctx stepId mutates]
  refine (o.plan p).bind fun intent suits => ?_
  cases intent with
  | rest output => exact asks_pure trivial
  | act entries op entry output =>
    refine (deleteEntries_asks leaves entries).bind fun _ _ => ?_
    refine (asks_ask (does op suits)).bind fun answer _ => ?_
    exact (audit_asks tells).bind fun _ _ => asks_pure trivial

theorem Looking.send (o : Looking kind) (sender : Webhook.Sender) (w : Webhook) :
    (sender.send w).Asks kind fun _ => True := by
  have clock : Program.now.Asks kind fun _ => True := Program.asks_now o.clock
  refine clock.bind fun started _ _ => ?_
  have attempt : (sender.attempt w).Asks kind fun _ => True := by
    unfold Webhook.Sender.attempt
    split
    · trivial
    · split
      · trivial
      · split
        · trivial
        · refine clock.bind fun started _ _ => ⟨o.exchange _ _, nofun, fun reply _ _ => ?_⟩
          cases reply with
          | expired => trivial
          | unreachable => trivial
          | response status body => exact clock.bind fun ended _ _ => trivial
  exact attempt.bind fun _ _ _ => clock.bind fun _ _ _ => trivial

/-- A webhook takes that the log of it may be stored. -/
theorem Looking.sendWebhook {w : Webhook} (o : Looking kind)
    (logs : ∀ fields, kind (.store (.insert .webhookLogs fields))) :
    (engine.sendWebhook ctx stepId w).Asks kind fun _ => True := by
  refine (asks_ofProgram (o.send engine.sender w)).bind fun delivery _ => ?_
  have logged : (engine.writeWebhookLog ctx stepId delivery.log).Asks kind fun _ => True := by
    refine (asks_ofExcept fun _ _ => trivial).bind fun fields _ => ?_
    exact (asks_ask (logs fields)).bind fun _ _ => asks_pure trivial
  refine logged.ignoring.bind fun _ _ => ?_
  exact (asks_ofExcept fun _ _ => trivial).bind fun _ _ => asks_pure trivial

/-- All that tools ask is of the kind, whatever they are called with. -/
def ToolsAsk (engine : Engine) (kind : Effect → Prop) : Prop := ∀ tool arguments caller,
  (engine.tools.call engine.toolStore tool arguments caller).Asks kind fun _ => True

theorem callTool_asks (tools : engine.ToolsAsk kind) {tool : String}
    {arguments : Json.Value} : (engine.callTool ctx tool arguments).Asks kind fun _ => True := by
  refine (tools tool _ _).mapError.bind fun result _ => ?_
  cases result with
  | success data => exact asks_pure trivial
  | error text => exact asks_fail _

/-- A step that does not change the store stores the log of a webhook, or calls a tool. -/
theorem Looking.idle {p : Primitive} (o : Looking kind) (idle : p.type.mutates = false)
    (logs : ∀ fields, kind (.store (.insert .webhookLogs fields))) (tools : engine.ToolsAsk kind) :
    (engine.runPrimitive ctx stepId p).Asks kind fun _ => True := by
  cases p with
  | sendWebhook webhook => exact o.sendWebhook logs
  | callTool tool arguments => exact callTool_asks tools
  | field command recordId => cases command <;> cases idle
  | list command listId recordId data => cases command <;> cases idle
  | _ => cases idle

/-- A step that does one thing asks for what that takes. -/
theorem runStep_asks {step : Step} (notCondition : step.type ≠ .condition) (notLoop : step.type ≠ .loop)
    (does : ∀ p, Command.parse step.type step.id (Template.resolve ctx step.config) = .ok (.primitive p) →
      (engine.runPrimitive ctx step.id p).Asks kind fun _ => True) :
    (engine.runStep step ctx).Asks kind fun _ => True := by
  obtain ⟨id, type, name, config, thenSteps, elseSteps, steps⟩ := step
  unfold runStep
  split
  · trivial
  · next p parsed =>
    refine Program.Meets.bind (does p parsed) ?_
    rintro (stop | v) _ _
    · trivial
    · trivial
  · next parsed => exact absurd (Command.suits_of_parse parsed) notCondition
  · next parsed => exact absurd (Command.suits_of_parse parsed) notLoop

/-- What steps do that change the store. -/
theorem Ordinary.mutating {p : Primitive} (o : Ordinary kind) (mutates : p.type.mutates = true)
    (enters : p.type = .addToList → ∀ fields, kind (.store (.insert .listEntries fields)))
    (drops : p.type = .deleteRecord → ∀ id, kind (.store (.delete .records id))) :
    (engine.runPrimitive ctx stepId p).Asks kind fun _ => True := by
  refine o.toLooking.mutating mutates ?_ o.leave fun _ => o.insert .auditLogs _ ⟨nofun, nofun⟩ nofun
  intro op may
  cases may with
  | change spares => exact o.update .records _ _ ⟨nofun, nofun⟩ spares
  | create => exact o.insert .records _ ⟨nofun, nofun⟩ nofun
  | drop => exact drops rfl _
  | archive spares => exact o.update .records _ _ ⟨nofun, nofun⟩ spares
  | enter => exact enters rfl _
  | leave => exact o.leave _
  | amend spares => exact o.update .listEntries _ _ ⟨nofun, nofun⟩ spares

private theorem Ordinary.idle {p : Primitive} (o : Ordinary kind) (idle : p.type.mutates = false)
    (tools : engine.ToolsAsk kind) : (engine.runPrimitive ctx stepId p).Asks kind fun _ => True :=
  o.toLooking.idle idle (fun _ => o.insert .webhookLogs _ ⟨nofun, nofun⟩ nofun) tools

/-- What steps do by themselves that neither add to a list nor delete a record. -/
theorem Ordinary.primitive {p : Primitive} (o : Ordinary kind) (tools : engine.ToolsAsk kind)
    (adds : p.type ≠ .addToList) (deletes : p.type ≠ .deleteRecord) :
    (engine.runPrimitive ctx stepId p).Asks kind fun _ => True := by
  cases mutates : p.type.mutates with
  | true => exact o.mutating mutates (fun same => absurd same adds) fun same => absurd same deletes
  | false => exact o.idle mutates tools

theorem Sufficient.primitive {p : Primitive} (o : Sufficient kind) (tools : engine.ToolsAsk kind) :
    (engine.runPrimitive ctx stepId p).Asks kind fun _ => True := by
  cases mutates : p.type.mutates with
  | true => exact o.toOrdinary.mutating mutates (fun _ => o.enter) fun _ => o.drop
  | false => exact o.toOrdinary.idle mutates tools

private theorem search_asks {ε : Type} (o : Looking kind) (search : RecordSearch) (c : Connection ε)
    (limit : Nat) : (search.run c limit).Asks kind fun _ => True :=
  (asks_ask (o.query .records _ trivial)).bind fun _ _ => asks_pure trivial

theorem Looking.subject (o : Looking kind) (subject : Subject) :
    (engine.subjectValue ctx subject).Asks kind fun _ => True := by
  cases subject with
  | record =>
    change (engine.currentRecord ctx).Asks kind fun _ => True
    unfold currentRecord
    split
    · exact asks_pure trivial
    · refine (asks_ask (o.get .records _ trivial)).bind fun found _ => ?_
      cases found <;> exact asks_pure trivial
  | previous => exact asks_pure trivial
  | loopItem => exact asks_pure trivial

theorem Looking.items (o : Looking kind) (settings : LoopSettings) (max : Nat) :
    (engine.loopItems ctx settings max).Asks kind fun _ => True := by
  unfold loopItems
  split
  · split
    · exact asks_pure trivial
    · exact asks_fail _
  · split
    · exact asks_fail _
    · refine o.targetRecord.bind fun record _ => ?_
      split
      · exact asks_pure trivial
      · exact asks_pure trivial
      · exact asks_fail _
  · split
    · exact asks_fail _
    · exact (search_asks o _ _ _).bind fun docs _ => asks_pure trivial

/-- A run does nothing but steps and looking: what is so of each step, and of whoever asks for no more than
looking takes, is so of the whole history. -/
theorem Looking.recounts (o : Looking kind) {σ : Type} {environment : Program.Environment σ}
    {moves : σ → List (Attempt σ) → σ → Prop} {run : Context} (refl : ∀ s, moves s [] s)
    (append : ∀ a b c attempts more, moves a attempts b → moves b more c → moves a (attempts ++ more) c)
    (asks : ∀ {α : Type} {program : Program α} {given : α → Prop} s, program.Asks kind given →
      moves s [] (program.run environment s).2)
    (plain : ∀ step ctx s, OfRun run ctx → step.type ≠ .condition → step.type ≠ .loop →
      moves s [⟨step, ctx, s⟩] ((engine.runStep step ctx).run environment s).2)
    (nesting : ∀ step ctx s, step.type = .condition ∨ step.type = .loop → moves s [⟨step, ctx, s⟩] s) :
    engine.Recounts environment (OfRun run) moves where
  refl := refl
  append := append
  withOutput _ _ _ ofRun := ofRun.withOutput
  atItem _ _ _ _ ofRun := ofRun.atItem
  clock s := asks s (Program.asks_now o.clock)
  plain := plain
  nesting step ctx s _ := nesting step ctx s
  subject _ subject s _ := asks s (asks_iff.mp (o.subject subject))
  items _ settings max s _ := asks s (asks_iff.mp (o.items settings max))

/-- Whatever tools are called with, they leave stored runs and actions alone. -/
def ToolsAside (engine : Engine) : Prop := engine.ToolsAsk (Effect.On Table.OfSteps)

/-- Steps leave stored runs and actions alone, whatever is nested in them. -/
theorem runSequence_asks (aside : engine.ToolsAside) (steps : List Step) (ctx : Context) :
    (engine.runSequence steps ctx).Asks (Effect.On Table.OfSteps) fun _ => True := by
  have anyStop {α : Type} {work : Work StepError α} {given : α → Prop}
      (h : work.Asks (Effect.On Table.OfSteps) given) :
      Work.Meets World.any (Policy.only (Effect.On Table.OfSteps)) (fun a _ => given a ∧ True)
        (fun stop _ => stop.Fits (fun _ => True) ∧ True) work () :=
    Work.Meets.mono h (fun _ _ post => ⟨post, trivial⟩) fun stop _ _ => by cases stop <;> trivial
  have follows : engine.Follows World.any (Policy.only (Effect.On Table.OfSteps)) {} :=
    { clock := fun _ _ => ⟨trivial, nofun, fun _ _ _ => ⟨trivial, trivial⟩⟩
      withOutput := fun _ _ _ _ _ => trivial
      atItem := fun _ _ _ _ _ => trivial
      primitive := fun ctx stepId p _ _ _ _ => anyStop (sufficient_ofSteps.primitive aside)
      subject := fun ctx subject _ _ _ => (anyStop (sufficient_ofSteps.subject subject)).mono
        (fun _ _ post => post.2) fun _ _ post => post
      items := fun ctx settings max _ _ _ => (anyStop (sufficient_ofSteps.items settings max)).mono
        (fun _ _ post => post.2) fun _ _ post => post
      branch := fun _ _ _ => trivial
      loop := fun _ _ _ => trivial }
  exact (runSequence_follows follows steps ctx () trivial trivial).mono fun _ _ _ => trivial

/-- What is left to do when the steps of a run are over: the stored run is closed, and told of. -/
def conclude (engine : Engine) (action : Action) (occasion : Occasion) (executionId : String)
    (trace : Trace) : Work LifecycleError ExecutionReport := do
  let stop := trace.ending.error?
  let status ← engine.finish executionId trace.results stop
  let (_, error) := summarize trace.results stop
  Work.ignoring (engine.writeAudit (executedEntry action occasion executionId status))
  return ⟨executionId, action.id, status, trace.results, error⟩

theorem run_eq (engine : Engine) (action : Action) (occasion : Occasion) :
    engine.run action occasion = (do
      let executionId ← engine.start action occasion
      let trace ← Work.ofProgram
        (engine.runSequence action.steps (firstContext action occasion executionId))
      engine.conclude action occasion executionId trace) := rfl

theorem conclude_asks {action : Action} {occasion : Occasion} {executionId : String} {trace : Trace}
    (ofRuns : ∀ effect, Effect.On (· = .actionExecutions) effect → kind effect)
    (tells : ∀ fields, kind (.store (.insert .auditLogs fields))) :
    (engine.conclude action occasion executionId trace).Asks kind fun _ => True := by
  have finishes : (engine.finish executionId trace.results trace.ending.error?).Asks kind _ :=
    (finish_asks executionId trace.results trace.ending.error?).mono ofRuns fun _ post => post
  refine finishes.bind fun status _ => ?_
  exact (writeAudit_asks tells).ignoring.bind fun _ _ => asks_pure trivial

/-- A run leaves actions alone. -/
theorem run_asks (aside : engine.ToolsAside) (action : Action) (occasion : Occasion) :
    (engine.run action occasion).Asks (Effect.On (· ≠ .actions)) fun _ => True := by
  have ofRuns (table : Table) (same : table = .actionExecutions) : table ≠ .actions := by
    rw [same]
    decide
  rw [run_eq]
  refine ((start_asks action occasion).on ofRuns).bind fun executionId _ => ?_
  have steps := (runSequence_asks aside action.steps (firstContext action occasion executionId)).mono
    (fun _ on => on.mono fun _ ofSteps => ofSteps.1) fun _ post => post
  refine (asks_ofProgram steps).bind fun trace _ => ?_
  exact conclude_asks (fun _ on => on.mono ofRuns) fun _ => nofun

private theorem deleteEntries_tools (tools : Toolbox) (entries : List Document) :
    ({ engine with tools } : Engine).deleteEntries entries = engine.deleteEntries entries := by
  induction entries with
  | nil => rfl
  | cons entry rest ih => rw [deleteEntries, deleteEntries, ih]; rfl

/-- Only steps that call a tool look for one. -/
private theorem runPrimitive_tools (tools : Toolbox) {p : Primitive} (calls : p.type ≠ .callTool) :
    ({ engine with tools } : Engine).runPrimitive ctx stepId p = engine.runPrimitive ctx stepId p := by
  cases p with
  | callTool tool arguments => exact absurd rfl calls
  | deleteRecord recordId =>
    simp only [runPrimitive, deleteRecord, deleteEntries_tools]
    rfl
  | _ => rfl

mutual
private theorem runStep_tools (tools : Toolbox) : ∀ (step : Step) (ctx : Context),
    step.Typed (· ≠ .callTool) →
      ({ engine with tools } : Engine).runStep step ctx = engine.runStep step ctx
  | ⟨id, type, name, config, thenSteps, elseSteps, steps⟩, ctx, typed => by
    obtain ⟨calls, ofThen, ofElse, ofBody⟩ := typed
    unfold runStep
    split
    · rfl
    · next p parsed =>
      unfold primitiveOutcome
      rw [runPrimitive_tools tools (Command.type_of_parse parsed ▸ calls)]
    · have inThen := funext fun ctx => runSequence_tools tools thenSteps ctx ofThen
      have inElse := funext fun ctx => runSequence_tools tools elseSteps ctx ofElse
      rw [inThen, inElse]
      rfl
    · have inBody := funext fun ctx => runSequence_tools tools steps ctx ofBody
      rw [inBody]
      rfl
termination_by structural step => step

/-- Steps that call no tool run alike whatever tools there are. -/
theorem runSequence_tools (tools : Toolbox) : ∀ (steps : List Step) (ctx : Context),
    Step.TypedAll (· ≠ .callTool) steps →
      ({ engine with tools } : Engine).runSequence steps ctx = engine.runSequence steps ctx
  | [], _, _ => rfl
  | step :: rest, ctx, typed => by
    have others := funext fun ctx => runSequence_tools tools rest ctx typed.2
    unfold runSequence
    rw [runStep_tools tools step ctx typed.1, others]
termination_by structural steps => steps
end

/-- The tools that read records ask for nothing else. -/
theorem Looking.recordTools (o : Looking kind) (builtIn : engine.tools = Toolbox.recordTools) :
    engine.ToolsAsk kind := by
  intro name value caller
  rw [builtIn]
  unfold Toolbox.call
  split
  · next tool found =>
    have listed : tool ∈ [Toolbox.getRecord, Toolbox.searchRecords] :=
      List.mem_of_find?_eq_some found
    have read {α : Type} (tool : String) (decode : Decode.Decoder α) :
        (Toolbox.arguments tool decode value).Asks kind fun _ => True := by
      unfold Toolbox.arguments
      split
      · exact asks_pure trivial
      · exact asks_fail _
    simp only [List.mem_cons, List.not_mem_nil, or_false] at listed
    rcases listed with rfl | rfl
    · refine (read _ _).bind fun id _ => ?_
      refine (asks_ask (o.get .records _ trivial)).bind fun found _ => ?_
      cases found with
      | none => exact asks_pure trivial
      | some doc =>
        dsimp only
        split <;> exact asks_pure trivial
    · refine (read _ _).bind fun args _ => ?_
      exact (search_asks o _ _ _).bind fun docs _ => asks_pure trivial
  · exact asks_fail _

/-- The tools that read records leave stored runs and actions alone. -/
theorem toolsAside_recordTools (builtIn : engine.tools = Toolbox.recordTools) : engine.ToolsAside :=
  sufficient_ofSteps.toLooking.recordTools builtIn

end Engine
end Automation
