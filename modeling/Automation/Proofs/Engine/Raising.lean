import Automation.Engine.Sequence
import Automation.Proofs.Program.Work
import Automation.Proofs.Step.Command
import Automation.Proofs.Step.Error
import Automation.Tool.Records

/-!
With which errors steps fail by themselves. None of them tells of a refusal, unless the tool of the
step or the guard of its URL said so.
-/
namespace Automation.Engine

variable {σ α β : Type} {world : World σ} {engine : Engine} {ctx : Context} {stepId : String}

/-- Not the engine but a tool that a step calls, or the guard of the URL that a step sends to, gave
this error to a step of the type. -/
inductive Foreign (engine : Engine) (environment : Program.Environment σ) : StepType → StepError → Prop
  | tool {name : String} {tool : Tool} {arguments : Json.Value} {caller : ToolContext} {s : σ}
      {e : StepError} (known : engine.tools.find? name = some tool)
      (raised : ((tool.call engine.toolStore arguments caller).run.run environment s).1 =
        .error (.failed (.raised e))) : Foreign engine environment .callTool e
  | guard {url text : String} (refused : engine.judge url = .refused (some text)) :
      Foreign engine environment .sendWebhook (.validation text)

/-- The error tells of no refusal, or somebody else gave it. -/
def Excused (engine : Engine) (environment : Program.Environment σ) (type : StepType)
    (e : StepError) : Prop :=
  e.Plain ∨ Foreign engine environment type e

theorem plain_records : engine.records.Raises StepError.Plain where
  failed := StepError.plain_store
  stalled := StepError.plain_store _

/-- What is computed fails, if at all, with errors of the engine. -/
private def Fine (x : Except StepError α) : Prop := ∀ e, x = .error e → e.Plain

private theorem fine_ok (a : α) : Fine (.ok a) := nofun

private theorem fine_refused {text : String} (h : PlainCheck text) :
    Fine (.error (.validation text) : Except StepError α) := by
  rintro _ ⟨⟩
  exact StepError.plain_validation h

private theorem Fine.bind {x : Except StepError α} {f : α → Except StepError β} (h : Fine x)
    (rest : ∀ a, Fine (f a)) : Fine (x >>= f) := by
  cases x with
  | ok a => exact rest a
  | error e =>
    rintro _ ⟨⟩
    exact h e rfl

private theorem Fine.map {x : Except StepError α} {f : α → β} (h : Fine x) : Fine (f <$> x) := by
  rw [map_eq_pure_bind]
  exact h.bind fun a => fine_ok (f a)

private theorem fine_targetId {recordId : Option String} : Fine (targetId ctx recordId) := by
  unfold targetId
  split
  · exact fine_ok _
  · exact fine_refused (.of (by decide))

private theorem raises_targetRecord {recordId : Option String} :
    Work.Raises world StepError.Plain (engine.targetRecord ctx recordId) :=
  (Work.raises_ofExcept fine_targetId).bind fun id =>
    plain_records.requireIn ctx.workspaceId .records id

private theorem fine_unfit {t : Transform} {value : Json.Value} :
    Fine (t.unfit value : Except StepError α) := by
  have start : PlainCheck "Cannot apply " := .of (by decide)
  exact fine_refused (((start.append _).append _).append _)

private theorem fine_textOf {t : Transform} {value : Json.Value} : Fine (t.textOf value) := by
  cases value with
  | null | array | object => exact fine_unfit
  | bool | number | string => exact fine_ok _

private theorem fine_numberOf {t : Transform} {value : Json.Value} : Fine (t.numberOf value) := by
  unfold Transform.numberOf
  split
  · exact fine_ok _
  · exact fine_unfit

private theorem fine_counted {t : Transform} {value : Json.Value} : Fine (t.counted value) := by
  unfold Transform.counted
  split
  · exact fine_ok _
  · exact fine_numberOf

private theorem fine_finite {t : Transform} {x : Binary64} : Fine (t.finite x) := by
  unfold Transform.finite
  split
  · exact fine_ok _
  · have start : PlainCheck t.name := by cases t <;> exact .of (by decide)
    exact fine_refused (start.append _)

private theorem fine_apply {t : Transform} {value : Json.Value} {amount : Option Binary64}
    {decimals : Option Nat} : Fine (t.apply value amount decimals) := by
  cases t with
  | uppercase | lowercase | trim => exact fine_textOf.bind fun text => fine_ok _
  | increment | decrement => exact fine_counted.bind fun x => fine_finite
  | round =>
    refine fine_numberOf.bind fun x => ?_
    dsimp only
    split
    · have start : PlainCheck "round supports at most " := .of (by decide)
      exact fine_refused (((start.append _).append _).append _)
    · exact fine_finite

private theorem fine_change {record : Document} {command : FieldCommand} :
    Fine (FieldCommand.change record command) := by
  cases command with
  | update | clear | copy => exact fine_ok _
  | transform field name target amount decimals =>
    refine Fine.bind ?_ fun value => fine_ok _
    unfold Transform.applyNamed
    split
    · exact fine_apply
    · have start : PlainCheck "Unsupported transform: " := .of (by decide)
      exact fine_refused (start.append name)

private theorem raises_audit {entry : AuditEntry} :
    Work.Raises world StepError.Plain (engine.audit ctx stepId entry) :=
  Work.raises_ignoring _

private theorem raises_changeField {command : FieldCommand} {recordId : Option String} :
    Work.Raises world StepError.Plain (engine.changeField ctx stepId command recordId) := by
  refine raises_targetRecord.bind fun record => ?_
  refine (Work.raises_ofExcept fine_change).bind fun change => ?_
  refine (Work.raises_ofProgram _).bind fun now => ?_
  refine (plain_records.ask (.update .records _ _)).bind fun _ => ?_
  exact raises_audit.bind fun _ => Work.raises_pure _

private theorem raises_createRecord {objectTypeId : String} {data : Json.Members} :
    Work.Raises world StepError.Plain (engine.createRecord ctx stepId objectTypeId data) := by
  refine (plain_records.requireIn _ .objectTypes _).bind fun _ => ?_
  refine (plain_records.ask (.insert .records _)).bind fun recordId => ?_
  exact raises_audit.bind fun _ => Work.raises_pure _

private theorem raises_deleteEntries (entries : List Document) :
    Work.Raises world StepError.Plain (engine.deleteEntries entries) := by
  induction entries with
  | nil => exact Work.raises_pure ()
  | cons entry rest ih => exact (plain_records.ask (.delete .listEntries entry.id)).bind fun _ => ih

private theorem raises_deleteRecord {recordId : Option String} :
    Work.Raises world StepError.Plain (engine.deleteRecord ctx stepId recordId) := by
  refine raises_targetRecord.bind fun record => ?_
  refine (plain_records.ask (.query .listEntries _)).bind fun entries => ?_
  refine (raises_deleteEntries entries).bind fun _ => ?_
  refine (plain_records.ask (.delete .records record.id)).bind fun _ => ?_
  exact raises_audit.bind fun _ => Work.raises_pure _

private theorem raises_archiveRecord {recordId : Option String} :
    Work.Raises world StepError.Plain (engine.archiveRecord ctx stepId recordId) := by
  refine raises_targetRecord.bind fun record => ?_
  refine (Work.raises_ofProgram _).bind fun now => ?_
  refine ((plain_records.ask (.update .records record.id _)).bind fun _ =>
    Work.raises_pure ()).bind fun _ => ?_
  exact raises_audit.bind fun _ => Work.raises_pure _

private theorem raises_membership {listId : String} {recordId : Option String} :
    Work.Raises world StepError.Plain (engine.membership ctx listId recordId) := by
  refine (plain_records.requireIn _ .lists _).bind fun list => ?_
  refine (Work.raises_ofExcept fine_targetId).bind fun recordId => ?_
  refine ((plain_records.ask (.query .listEntries _)).bind fun docs =>
    Work.raises_pure docs.head?).bind fun entry => Work.raises_pure _

private theorem raises_requireEntry {m : Membership} :
    Work.Raises world StepError.Plain (Work.ofExcept m.requireEntry : Work StepError Document) := by
  refine Work.raises_ofExcept (?_ : Fine m.requireEntry)
  unfold Membership.requireEntry
  split
  · exact fine_ok _
  · have start : PlainCheck "Record " := .of (by decide)
    exact fine_refused (((start.append _).append _).append _)

private theorem raises_changeList {command : ListCommand} {listId : String} {recordId : Option String}
    {data : Option Json.Members} :
    Work.Raises world StepError.Plain (engine.changeList ctx stepId command listId recordId data) := by
  refine raises_membership.bind fun m => ?_
  cases command with
  | add =>
    change Work.Raises _ _ (engine.addToList ctx stepId m _)
    unfold addToList
    split
    · exact Work.raises_pure _
    · refine (plain_records.requireIn _ .records _).bind fun _ => ?_
      refine (plain_records.ask (.insert .listEntries _)).bind fun entryId => ?_
      exact raises_audit.bind fun _ => Work.raises_pure _
  | remove =>
    refine raises_requireEntry.bind fun entry => ?_
    refine (plain_records.ask (.delete .listEntries entry.id)).bind fun _ => ?_
    exact raises_audit.bind fun _ => Work.raises_pure _
  | update =>
    refine raises_requireEntry.bind fun entry => ?_
    refine (Work.raises_ofProgram _).bind fun now => ?_
    refine (plain_records.ask (.update .listEntries entry.id _)).bind fun _ => ?_
    exact raises_audit.bind fun _ => Work.raises_pure _

private theorem fine_secret {secrets : Webhook.Secrets} {name : String} :
    Fine (Webhook.Auth.secret secrets name) := by
  unfold Webhook.Auth.secret
  split
  · exact fine_ok _
  · have start : PlainCheck "Environment variable '" := .of (by decide)
    exact fine_refused ((start.append _).append _)

private theorem fine_credentials {secrets : Webhook.Secrets} {auth : Webhook.Auth} :
    Fine (auth.resolve secrets) := by
  cases auth with
  | none => exact fine_ok _
  | bearer tokenEnv => exact fine_secret.map
  | basic usernameEnv passwordEnv =>
    change Fine ((Webhook.Credentials.basic <$> Webhook.Auth.secret secrets usernameEnv) >>= fun f =>
      f <$> Webhook.Auth.secret secrets passwordEnv)
    exact fine_secret.map.bind fun f => fine_secret.map
  | apiKey headerName valueEnv => exact fine_secret.map

/-- A delivery fails with errors of the engine, or with what the guard of its URL says. -/
private theorem attempt_excused (environment : Program.Environment σ) (w : Webhook) (s : σ) :
    (engine.sender.attempt w).Meets world .free (fun attempt _ => ∀ e, attempt.outcome = .error e →
      engine.Excused environment .sendWebhook e) s := by
  unfold Webhook.Sender.attempt
  split
  · next reason refused =>
    rintro _ ⟨⟩
    cases reason with
    | none => exact .inl (StepError.plain_validation (.of (by decide)))
    | some text => exact .inr (.guard refused)
  · split
    · next e failed =>
      rintro _ ⟨⟩
      exact .inl (fine_credentials e failed)
    · split
      · rintro _ ⟨⟩
        exact .inl (StepError.plain_externalCall _)
      · refine Program.meets_ask.mpr fun started s _ => Program.meets_ask.mpr fun reply s _ => ?_
        cases reply with
        | expired | unreachable =>
          rintro _ ⟨⟩
          exact .inl (StepError.plain_externalCall _)
        | response status body =>
          refine Program.meets_ask.mpr fun ended s _ e failed => ?_
          dsimp only [Webhook.Sender.outcome] at failed
          split at failed
          · cases failed
            exact .inl (StepError.plain_externalCall _)
          · cases failed

private theorem send_excused (environment : Program.Environment σ) (w : Webhook) (s : σ) :
    (engine.sender.send w).Meets world .free (fun delivery _ => ∀ e, delivery.outcome = .error e →
      engine.Excused environment .sendWebhook e) s := by
  refine Program.meets_ask.mpr fun started s _ => ?_
  refine (attempt_excused environment w s).bind fun attempt s excused => ?_
  exact Program.meets_ask.mpr fun ended s _ => excused

variable {environment : Program.Environment σ}

private theorem raises_sendWebhook {w : Webhook} :
    Work.Raises world (Excused engine environment .sendWebhook) (engine.sendWebhook ctx stepId w) := by
  intro s
  refine (Work.meets_ofProgram (send_excused environment w s)).bind fun delivery s excused => ?_
  refine Work.Raises.bind (Work.raises_ignoring _) (fun _ => ?_) s
  exact (Work.raises_ofExcept excused).bind fun response => Work.raises_pure _

private theorem raises_callTool {tool : String} {arguments : Json.Value} :
    Work.Raises environment.world (Excused engine environment .callTool)
      (engine.callTool ctx tool arguments) := by
  refine (Work.Raises.mapError fun s => ?_).bind fun result => ?_
  · unfold Toolbox.call
    split
    · next tool known =>
      refine Program.meets_world.mpr ?_
      cases ended : ((tool.call engine.toolStore _ _).run.run environment s).1 with
      | ok result => trivial
      | error stop =>
        rintro e rfl
        cases e with
        | raised e => exact .inr (.tool known ended)
        | stalled => exact .inl (StepError.plain_externalCall _)
    · rintro _ ⟨⟩
      have start : PlainCheck "Unknown tool: " := .of (by decide)
      exact .inl (StepError.plain_validation (start.append tool))
  · cases result with
    | success data => exact Work.raises_pure _
    | error text => exact Work.raises_fail (.inl (StepError.plain_externalCall _))

/-- What a step does by itself fails with errors of the engine, unless somebody else is asked. -/
theorem raises_runPrimitive {p : Primitive} :
    Work.Raises environment.world (Excused engine environment p.type)
      (engine.runPrimitive ctx stepId p) := by
  have plain {work : Work StepError Json.Value}
      (h : Work.Raises environment.world StepError.Plain work) :
      Work.Raises environment.world (Excused engine environment p.type) work :=
    h.mono fun e => .inl
  cases p with
  | field command recordId => exact plain raises_changeField
  | createRecord objectTypeId data => exact plain raises_createRecord
  | deleteRecord recordId => exact plain raises_deleteRecord
  | archiveRecord recordId => exact plain raises_archiveRecord
  | list command listId recordId data => exact plain raises_changeList
  | sendWebhook webhook => exact raises_sendWebhook
  | callTool tool arguments => exact raises_callTool

/-- An error of a tool that is none of the engine's refusals. -/
private def PlainFailure (f : ToolFailure) : Prop := ∀ e, f = .raised e → e.Plain

private theorem plain_toolStore : engine.toolStore.Raises PlainFailure := by
  have stored (e : StoreError) : PlainFailure (.raised (.store e)) := by
    rintro _ ⟨⟩
    exact StepError.plain_store e
  unfold toolStore
  split
  · exact ⟨stored, nofun⟩
  · exact ⟨stored, stored _⟩

private theorem raises_arguments {tool : String} {decode : Decode.Decoder α} {value : Json.Value}
    (h : PlainCheck tool) : Work.Raises world PlainFailure (Toolbox.arguments tool decode value) := by
  unfold Toolbox.arguments
  split
  · exact Work.raises_pure _
  · refine Work.raises_fail ?_
    rintro _ ⟨⟩
    exact StepError.plain_validation ((h.append _).append _)

private theorem raises_recordTool {name : String} {tool : Tool} {arguments : Json.Value}
    {caller : ToolContext} (known : Toolbox.recordTools.find? name = some tool) :
    Work.Raises world PlainFailure (tool.call engine.toolStore arguments caller) := by
  have listed : tool ∈ [Toolbox.getRecord, Toolbox.searchRecords] := List.mem_of_find?_eq_some known
  rcases List.mem_cons.mp listed with rfl | listed
  · refine (raises_arguments (.of (by decide))).bind fun id => ?_
    refine (plain_toolStore.ask (.get .records id)).bind fun found => ?_
    cases found with
    | none => exact Work.raises_pure _
    | some doc =>
      dsimp only
      split <;> exact Work.raises_pure _
  · cases List.mem_singleton.mp listed
    refine (raises_arguments (.of (by decide))).bind fun args => ?_
    refine ((plain_toolStore.ask (.query .records _)).bind fun docs =>
      Work.raises_pure _).bind fun docs => Work.raises_pure _

/-- The tools and the guard that every engine can have never speak of refusals. -/
theorem Foreign.plain {type : StepType} {e : StepError} {rules : Url.Guard}
    (builtIn : engine.tools = Toolbox.recordTools) (guarded : engine.judge = rules.judge)
    (h : engine.Foreign environment type e) : e.Plain := by
  cases h with
  | @tool name tool arguments caller s e known raised =>
    rw [builtIn] at known
    have raises : Work.Raises environment.world PlainFailure
        (tool.call engine.toolStore arguments caller) := raises_recordTool known
    have post := Program.meets_world.mp (raises s)
    rw [raised] at post
    exact post _ rfl e rfl
  | @guard url text refused =>
    rw [guarded] at refused
    unfold Url.Guard.judge at refused
    split at refused
    · cases refused
      have start : PlainCheck "SSRF protection: " := .of (by decide)
      exact StepError.plain_validation (start.append _)
    · cases refused

theorem raises_subjectValue {subject : Subject} :
    Work.Raises world StepError.Plain (engine.subjectValue ctx subject) := by
  cases subject with
  | record =>
    change Work.Raises _ _ (engine.currentRecord ctx)
    unfold currentRecord
    split
    · exact Work.raises_pure _
    · refine (plain_records.ask (.get .records _)).bind fun found => ?_
      cases found <;> exact Work.raises_pure _
  | previous => exact Work.raises_pure _
  | loopItem => exact Work.raises_pure _

theorem raises_loopItems {settings : LoopSettings} {max : Nat} :
    Work.Raises world StepError.Plain (engine.loopItems ctx settings max) := by
  unfold loopItems
  split
  · split
    · exact Work.raises_pure _
    · exact Work.raises_fail (StepError.plain_validation (.of (by decide)))
  · split
    · exact Work.raises_fail (StepError.plain_validation (.of (by decide)))
    · refine raises_targetRecord.bind fun record => ?_
      split
      · exact Work.raises_pure _
      · exact Work.raises_pure _
      · have start : PlainCheck "Field '" := .of (by decide)
        exact Work.raises_fail (StepError.plain_validation ((start.append _).append _))
  · split
    · exact Work.raises_fail (StepError.plain_validation (.of (by decide)))
    · refine ((plain_records.ask (.query .records _)).bind fun docs =>
        Work.raises_pure _).bind fun _ => Work.raises_pure _

/-- Settings that cannot be read are no refusal of a step whose type is known. -/
theorem plain_parse {type : StepType} (known : ∀ name, type ≠ .unknown name) {stepId : String}
    {config : Json.Value} {e : StepError} (failed : Command.parse type stepId config = .error e) :
    e.Plain := by
  unfold Command.parse at failed
  split at failed
  · next unknown =>
    cases type with
    | unknown name => exact absurd rfl (known name)
    | _ => cases unknown
  · next decode _ =>
    have start : PlainCheck "Invalid " := .of (by decide)
    cases read : decode (.ofValue (Command.settings config)) with
    | ok command => cases read ▸ failed
    | error cause =>
      cases read ▸ failed
      exact StepError.plain_validation (((((start.append _).append _).append _).append _).append _)

/-- Looking at something stops, if at all, with errors that are not those of a refusal. -/
theorem looks_plainly {work : Work StepError α} (h : Work.Raises world StepError.Plain work) (s : σ) :
    Work.Meets world .free (fun _ _ => True)
      (fun stop _ => (∀ e, stop = .failed e → e.Plain) ∧ True) work s :=
  (h s).mono (fun _ _ _ => trivial) fun _ _ plain => ⟨plain, trivial⟩

end Automation.Engine
