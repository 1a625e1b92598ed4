import Automation.Engine.OutsideStep
import Automation.Proofs.Engine.Attempts
import Automation.Proofs.Engine.ClosingOnce
import Automation.Proofs.Engine.Reach
import Automation.Proofs.Store.LogKeeping
import Automation.Proofs.Store.Served
import Automation.Proofs.Store.Update
import Automation.Proofs.Webhook.Protocol

/-!
The log of a webhook as it is stored: the log itself, and the step of the run that it belongs to.
-/
namespace Automation

open Json (Value Members)

namespace Webhook.Log

/-- The members of a log, with those that it may lack. -/
def members (log : Log) : List (String × Option Value) :=
  [("url", some (.string log.url)), ("method", some (.string log.method.name)),
    ("requestHeaders", some (.object log.headers)), ("requestBody", log.body),
    ("statusCode", log.status.map .ofNat), ("durationMs", some (.ofNat log.duration.milliseconds)),
    ("success", some (.bool log.success)), ("error", log.error.map .string)]

theorem member?_encode (log : Log) (key : String) :
    log.encode.member? key = (log.members.lookup key).join :=
  Members.get?_present key log.members (by simp [members])

end Webhook.Log

namespace Engine

variable {ctx run : Context} {stepId : String} {log log' : Webhook.Log} {fields fields' : Members}

/-- Where a log comes from. -/
def origin (ctx : Context) (stepId : String) : List (String × Value) :=
  [("workspaceId", .string ctx.workspaceId), ("executionId", .ofText? ctx.executionId),
    ("stepId", .string stepId)]

/-- What is stored of a log is the log, and behind it where it comes from. -/
theorem loggedFields_eq_ok (ctx : Context) (stepId : String) (log : Webhook.Log) :
    ∃ fields, loggedFields ctx stepId log = .ok fields ∧ fields.Sorted ∧
      ∀ key, fields.get? key = (log.encode.member? key).or ((origin ctx stepId).lookup key) := by
  obtain ⟨told, encoded, sorted⟩ : ∃ told : Members, log.encode = .object told ∧ told.Sorted :=
    ⟨_, rfl, Members.sorted_ofList _⟩
  have own := Document.sorted_withoutSystemFields sorted
  refine ⟨Members.merge (.ofList (origin ctx stepId)) (Document.withoutSystemFields told), ?_,
    Members.sorted_merge (Members.sorted_ofList _), fun key => ?_⟩
  · rw [loggedFields, encoded]
    rfl
  · rw [Members.get?_merge own.nodup, Members.get?_ofList (by simp [origin])]
    refine congrArg (Option.or · _) ?_
    by_cases free : idField ≠ key ∧ creationTimeField ≠ key
    · rw [Document.get?_withoutSystemFields free, encoded]
      rfl
    · -- a log has no member of such a name in the first place
      rw [log.member?_encode, Document.withoutSystemFields, Members.get?_erase, Members.get?_erase]
      by_cases id : idField = key
      · subst id
        rfl
      · obtain rfl : creationTimeField = key := by simpa [id] using free
        rfl

/-- The fields are those of the log, and of the step of the run that it belongs to. -/
structure LogOf (run : Context) (stepId : String) (log : Webhook.Log) (fields : Members) : Prop where
  workspace : fields.get? "workspaceId" = some (.string run.workspaceId)
  execution : fields.get? "executionId" = some (.ofText? run.executionId)
  step : fields.get? "stepId" = some (.string stepId)
  told : ∀ key value, log.encode.member? key = some value → fields.get? key = some value

theorem loggedFields_logOf (ctx : Context) (stepId : String) (log : Webhook.Log) :
    ∃ fields, loggedFields ctx stepId log = .ok fields ∧ LogOf ctx stepId log fields := by
  obtain ⟨fields, stored, -, found⟩ := loggedFields_eq_ok ctx stepId log
  refine ⟨fields, stored, ?_, ?_, ?_, fun key value told => ?_⟩
  · rw [found, log.member?_encode]
    rfl
  · rw [found, log.member?_encode]
    rfl
  · rw [found, log.member?_encode]
    rfl
  · rw [found, told]
    rfl

theorem get?_url_loggedFields (stored : loggedFields ctx stepId log = .ok fields) :
    fields.get? "url" = some (.string log.url) := by
  obtain ⟨_, known, logOf⟩ := loggedFields_logOf ctx stepId log
  cases stored.symm.trans known
  refine logOf.told "url" _ ?_
  rw [log.member?_encode]
  rfl

/-- Logs that have the same under all other keys are stored as fields that do. -/
theorem erase_loggedFields {key : String}
    (same : ∀ other, key ≠ other → log.encode.member? other = log'.encode.member? other)
    (stored : loggedFields ctx stepId log = .ok fields) (stored' : loggedFields ctx stepId log' = .ok fields') :
    fields.erase key = fields'.erase key := by
  obtain ⟨_, known, sorted, found⟩ := loggedFields_eq_ok ctx stepId log
  obtain ⟨_, known', sorted', found'⟩ := loggedFields_eq_ok ctx stepId log'
  cases stored.symm.trans known
  cases stored'.symm.trans known'
  refine (Members.sorted_erase sorted).ext (Members.sorted_erase sorted') fun other => ?_
  rw [Members.get?_erase, Members.get?_erase]
  split
  · rfl
  · next apart => rw [found, found', same other apart]

end Engine
end Automation

/-!
The log of webhooks. A step that sends one hands the log of it to the store before it comes to its end, and
in a whole run nothing else is handed to that table.
-/
namespace Automation

open Json (Value Members)

namespace Engine

section

variable {σ : Type} {engine : Engine} {environment : Program.Environment σ} {ctx run : Context}
  {stepId : String}

/-- The logs of webhooks that were handed to the store, whatever it did with them. -/
def handedLogs (turns : List (Effect × σ)) : List Members :=
  turns.filterMap fun
    | (.store (.insert .webhookLogs fields), _) => some fields
    | _ => none

/-- What comes of a step when its delivery was logged: what came of the delivery, unless the store breaks
down. -/
def deliveredAs (ctx : Context) (outcome : Except StepError Webhook.Response) :
    StoreReply String → StepOutcome
  | .crashed crash => .crashed crash
  | .answered _ | .stalled => match outcome with
    | .ok response => .completed response.encode ctx
    | .error e => .failed e none

/-- Behind the delivery there is nothing but the log of it. -/
private theorem primitiveOutcome_sendWebhook (engine : Engine) (ctx : Context) (stepId : String) (w : Webhook)
    {fieldsOf : Webhook.Log → Members} (stored : ∀ log, loggedFields ctx stepId log = .ok (fieldsOf log)) :
    engine.primitiveOutcome ctx stepId (.sendWebhook w) = do
      let delivery ← engine.sender.send w
      let reply ← Program.perform (.store (.insert .webhookLogs (fieldsOf delivery.log)))
      return deliveredAs ctx delivery.outcome reply := by
  have logs (log : Webhook.Log) : engine.writeWebhookLog ctx stepId log = (do
      let _ ← (engine.store id).insert .webhookLogs (fieldsOf log)) := by
    unfold writeWebhookLog
    rw [stored]
    rfl
  unfold primitiveOutcome runPrimitive sendWebhook
  rw [Work.run_bind, bind_assoc, Work.ofProgram, ExceptT.run_lift, bind_map_left]
  refine congrArg (engine.sender.send w).bind (funext fun delivery => ?_)
  change ((_ >>= _ : Work StepError Value).run >>= _) = _
  rw [Work.run_bind, logs, Work.run_ignoring_insert]
  refine congrArg (Program.ask _) (funext fun reply => ?_)
  obtain ⟨log, outcome⟩ := delivery
  rcases reply with answered | _ | crash
  · cases outcome <;> rfl
  · cases outcome <;> rfl
  · rfl

/-- Effects that leave the log of webhooks alone. -/
private abbrev Unlogging (effect : Effect) : Prop := ¬effect.Writes .webhookLogs

private theorem looking_unlogging : Looking Unlogging where
  clock := nofun
  exchange _ _ := nofun
  get _ _ _ := nofun
  query _ _ _ := nofun

private theorem handedLogs_of_asks {α : Type} {program : Program α} {given : α → Prop}
    (asks : program.Asks Unlogging given) (s : σ) : handedLogs (program.asked environment s) = [] := by
  refine List.filterMap_eq_nil_iff.mpr fun turn known => ?_
  have aside := asks.asked s turn known
  split
  · exact absurd rfl aside
  · rfl

theorem handedLogs_append (turns more : List (Effect × σ)) :
    handedLogs (turns ++ more) = handedLogs turns ++ handedLogs more := List.filterMap_append

/-- A webhook is sent, and then the log of the delivery is handed to the store. -/
theorem primitiveOutcome_handsLog (engine : Engine) (environment : Program.Environment σ) (ctx : Context)
    (stepId : String) (w : Webhook) (s : σ) :
    let sent := (engine.sender.send w).run environment s
    let ran := engine.primitiveOutcome ctx stepId (.sendWebhook w)
    ∃ fields, loggedFields ctx stepId sent.1.log = .ok fields ∧
      ran.asked environment s = (engine.sender.send w).asked environment s ++
        [(.store (.insert .webhookLogs fields), sent.2)] ∧
      handedLogs (ran.asked environment s) = [fields] ∧
      (ran.run environment s).1 =
        deliveredAs ctx sent.1.outcome (environment (.store (.insert .webhookLogs fields)) sent.2).1 := by
  have encodes (log : Webhook.Log) : ∃ fields, loggedFields ctx stepId log = .ok fields := ⟨_, rfl⟩
  choose fieldsOf stored using encodes
  intro sent ran
  refine ⟨fieldsOf sent.1.log, stored _, ?_⟩
  have asks : (engine.sender.send w).Asks Unlogging fun _ => True := looking_unlogging.send engine.sender w
  rw [show ran = _ from primitiveOutcome_sendWebhook engine ctx stepId w stored]
  refine ⟨?_, ?_, ?_⟩
  · rw [Program.asked_bind]
    rfl
  · rw [Program.asked_bind, handedLogs_append, handedLogs_of_asks asks]
    rfl
  · rw [Program.run_bind]
    rfl

variable (engine environment) in
/-- A step that sends a webhook hands one log to the store, that of the delivery, as the last thing that it
does. -/
theorem sendWebhook_handsLog {step : Step} {command : Command} (sends : step.type = .sendWebhook)
    (parsed : Command.parse step.type step.id (Template.resolve ctx step.config) = .ok command) (s : σ) :
    ∃ w fields, command = .primitive (.sendWebhook w) ∧
      let sent := (engine.sender.send w).run environment s
      let insert : Effect := .store (.insert .webhookLogs fields)
      LogOf ctx step.id sent.1.log fields ∧
      (engine.runStep step ctx).asked environment s =
        (engine.sender.send w).asked environment s ++ [(insert, sent.2)] ∧
      handedLogs ((engine.runStep step ctx).asked environment s) = [fields] ∧
      ((engine.runStep step ctx).run environment s).1 =
        deliveredAs ctx sent.1.outcome (environment insert sent.2).1 := by
  obtain ⟨w, rfl⟩ := Command.sendWebhook_of_parse (sends ▸ parsed)
  obtain ⟨fields, stored, handed⟩ := primitiveOutcome_handsLog engine environment ctx step.id w s
  obtain ⟨_, stored', told⟩ := loggedFields_logOf ctx step.id ((engine.sender.send w).run environment s).1.log
  cases stored'.symm.trans stored
  rw [runStep_primitive parsed]
  exact ⟨w, fields, rfl, told, handed⟩

/-- The step sends a webhook, and its configuration can be read in the context. -/
def delivers (place : Step × Context) : Bool :=
  place.1.type = .sendWebhook &&
    (Command.parse place.1.type place.1.id (Template.resolve place.2 place.1.config)).isOk

theorem delivers_eq_true_iff {step : Step} : delivers (step, ctx) = true ↔ step.type = .sendWebhook ∧
    ∃ command, Command.parse step.type step.id (Template.resolve ctx step.config) = .ok command := by
  rw [delivers, Bool.and_eq_true, decide_eq_true_eq]
  refine and_congr_right fun _ => ?_
  cases Command.parse step.type step.id (Template.resolve ctx step.config) <;> simp [Except.isOk, Except.toBool]

private theorem runPrimitive_unlogging (tools : engine.ToolsAsk Unlogging) {p : Primitive}
    (other : p.type ≠ .sendWebhook) : (engine.runPrimitive ctx stepId p).Asks Unlogging fun _ => True := by
  cases mutates : p.type.mutates with
  | true =>
    refine looking_unlogging.mutating mutates (fun op may => ?_) (fun _ => nofun) fun _ => nofun
    cases may <;> exact nofun
  | false =>
    cases p with
    | sendWebhook webhook => exact absurd rfl other
    | callTool tool arguments => exact callTool_asks tools
    | field command recordId => cases command <;> cases mutates
    | list command listId recordId data => cases command <;> cases mutates
    | _ => cases mutates

private theorem runStep_unlogging (tools : engine.ToolsAsk Unlogging) {step : Step}
    (notCondition : step.type ≠ .condition) (notLoop : step.type ≠ .loop)
    (idle : ¬delivers (step, ctx) = true) : (engine.runStep step ctx).Asks Unlogging fun _ => True := by
  rw [delivers_eq_true_iff] at idle
  refine runStep_asks notCondition notLoop fun p parsed => runPrimitive_unlogging tools fun sends => ?_
  exact idle ⟨(Command.type_of_parse parsed).symm.trans sends, _, parsed⟩

/-- The states of an environment that takes notes. -/
private abbrev Noted (σ : Type) : Type := σ × List (Effect × σ)

/-- For each attempt that delivers, one log was handed to the store, and no other ones were. -/
private def Logged (run : Context) (a : Noted σ) (attempts : List (Attempt (Noted σ))) (b : Noted σ) : Prop :=
  ∃ turns, b.2 = a.2 ++ turns ∧
    List.Forall₂ (fun place fields => ∃ log, LogOf run place.1.id log fields)
      ((attempts.map Attempt.place).filter delivers) (handedLogs turns)

private theorem Logged.append {a b c : Noted σ} {attempts more : List (Attempt (Noted σ))}
    (h : Logged run a attempts b) (h' : Logged run b more c) : Logged run a (attempts ++ more) c := by
  obtain ⟨turns, noted, logs⟩ := h
  obtain ⟨turns', noted', logs'⟩ := h'
  refine ⟨turns ++ turns', by rw [noted', noted, List.append_assoc], ?_⟩
  rw [List.map_append, List.filter_append, handedLogs_append]
  exact List.rel_append logs logs'

private theorem logged_of_asks {α : Type} {program : Program α} {given : α → Prop} {a : Noted σ}
    {attempts : List (Attempt (Noted σ))} (asks : program.Asks Unlogging given)
    (idle : (attempts.map Attempt.place).filter delivers = []) :
    Logged run a attempts (program.run environment.noting a).2 := by
  rw [Program.run_noting]
  refine ⟨program.asked environment a.1, rfl, ?_⟩
  rw [idle, handedLogs_of_asks asks]
  exact .nil

private theorem runStep_logged (tools : engine.ToolsAsk Unlogging) (ofRun : OfRun run ctx) {step : Step}
    (notCondition : step.type ≠ .condition) (notLoop : step.type ≠ .loop) (a : Noted σ) :
    Logged run a [⟨step, ctx, a⟩] ((engine.runStep step ctx).run environment.noting a).2 := by
  by_cases sends : delivers (step, ctx) = true
  · obtain ⟨type, command, parsed⟩ := delivers_eq_true_iff.mp sends
    obtain ⟨w, fields, -, told, -, handed, -⟩ :=
      sendWebhook_handsLog engine environment type parsed a.1
    rw [Program.run_noting]
    refine ⟨(engine.runStep step ctx).asked environment a.1, rfl, ?_⟩
    change List.Forall₂ _ (List.filter delivers [(step, ctx)]) _
    rw [handed, List.filter_cons_of_pos sends]
    refine .cons ⟨((engine.sender.send w).run environment a.1).1.log, ?_, ?_, told.step, told.told⟩ .nil
    · rw [← ofRun.workspace]
      exact told.workspace
    · rw [← ofRun.execution]
      exact told.execution
  · refine logged_of_asks (runStep_unlogging tools notCondition notLoop sends) ?_
    exact List.filter_cons_of_neg sends

variable (environment) in
private theorem recounts_logged (tools : engine.ToolsAsk Unlogging) :
    engine.Recounts environment.noting (OfRun run) (Logged run) := by
  refine looking_unlogging.recounts ?_ ?_ ?_ ?_ ?_
  · intro a
    exact ⟨[], (List.append_nil _).symm, .nil⟩
  · intro a b c attempts more first second
    exact first.append second
  · intro α program given a asks
    exact logged_of_asks asks rfl
  · intro step ctx a ofRun notCondition notLoop
    exact runStep_logged tools ofRun notCondition notLoop a
  · intro step ctx a nests
    have idle : ¬delivers (step, ctx) = true := by
      rw [delivers_eq_true_iff]
      rintro ⟨sends, -⟩
      rw [sends] at nests
      cases nests with
      | inl impossible => cases impossible
      | inr impossible => cases impossible
    refine ⟨[], (List.append_nil _).symm, ?_⟩
    change List.Forall₂ _ (List.filter delivers [(step, ctx)]) _
    rw [List.filter_cons_of_neg idle]
    exact .nil

private theorem agrees_noting : engine.Agrees environment.noting environment fun noted s => noted.1 = s where
  clock := Program.agrees_noting _
  step _ _ := Program.agrees_noting _
  sequence _ _ := Program.agrees_noting _
  subject _ _ := Program.agrees_noting _
  items _ _ _ := Program.agrees_noting _

variable (environment) in
/-- Of the steps of a run, each attempt that delivers hands over one log. -/
private theorem runSequence_logged (tools : engine.ToolsAsk Unlogging) (steps : List Step)
    (ofRun : OfRun run ctx) (s : σ) :
    List.Forall₂ (fun place fields => ∃ log, LogOf run place.1.id log fields)
      (((engine.attemptsAll environment steps ctx s).map Attempt.place).filter delivers)
      (handedLogs ((engine.runSequence steps ctx).asked environment s)) := by
  have logged := (runSequence_recounts (recounts_logged environment tools) steps ctx
    (s, []) ofRun).1
  rw [Program.run_noting] at logged
  obtain ⟨turns, noted, logs⟩ := logged
  rw [attemptsAll_agree agrees_noting steps ctx _ s rfl] at logs
  cases List.append_cancel_left noted
  exact logs

/-- Who opens or closes a run leaves the log of webhooks alone. -/
private theorem unlogging_of_run (effect : Effect) (on : Effect.On (· = .actionExecutions) effect) :
    Unlogging effect := on.not_writes_other nofun

/-- In a run one log is handed to the store for each attempt that delivers, in the order of the attempts. -/
theorem run_handsLogs (tools : engine.ToolsAsk fun effect => ¬effect.Writes .webhookLogs) (action : Action)
    (occasion : Occasion) (s : σ) :
    let handed := handedLogs ((engine.run action occasion).run.asked environment s)
    match ((engine.start action occasion).run.run environment s).1 with
    | .error _ => handed = []
    | .ok executionId => List.Forall₂ (fun place fields =>
          ∃ log, LogOf (firstContext action occasion executionId) place.1.id log fields)
        (((engine.runAttempts environment action occasion s).map Attempt.place).filter delivers) handed := by
  rw [run_eq]
  unfold runAttempts
  dsimp only
  have opens : (engine.start action occasion).Asks Unlogging fun _ => True :=
    (start_asks action occasion).mono unlogging_of_run fun _ post => post
  rw [Work.asked_bind, handedLogs_append, handedLogs_of_asks (Work.asks_iff.mp opens), List.nil_append]
  generalize (engine.start action occasion).run.run environment s = started
  obtain ⟨result, begun⟩ := started
  cases result with
  | error stop => rfl
  | ok executionId =>
    have steps := runSequence_logged environment tools action.steps
      (⟨rfl, rfl, rfl⟩ : OfRun (firstContext action occasion executionId) _) begun
    dsimp only
    rw [Work.resume, Work.asked_bind, Work.asked_ofProgram, Work.run_ofProgram, handedLogs_append]
    dsimp only
    have concludes (trace : Trace) : (engine.conclude action occasion executionId trace).Asks Unlogging _ :=
      conclude_asks unlogging_of_run fun _ => nofun
    rw [Work.resume, handedLogs_of_asks (Work.asks_iff.mp (concludes _)), List.append_nil]
    exact steps

end

/-- Whatever the webhook, whoever judges URLs and knows secrets, and whatever the peer does with a request:
the peer is contacted once at most, and not at all if the URL is refused or a secret is missing, and the log
says what came of it. A step that sends a webhook hands the log of it to the store as the last thing that it
does, however it ends; and in a whole run that is done for each attempt to send one, and for nothing else,
unless tools write to the log. -/
theorem delivery_protocol {σ : Type} (engine : Engine) (environment : Program.Environment σ)
    (conduct : Http.Request → σ → Http.Conduct) :
    (∀ (s : Webhook.Sender) (w : Webhook) (t : σ),
      s.Delivers w conduct (Program.contacts ((s.send w).asked (environment.facing conduct) t))
        ((s.send w).run (environment.facing conduct) t).1) ∧
    (∀ (step : Step) (ctx : Context) (command : Command) (t : σ), step.type = .sendWebhook →
      Command.parse step.type step.id (Template.resolve ctx step.config) = .ok command →
      ∃ w fields, command = .primitive (.sendWebhook w) ∧
        let sent := (engine.sender.send w).run environment t
        let insert : Effect := .store (.insert .webhookLogs fields)
        LogOf ctx step.id sent.1.log fields ∧
        (engine.runStep step ctx).asked environment t =
          (engine.sender.send w).asked environment t ++ [(insert, sent.2)] ∧
        handedLogs ((engine.runStep step ctx).asked environment t) = [fields] ∧
        ((engine.runStep step ctx).run environment t).1 =
          deliveredAs ctx sent.1.outcome (environment insert sent.2).1) ∧
    ((engine.ToolsAsk fun effect => ¬effect.Writes .webhookLogs) →
      ∀ (action : Action) (occasion : Occasion) (t : σ),
        let handed := handedLogs ((engine.run action occasion).run.asked environment t)
        match ((engine.start action occasion).run.run environment t).1 with
        | .error _ => handed = []
        | .ok executionId => List.Forall₂ (fun place fields =>
              ∃ log, LogOf (firstContext action occasion executionId) place.1.id log fields)
            (((engine.runAttempts environment action occasion t).map Attempt.place).filter delivers) handed) := by
  refine ⟨?_, ?_, ?_⟩
  · intro s w t
    exact s.send_delivers w environment conduct t
  · intro step ctx command t sends parsed
    exact sendWebhook_handsLog _ _ sends parsed t
  · intro tools action occasion t
    exact run_handsLogs tools action occasion t

section

/-- Peers that take no longer than they may, and have not found what they were asked for. -/
private def lost : Program.Environment (MemoryStore × Unit) :=
  Program.Environment.facing Surroundings.still.environment fun _ _ => .answers ⟨10⟩ 404 ""

private def hook : Step :=
  ⟨"hook", .sendWebhook, none, .ofPairs [("url", .string "http://[::1]/"), ("timeoutMs", .ofNat 10),
    ("failOnError", .bool false)], [], [], []⟩

/-- Sends a webhook for each of two items. -/
private def calling : Action where
  __ := noSteps
  steps := [⟨"each", .loop, none, .ofPairs [("source", .string "array"), ("maxIterations", .ofNat 2),
    ("items", .array [.null, .null])], [], [], [hook]⟩]

/-- Both webhooks are logged under the id of their step. -/
theorem delivery_protocol_lost :
    let engine := { bareEngine with judge := fun _ => .allowed }
    let handed := handedLogs ((engine.run calling ⟨.manual, none, none⟩).run.asked lost ({}, ()))
    handed.map (·.get? "stepId") = [some (.string "hook"), some (.string "hook")] ∧
    handed.map (·.get? "statusCode") = [some (.ofNat 404), some (.ofNat 404)] ∧
    handed.map (·.get? "success") = [some (.bool false), some (.bool false)] ∧
    handed.map (·.get? "error") = [none, none] := by
  intro engine handed
  have tools : engine.ToolsAsk fun effect => ¬effect.Writes .webhookLogs := fun _ _ _ => Work.asks_fail _
  have delivered : (((engine.runAttempts lost calling ⟨.manual, none, none⟩ ({}, ())).map
      Attempt.place).filter delivers).map (fun place => some (Value.string place.1.id)) =
      [some (.string "hook"), some (.string "hook")] := by decide +kernel
  obtain ⟨-, -, runs⟩ := delivery_protocol engine lost fun _ _ => .keepsSilent
  have logs := runs tools calling ⟨.manual, none, none⟩ ({}, ())
  have started : ((engine.start calling ⟨.manual, none, none⟩).run.run lost ({}, ())).1 =
      .ok (Surroundings.marks 0) := by rfl
  rw [started] at logs
  have ids : List.Forall₂ Eq _ (handed.map (·.get? "stepId")) :=
    List.forall₂_map_left_iff.mpr (List.forall₂_map_right_iff.mpr
      (logs.imp fun place fields told => told.elim fun log told => told.step.symm))
  rw [List.forall₂_eq_eq_eq, delivered] at ids
  exact ⟨ids.symm, by decide +kernel, by decide +kernel, by decide +kernel⟩

end

end Engine
end Automation
