import Automation.Proofs.Engine.Attempts
import Automation.Proofs.Engine.ListIntegrity
import Automation.Proofs.Store.LogKeeping

/-!
What becomes of the logs of a run does not matter to it. Two runs whose logs are kept by somebody else go
alike: the same steps are attempted, the same is reported, and the same is stored in all other tables.
-/
namespace Automation

open Json (Value)

namespace Engine

open Work

variable {engine : Engine} {ctx : Context} {stepId : String}

private theorem looking_unlogged : Looking Effect.Unlogged where
  clock := trivial
  exchange _ _ := trivial
  get table _ ofData := by
    cases table <;> first | rfl | cases ofData
  query table _ ofData := by
    cases table <;> first | rfl | cases ofData

private theorem unlogged_of_mayDo {p : Primitive} {op : StoreOp} (may : p.MayDo op) :
    Effect.Unlogged (.store op) := by
  cases may <;> rfl

private theorem writeAudit_blind {ε : Type} (entry : AuditEntry) :
    (Work.ignoring (engine.writeAudit entry) : Work ε Unit).Blind := ignoring_blind _ rfl _

private theorem carryOut_blind {p : Primitive} {intent : Intent} (suits : intent.Suits p) :
    (engine.carryOut ctx stepId intent).Blind := by
  cases intent with
  | rest output => trivial
  | act entries op entry output =>
    have clears : (engine.deleteEntries entries).Asks Effect.Unlogged fun _ => True :=
      deleteEntries_asks (fun _ => rfl) entries
    refine clears.thenBlind fun _ _ => ?_
    have does : (engine.records.ask op).Asks Effect.Unlogged fun _ => True :=
      Connection.asks_ask (unlogged_of_mayDo suits)
    refine does.thenBlind fun answer _ => ?_
    exact (writeAudit_blind _).bind fun _ => trivial

/-- A webhook gives what comes of it, whether or not the log of it is stored. -/
private theorem sendWebhook_blind (w : Webhook) : (engine.sendWebhook ctx stepId w).Blind := by
  have sends : (engine.sender.send w).Asks Effect.Unlogged fun _ => True :=
    looking_unlogged.send engine.sender w
  refine (asks_ofProgram sends).thenBlind fun delivery _ => ?_
  refine (ignoring_blind _ rfl (loggedFields ctx stepId delivery.log)).bind fun _ => ?_
  have ends : (do
      let response ← Work.ofExcept delivery.outcome
      return response.encode : Work StepError Value).Asks Effect.Unlogged fun _ => True :=
    (asks_ofExcept fun _ _ => trivial).bind fun _ _ => asks_pure trivial
  exact ends.blind

/-- No step that does one thing tells what comes of the logs. -/
private theorem runPrimitive_blind (tools : engine.ToolsAsk Effect.Unlogged) (p : Primitive) :
    (engine.runPrimitive ctx stepId p).Blind := by
  by_cases mutates : p.type.mutates = true
  · rw [runPrimitive_eq engine ctx stepId mutates]
    exact (looking_unlogged.plan p).thenBlind fun intent suits => carryOut_blind suits
  · cases p with
    | sendWebhook webhook => exact sendWebhook_blind webhook
    | callTool tool arguments => exact (callTool_asks tools).blind
    | field command recordId => cases command <;> exact absurd rfl mutates
    | list command listId recordId data => cases command <;> exact absurd rfl mutates
    | _ => exact absurd rfl mutates

/-- No step of a run tells what comes of the logs. -/
private theorem follows_blind (tools : engine.ToolsAsk Effect.Unlogged) :
    engine.Follows World.any .unlogged {} where
  clock _ _ := (Program.asks_now looking_unlogged.clock).blind.mono fun _ _ _ => ⟨trivial, trivial⟩
  withOutput _ _ _ _ _ := trivial
  atItem _ _ _ _ _ := trivial
  primitive _ _ p _ _ _ _ := (runPrimitive_blind tools p).meets fun _ => ⟨trivial, trivial⟩
  subject _ subject _ _ _ := (looking_unlogged.subject subject).blind.meets fun _ => trivial
  items _ settings max _ _ _ := (looking_unlogged.items settings max).blind.meets fun _ => trivial
  branch _ _ _ := trivial
  loop _ _ _ := trivial

private theorem runSequence_blind (tools : engine.ToolsAsk Effect.Unlogged) (steps : List Step)
    (ctx : Context) : (engine.runSequence steps ctx).Blind :=
  (runSequence_follows (follows_blind tools) steps ctx () trivial trivial).mono fun _ _ _ => trivial

private theorem unlogged_of_run (table : Table) (h : table = .actionExecutions) :
    table.isLog = false := by
  rw [h]
  rfl

private theorem start_unlogged (action : Action) (occasion : Occasion) :
    (engine.start action occasion).Asks Effect.Unlogged fun _ => True :=
  (start_asks action occasion).on unlogged_of_run

/-- A run does not tell what comes of the logs. -/
private theorem run_blind (tools : engine.ToolsAsk Effect.Unlogged) (action : Action)
    (occasion : Occasion) : (engine.run action occasion).Blind := by
  refine (start_unlogged action occasion).thenBlind fun executionId _ => ?_
  have steps := runSequence_blind tools action.steps (firstContext action occasion executionId)
  refine (blind_ofProgram steps).bind fun trace => ?_
  have finishes : (engine.finish executionId trace.results trace.ending.error?).Asks Effect.Unlogged _ :=
    (finish_asks executionId trace.results trace.ending.error?).on unlogged_of_run
  refine finishes.thenBlind fun status _ => ?_
  exact (writeAudit_blind _).bind fun _ => trivial

private theorem agrees_unlogged {τ κ κ' : Type} (around : Surroundings τ) (keeper : LogKeeper κ)
    (other : LogKeeper κ') (tools : engine.ToolsAsk Effect.Unlogged) :
    engine.Agrees (around.keeping keeper) (around.keeping other) Surroundings.Alike where
  clock := Surroundings.blind_agrees around keeper other
    (Program.asks_now looking_unlogged.clock).blind
  step step ctx := Surroundings.blind_agrees around keeper other
    ((runStep_follows (follows_blind tools) step ctx () trivial trivial).mono fun _ _ _ => trivial)
  sequence steps ctx := Surroundings.blind_agrees around keeper other
    (runSequence_blind tools steps ctx)
  subject _ subject := Surroundings.blind_agrees around keeper other
    (looking_unlogged.subject subject).blind
  items _ settings max := Surroundings.blind_agrees around keeper other
    (looking_unlogged.items settings max).blind

/-- Whoever keeps the logs and whatever becomes of them, a run attempts the same steps in the same
contexts, reports the same, and stores the same in all other tables. -/
theorem run_unlogged {τ κ κ' : Type} (engine : Engine) (around : Surroundings τ) (keeper : LogKeeper κ)
    (other : LogKeeper κ') (action : Action) (occasion : Occasion) (store : MemoryStore) (t : τ) (k : κ)
    (k' : κ') (tools : engine.ToolsAsk Effect.Unlogged) :
    let ran := (engine.run action occasion).run.run (around.keeping keeper) (store, t, k)
    let ran' := (engine.run action occasion).run.run (around.keeping other) (store, t, k')
    (engine.runAttempts (around.keeping keeper) action occasion (store, t, k)).map Attempt.place =
      (engine.runAttempts (around.keeping other) action occasion (store, t, k')).map Attempt.place ∧
    ran.1 = ran'.1 ∧ ∀ table, table.isLog = false → ran.2.1.docs table = ran'.2.1.docs table := by
  intro ran ran'
  have alike : Surroundings.Alike (store, t, k) (store, t, k') := ⟨rfl, rfl⟩
  obtain ⟨same, later⟩ := Surroundings.blind_agrees around keeper other
    (run_blind tools action occasion) _ _ alike
  refine ⟨?_, same, fun table => MemoryStore.docs_of_unlogged later.store⟩
  obtain ⟨opened, began⟩ := Surroundings.blind_agrees around keeper other
    (start_unlogged action occasion).blind _ _ alike
  unfold runAttempts
  dsimp only
  rw [← opened]
  split
  · next executionId _ =>
    exact attemptsAll_agree (agrees_unlogged around keeper other tools) action.steps _ _ _ began
  · rfl

section

private def keepsAll : LogKeeper Nat where
  keep table fields store n := (some (.ok (toString n)), store.docs table ++ [⟨toString n, 0, fields⟩], n + 1)

/-- Claims that there is no store to be had, which would end any other work. -/
private def losesAll : LogKeeper Unit where
  keep table _ store k := (some (.error (.unavailable "gone")), store.docs table, k)

/-- Writes a field in a branch, and sends a webhook that is refused. -/
private def bookkeeping : Action where
  __ := noSteps
  steps := [
    ⟨"c", .condition, none, .ofPairs [("conditions", .array [])],
      [⟨"u", .updateField, none, .ofPairs [("field", .string "stage"), ("value", .string "won")], [], [], []⟩],
      [], []⟩,
    ⟨"hook", .sendWebhook, none, .ofPairs [("url", .string "http://h/")], [], [], []⟩]

private def readers : Engine := { bareEngine with tools := Toolbox.recordTools }

private def pressed : Occasion := ⟨.manual, some ⟨"r", 0, none, []⟩, none⟩

/-- A run goes the same whether three entries of its logs are kept or all of them are lost. -/
theorem run_unlogged_lost :
    let kept := Surroundings.still.keeping keepsAll
    let lost := Surroundings.still.keeping losesAll
    let ran := (readers.run bookkeeping pressed).run.run kept (enrolled, (), 0)
    let ran' := (readers.run bookkeeping pressed).run.run lost (enrolled, (), ())
    ran.2.1.auditLogs.length = 2 ∧ ran.2.1.webhookLogs.length = 1 ∧
    ran'.2.1.auditLogs = [] ∧ ran'.2.1.webhookLogs = [] ∧
    (readers.runAttempts lost bookkeeping pressed (enrolled, (), ())).map (·.step.id) =
      ["c", "u", "hook"] ∧
    ran.1 = ran'.1 ∧ ran.2.1.records = ran'.2.1.records ∧
    ran.2.1.actionExecutions = ran'.2.1.actionExecutions := by
  intro kept lost ran ran'
  have tools : readers.ToolsAsk Effect.Unlogged := looking_unlogged.recordTools rfl
  obtain ⟨-, same, stored⟩ := run_unlogged readers .still keepsAll losesAll bookkeeping pressed enrolled
    () 0 () tools
  refine ⟨by decide +kernel, by decide +kernel, by decide +kernel, by decide +kernel, by decide +kernel,
    same, stored .records rfl, stored .actionExecutions rfl⟩

end

end Engine
end Automation
