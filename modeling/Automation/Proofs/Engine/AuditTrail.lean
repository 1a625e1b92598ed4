import Automation.Proofs.Engine.Atomicity
import Automation.Proofs.Engine.Attempts
import Automation.Proofs.Engine.OwnRuns

/-!
The audit log tells of a run what it has done: of each step that changed the store, wherever it is
nested, in the order in which they ran, and of the run itself when it is over. Nothing else is told.
-/
namespace Automation

open Json (Value)
open Json.Members (member?_ofPairs)
open MemoryStore (served)

/-- The document holds the entry. -/
def Document.Tells (doc : Document) (entry : AuditEntry) : Prop :=
  Document.fieldsOf entry.encode = .ok doc.fields

namespace StepType

/-- Where the output of a step that changes the store names the document that it has changed. -/
def changedKey : StepType → String
  | .addToList | .removeFromList | .updateListEntry => "entryId"
  | _ => "recordId"

/-- Where the output of a step that writes a field of a record names the field. -/
def writtenKey? : StepType → Option String
  | .updateField | .clearField => some "field"
  | .copyField | .transformField => some "targetField"
  | _ => none

end StepType

/-- What a field of the record was before, and what it is after. -/
def FieldChange.Happened (c : FieldChange) (recordId : String) (before after : MemoryStore) : Prop :=
  ∃ old new, before.get? .records recordId = some old ∧ after.get? .records recordId = some new ∧
    c.before = Engine.fieldValue old c.field ∧ c.after = Engine.fieldValue new c.field

/-- The entry tells what a step of a run did that completed with the output. -/
structure AuditEntry.Explains (entry : AuditEntry) (run : Context) (step : Step)
    (before after : MemoryStore) (output : Value) : Prop where
  workspace : entry.workspaceId = run.workspaceId
  actor : entry.actorId = run.actorId
  metadata : entry.metadata = some (.ofPairs [("executionId", .ofText? run.executionId),
    ("stepId", .string step.id)])
  entity : output.member? step.type.changedKey = some (.string entry.entityId)
  changes : match step.type.writtenKey? with
    | some key => ∃ c, entry.changes = [c] ∧ output.member? key = some (.string c.field) ∧
        c.Happened entry.entityId before after
    | none => entry.changes = []

/-- Effects that do not write to the audit log. -/
abbrev Effect.Silent (effect : Effect) : Prop := ¬effect.Writes .auditLogs

namespace Attempt

variable {σ τ : Type}

/-- What came of the attempt, and the state behind it. -/
def ran (engine : Engine) (environment : Program.Environment σ) (a : Attempt σ) : StepOutcome × σ :=
  (engine.runStep a.step a.ctx).run environment a.state

/-- The step completed and was one to change the store. A record that is a member of a list already is
not added to it. -/
def mutated (engine : Engine) (environment : Program.Environment (MemoryStore × τ))
    (a : Attempt (MemoryStore × τ)) : Bool :=
  match (a.ran engine environment).1 with
  | .completed output _ => a.step.type.mutates &&
      !(a.step.type = .addToList && a.state.1.enlists output)
  | .failed _ _ | .crashed _ => false

/-- The document tells of the attempt. -/
def ToldBy (engine : Engine) (environment : Program.Environment (MemoryStore × τ)) (run : Context)
    (a : Attempt (MemoryStore × τ)) (doc : Document) : Prop :=
  ∃ output next entry, (a.ran engine environment).1 = .completed output next ∧ doc.Tells entry ∧
    entry.Explains run a.step a.state.1 (a.ran engine environment).2.1 output

end Attempt

namespace Engine

open MemoryStore

variable {τ : Type} {around : Surroundings τ} {idAt : Nat → String} {engine : Engine} {ctx run : Context}
  {step : Step} {p : Primitive} {s after : MemoryStore}

private theorem numbered_of_run {α : Type} (unique : ∀ m n, around.idAt m = around.idAt n → m = n)
    (program : Program α) {a : MemoryStore × τ} (numbered : a.1.Numbered around.idAt) :
    (program.run around.environment a).2.1.Numbered around.idAt := by
  induction program generalizing a with
  | done value => exact numbered
  | ask effect next ih =>
    exact ih _ (numbered.of_world unique (world_environment around effect a))

private theorem logs_of_served {effect : Effect} {reply : effect.Reply}
    (w : served idAt effect s reply after) (silent : ¬effect.Writes .auditLogs) :
    after.docs .auditLogs = s.docs .auditLogs :=
  docs_of_unwritten (world_of_served w) silent

private theorem reading_served : Reading idAt (fun _ => False) (served idAt) .free where
  reads _ _ _ := trivial
  sighted _ _ _ _ := nofun
  truthful _ _ _ _ w := world_of_served w
  crashes op s c after w := by
    obtain ⟨now, told, -⟩ := w
    cases told

/-- An entry that is handed to the audit log is the last of it. -/
private theorem tells_of_served {entry : AuditEntry} {fields : Json.Members} {reply : StoreReply String}
    (unissued : s.Unissued idAt) (encoded : Document.fieldsOf entry.encode = .ok fields)
    (w : served idAt (.store (.insert .auditLogs fields)) s reply after) :
    ∃ doc, after.docs .auditLogs = s.docs .auditLogs ++ [doc] ∧ doc.Tells entry := by
  obtain ⟨time, -, -, docs⟩ := insert_served (unissued _ (Nat.le_refl _) .auditLogs) w
  refine ⟨_, docs, ?_⟩
  have bare : Document.withoutSystemFields fields = fields := by
    cases encoded
    exact Document.withoutSystemFields_idem _
  rw [Document.Tells, encoded, bare]

/-- Entries that are deleted leave the audit log. -/
private theorem logs_of_cleared {entries : List Document} (unique : ∀ m n, idAt m = idAt n → m = n)
    (cleared : Cleared (served idAt) entries s after) (numbered : s.Numbered idAt) :
    after.docs .auditLogs = s.docs .auditLogs ∧ after.Numbered idAt := by
  induction cleared with
  | nil => exact ⟨rfl, numbered⟩
  | cons gone more ih =>
    obtain ⟨same, numbered⟩ := ih (numbered.of_world unique (world_of_served gone))
    exact ⟨same.trans (logs_of_served gone nofun), numbered⟩

private theorem silent_of_intended {entries : List Document} {op : StoreOp}
    {entry : op.Answer → AuditEntry} {output : op.Answer → Value}
    (intended : Intended ctx s p (.act entries op entry output)) :
    ¬Effect.Writes .auditLogs (.store op) := by
  cases intended <;> exact nofun

/-- A change is of a field that the output names, from the value that it had. -/
private structure Changes (record : Document) (type : StepType) (c : DataChange) : Prop where
  before : c.change.before = fieldValue record c.change.field
  after : c.change.after = c.value.getD .null
  key : type.changedKey = "recordId"
  distinct : ((("recordId", Value.string record.id) :: c.output).map (·.1)).Nodup
  names : ∃ key, type.writtenKey? = some key ∧
    (("recordId", Value.string record.id) :: c.output).lookup key = some (.string c.change.field)

private theorem changes_of_command {command : FieldCommand} {record : Document} {c : DataChange}
    (recordId : Option String) (ok : FieldCommand.change record command = .ok c) :
    Changes record (Primitive.field command recordId).type c := by
  cases command with
  | update field value =>
    cases ok
    exact ⟨rfl, rfl, rfl, by simp [DataChange.setting], "field", rfl, rfl⟩
  | clear field =>
    cases ok
    exact ⟨rfl, rfl, rfl, by simp, "field", rfl, rfl⟩
  | copy source target =>
    cases ok
    exact ⟨rfl, rfl, rfl, by simp [DataChange.setting], "targetField", rfl, rfl⟩
  | transform field name target amount decimals =>
    obtain ⟨value, -, same⟩ := Decode.except_bind_ok.mp ok
    cases same
    exact ⟨rfl, rfl, rfl, by simp [DataChange.setting], "targetField", rfl, rfl⟩

/-- A change that was written is what became of the field. -/
private theorem happened_of_served {type : StepType} {record : Document} {c : DataChange}
    {now : Time.Instant} {done : MemoryStore} {applied : Bool} {fields : Json.Members}
    {reply : StoreReply String} (stored : s.get? .records record.id = some record)
    (changes : Changes record type c)
    (does : served idAt (.store (.update .records record.id (c.update now))) s
      (.answered (.ok applied)) done)
    (told : served idAt (.store (.insert .auditLogs fields)) done reply after) :
    c.change.Happened record.id s after := by
  obtain ⟨-, found, here, rfl⟩ := update_performed (c.expect_update now) (world_of_served does)
  obtain rfl : record = found := Option.some.inj (stored.symm.trans here)
  let new : Document := { record with fields := (c.update now).applyFields record.fields }
  have there : after.get? .records record.id = some new := by
    have same : after.docs .records = _ := docs_of_world (world_of_served told) nofun
    rw [MemoryStore.get?, same]
    exact get?_place s .records new
  refine ⟨record, new, stored, there, changes.before, ?_⟩
  rw [changes.after, c.fieldValue_update, if_pos rfl]

private theorem explains_of_intended {entries : List Document} {op : StoreOp}
    {entry : op.Answer → AuditEntry} {output : op.Answer → Value} {cleared done : MemoryStore}
    {answer : op.Answer} {fields : Json.Members} {reply : StoreReply String} (ofRun : OfRun run ctx)
    (type : p.type = step.type) (intended : Intended ctx s p (.act entries op entry output))
    (clears : Cleared (served idAt) entries s cleared)
    (does : served idAt (.store op) cleared (.answered (.ok answer)) done)
    (told : served idAt (.store (.insert .auditLogs fields)) done reply after) :
    (stamped ctx step.id (entry answer)).Explains run step s after (output answer) := by
  have stamp : some (Value.ofPairs [("executionId", .ofText? ctx.executionId), ("stepId", .string step.id)]) =
      some (Value.ofPairs [("executionId", .ofText? run.executionId), ("stepId", .string step.id)]) := by
    rw [ofRun.execution]
  cases intended with
  | @change command recordId record c now target ok =>
    cases clears
    have changes : Changes record step.type c := type ▸ changes_of_command recordId ok
    obtain ⟨key, written, named⟩ := changes.names
    refine ⟨ofRun.workspace, ofRun.actor, stamp, ?_, ?_⟩
    · rw [changes.key, member?_ofPairs changes.distinct]
      rfl
    · rw [written]
      refine ⟨c.change, rfl, ?_, happened_of_served target.stored changes does told⟩
      rw [member?_ofPairs changes.distinct, named]
  | create | delete | archive | enter | leave | amend =>
    refine ⟨ofRun.workspace, ofRun.actor, stamp, ?_, type ▸ rfl⟩
    exact type ▸ member?_ofPairs (by simp)

/-- A step that completed after it has changed the store is told of, and no other one. -/
private theorem told_of_carried {intent : Intent} {v : Value} (unique : ∀ m n, idAt m = idAt n → m = n)
    (numbered : s.Numbered idAt) (ofRun : OfRun run ctx) (type : p.type = step.type)
    (intended : Intended ctx s p intent)
    (carried : Carried (served idAt) ctx step.id s intent v after) :
    if p.type = .addToList ∧ s.enlists v = true then after = s
    else ∃ doc entry, after.docs .auditLogs = s.docs .auditLogs ++ [doc] ∧ doc.Tells entry ∧
      entry.Explains run step s after v := by
  have idle := enlists_of_carried intended carried
  cases carried with
  | rest => rw [if_pos (idle.mpr rfl)]
  | act clears does encoded told =>
    rw [if_neg fun member => nomatch idle.mp member]
    have explains := explains_of_intended ofRun type intended clears does told
    obtain ⟨cleared, numbered⟩ := logs_of_cleared unique clears numbered
    have done := logs_of_served does (silent_of_intended intended)
    have numbered := numbered.of_world unique (world_of_served does)
    obtain ⟨doc, logs, tells⟩ := tells_of_served numbered.unissued encoded told
    exact ⟨doc, _, by rw [logs, done, cleared], tells, explains⟩

private theorem logs_of_abandoned (unique : ∀ m n, idAt m = idAt n → m = n) (numbered : s.Numbered idAt)
    (abandoned : Abandoned (served idAt) ctx s p after) :
    after.docs .auditLogs = s.docs .auditLogs := by
  cases abandoned with
  | early => rfl
  | late intended part cleared => exact (logs_of_cleared unique cleared numbered).1

/-- The audit log has got one entry more for each attempt that has changed the store. -/
private structure Trailed (engine : Engine) (around : Surroundings τ) (run : Context)
    (s : MemoryStore × τ) (attempts : List (Attempt (MemoryStore × τ))) (later : MemoryStore × τ) :
    Prop where
  numbered : later.1.Numbered around.idAt
  told : ∃ docs, later.1.docs .auditLogs = s.1.docs .auditLogs ++ docs ∧
    List.Forall₂ (Attempt.ToldBy engine around.environment run)
      (attempts.filter (Attempt.mutated engine around.environment)) docs

variable {a b c : MemoryStore × τ} {visits more : List (Attempt (MemoryStore × τ))}

private theorem Trailed.append (h : Trailed engine around run a visits b)
    (h' : Trailed engine around run b more c) : Trailed engine around run a (visits ++ more) c := by
  obtain ⟨docs, longer, told⟩ := h.told
  obtain ⟨docs', longer', told'⟩ := h'.told
  refine ⟨h'.numbered, docs ++ docs', ?_, ?_⟩
  · rw [longer', longer, List.append_assoc]
  · rw [List.filter_append]
    exact List.rel_append told told'

/-- Whatever leaves the audit log as it was has changed nothing. -/
private theorem trailed_quietly (numbered : b.1.Numbered around.idAt)
    (same : b.1.docs .auditLogs = a.1.docs .auditLogs)
    (idle : visits.filter (Attempt.mutated engine around.environment) = []) :
    Trailed engine around run a visits b := by
  refine ⟨numbered, [], ?_, ?_⟩
  · rw [same, List.append_nil]
  · rw [idle]
    exact .nil

private theorem looking_silent : Looking Effect.Silent where
  clock := nofun
  exchange _ _ := nofun
  get _ _ _ := nofun
  query _ _ _ := nofun

/-- Who does not write to the audit log leaves it as it was. -/
private theorem trailed_of_asks {α : Type} {program : Program α} {given : α → Prop}
    (unique : ∀ m n, around.idAt m = around.idAt n → m = n) (reliable : around.Reliable)
    (asks : program.Asks Effect.Silent given) (numbered : a.1.Numbered around.idAt)
    (idle : visits.filter (Attempt.mutated engine around.environment) = []) :
    Trailed engine around run a visits (program.run around.environment a).2 := by
  have meets : program.Meets (served around.idAt) .free (fun value s => given value ∧
      s.docs .auditLogs = a.1.docs .auditLogs) a.1 := by
    refine asks.meets (fun _ _ _ _ => trivial) (fun _ _ _ _ _ => nofun) ?_ rfl
    intro effect s reply after silent same w
    exact (logs_of_served w silent).trans same
  obtain ⟨-, same⟩ := meets.run Prod.fst reliable.fits
  exact trailed_quietly (numbered_of_run unique program numbered) same idle

/-- A step that changes nothing does not write to the audit log. -/
private theorem runStep_silent (tools : engine.ToolsAsk Effect.Silent) (notCondition : step.type ≠ .condition)
    (notLoop : step.type ≠ .loop) (idle : step.type.mutates = false) :
    (engine.runStep step ctx).Asks Effect.Silent fun _ => True := by
  refine runStep_asks notCondition notLoop fun p parsed => ?_
  refine looking_silent.idle ((Command.type_of_parse parsed).symm ▸ idle) (fun fields writes => ?_) tools
  cases writes

private theorem unmutated_of_type (idle : step.type.mutates = false) :
    [(⟨step, ctx, a⟩ : Attempt (MemoryStore × τ))].filter
      (Attempt.mutated engine around.environment) = [] := by
  refine List.filter_eq_nil_iff.mpr fun visit known => ?_
  obtain rfl := List.mem_singleton.mp known
  unfold Attempt.mutated
  split
  · simp [idle]
  · exact nofun
  · exact nofun

/-- A step that was to change the store is told of if it did. -/
private theorem trailed_of_comes (visit : Attempt (MemoryStore × τ))
    (unique : ∀ m n, around.idAt m = around.idAt n → m = n) (ofRun : OfRun run visit.ctx)
    (mutates : visit.step.type.mutates = true) (numbered : visit.state.1.Numbered around.idAt)
    (comes : Comes (served around.idAt) (fun _ => False) visit.step visit.ctx visit.state.1
      (visit.ran engine around.environment).1 (visit.ran engine around.environment).2.1) :
    Trailed engine around run visit.state [visit] (visit.ran engine around.environment).2 := by
  have kept : (visit.ran engine around.environment).2.1.Numbered around.idAt :=
    numbered_of_run unique (engine.runStep visit.step visit.ctx) numbered
  cases came : (visit.ran engine around.environment).1 with
  | crashed crash =>
    rw [came] at comes
    exact comes.elim
  | failed e output =>
    rw [came] at comes
    have same : (visit.ran engine around.environment).2.1.docs .auditLogs =
        visit.state.1.docs .auditLogs := by
      rcases comes with same | ⟨p, -, abandoned⟩
      · rw [same]
      · exact logs_of_abandoned unique numbered abandoned
    refine trailed_quietly kept same ?_
    simp [Attempt.mutated, came]
  | completed output next =>
    rw [came] at comes
    obtain ⟨-, p, intent, parsed, intended, carried⟩ := comes
    have type : p.type = visit.step.type := Command.type_of_parse parsed
    have told := told_of_carried unique numbered ofRun type intended carried
    rw [type] at told
    split at told
    · next member =>
      refine trailed_quietly kept (congrArg (·.docs .auditLogs) told) ?_
      simp [Attempt.mutated, came, member]
    · next fresh =>
      obtain ⟨doc, entry, logs, tells, explains⟩ := told
      refine ⟨kept, [doc], logs, ?_⟩
      have counts : visit.mutated engine around.environment = true := by
        simpa [Attempt.mutated, came, mutates, imp_iff_not_or] using fresh
      rw [List.filter_cons_of_pos counts]
      exact .cons ⟨output, next, entry, came, tells, explains⟩ .nil

/-- A step that does one thing is told of if it has changed the store. -/
private theorem runStep_trailed (unique : ∀ m n, around.idAt m = around.idAt n → m = n)
    (reliable : around.Reliable) (tools : engine.ToolsAsk Effect.Silent) (ofRun : OfRun run ctx)
    (notCondition : step.type ≠ .condition) (notLoop : step.type ≠ .loop)
    (numbered : a.1.Numbered around.idAt) :
    Trailed engine around run a [⟨step, ctx, a⟩]
      ((engine.runStep step ctx).run around.environment a).2 := by
  by_cases mutates : step.type.mutates = true
  · refine trailed_of_comes ⟨step, ctx, a⟩ unique ofRun mutates numbered ?_
    exact (runStep_comes reading_served mutates).run Prod.fst reliable.fits
  · rw [Bool.not_eq_true] at mutates
    refine trailed_of_asks unique reliable (runStep_silent tools notCondition notLoop mutates) numbered ?_
    rw [unmutated_of_type mutates]

/-- The steps of a run are told of, those that have changed the store. -/
private theorem recounts_trailed (unique : ∀ m n, around.idAt m = around.idAt n → m = n)
    (reliable : around.Reliable) (tools : engine.ToolsAsk Effect.Silent) :
    engine.Recounts around.environment (OfRun run) fun s attempts later =>
      s.1.Numbered around.idAt → Trailed engine around run s attempts later := by
  refine looking_silent.recounts ?_ ?_ ?_ ?_ ?_
  · intro s numbered
    exact trailed_quietly numbered rfl rfl
  · intro a b c attempts more first second numbered
    have h := first numbered
    exact h.append (second h.numbered)
  · intro α program given s asks numbered
    exact trailed_of_asks unique reliable asks numbered rfl
  · intro step ctx s ofRun notCondition notLoop
    exact runStep_trailed unique reliable tools ofRun notCondition notLoop
  · intro step ctx s nests numbered
    refine trailed_quietly numbered rfl (unmutated_of_type ?_)
    rcases nests with condition | loop
    · rw [condition]
      rfl
    · rw [loop]
      rfl

/-- Who opens or closes a run does not write to the audit log. -/
private theorem silent_of_run (effect : Effect) (on : Effect.On (· = .actionExecutions) effect) :
    effect.Silent := on.not_writes_other nofun

private theorem trailed_of_work {ε α : Type} {work : Work ε α} {given : α → Prop}
    {result : Except (Stop ε) α} (unique : ∀ m n, around.idAt m = around.idAt n → m = n)
    (reliable : around.Reliable) (asks : work.Asks Effect.Silent given)
    (ran : work.run.run around.environment a = (result, b)) (numbered : a.1.Numbered around.idAt) :
    Trailed engine around run a [] b := by
  have moved : Trailed engine around run a [] (work.run.run around.environment a).2 :=
    trailed_of_asks unique reliable (Work.asks_iff.mp asks) numbered rfl
  rw [ran] at moved
  exact moved

/-- An entry that is written where nothing goes wrong is the last of the audit log. -/
private theorem written_last {entry : AuditEntry} {result : Except (Stop LifecycleError) Unit}
    (reliable : around.Reliable) (numbered : a.1.Numbered around.idAt)
    (ran : (Work.ignoring (engine.writeAudit entry) : Work LifecycleError Unit).run.run
      around.environment a = (result, b)) :
    ∃ doc, b.1.docs .auditLogs = a.1.docs .auditLogs ++ [doc] ∧ doc.Tells entry := by
  have meets : (Work.ignoring (engine.writeAudit entry) : Work LifecycleError Unit).Meets
      (served around.idAt) .free _ _ a.1 := ignoring_tells reading_served entry fun _ _ => trivial
  have tells := Program.Meets.run Prod.fst reliable.fits meets
  rw [ran] at tells
  cases result with
  | error stop =>
    obtain ⟨c, -, impossible⟩ := tells
    exact impossible.elim
  | ok value =>
    obtain ⟨fields, reply, encoded, w⟩ := tells
    exact tells_of_served numbered.unissued encoded w

/-- A run that goes wrong nowhere is reported. -/
private theorem run_reported {action : Action} {occasion : Occasion}
    (unique : ∀ m n, around.idAt m = around.idAt n → m = n) (reliable : around.Reliable)
    (aside : engine.ToolsAside) (numbered : a.1.Numbered around.idAt) :
    ∃ report, ((engine.run action occasion).run.run around.environment a).1 = .ok report := by
  have lists : Past.Lists (ι := Unit) around.idAt ((a.1.docs .actionExecutions).map (·.id))
      ⟨[], a.1⟩ := by
    refine ⟨by simp, numbered.keyed .actionExecutions, ?_⟩
    exact fun n later => numbered.unissued n later .actionExecutions
  have begun : HasOpened around.idAt _ () [] ⟨[], a.1⟩ := HasOpened.nothing lists rfl
  have steps := runSequence_asks aside action.steps
  have alone : (engine.run action occasion).run.Meets (served around.idAt) .free _ a.1 :=
    Program.Sharing.meets_alone (ownRuns_holds unique) lists (run_served steps begun)
  obtain ⟨turns, post⟩ := alone.run Prod.fst reliable.fits
  generalize (engine.run action occasion).run.run around.environment a = ran at post
  obtain ⟨result, after⟩ := ran
  cases result with
  | error stop => exact post.elim
  | ok report => exact ⟨report, rfl⟩

private theorem audited_of_reported {action : Action} {occasion : Occasion} {report : ExecutionReport}
    (unique : ∀ m n, around.idAt m = around.idAt n → m = n) (reliable : around.Reliable)
    (tools : engine.ToolsAsk Effect.Silent) (numbered : a.1.Numbered around.idAt)
    (whole : (engine.run action occasion).run.run around.environment a = (.ok report, c)) :
    ∃ docs last, c.1.docs .auditLogs = a.1.docs .auditLogs ++ docs ++ [last] ∧
      List.Forall₂ (Attempt.ToldBy engine around.environment
          (firstContext action occasion report.executionId))
        ((engine.runAttempts around.environment action occasion a).filter
          (Attempt.mutated engine around.environment)) docs ∧
      last.Tells (executedEntry action occasion report.executionId report.status) := by
  obtain ⟨executionId, started, starts, rest⟩ := Work.run_split whole
  obtain ⟨trace, ended, runs, rest⟩ := Work.run_split rest
  obtain ⟨status, finished, finishes, rest⟩ := Work.run_split rest
  obtain ⟨_, last, tells, rest⟩ := Work.run_split rest
  cases rest
  let run := firstContext action occasion executionId
  have opens : Trailed engine around run a [] started :=
    trailed_of_work unique reliable
      ((start_asks action occasion).mono silent_of_run fun _ post => post) starts numbered
  have goes : Trailed engine around run started
      (engine.attemptsAll around.environment action.steps run started) ended := by
    have recounts : engine.Recounts around.environment (OfRun run) _ :=
      recounts_trailed unique reliable tools
    have moved := (runSequence_recounts recounts action.steps run started ⟨rfl, rfl, rfl⟩).1
    rw [Work.run_ofProgram] at runs
    cases runs
    exact moved opens.numbered
  have closes : Trailed engine around run ended [] finished :=
    trailed_of_work unique reliable
      ((finish_asks executionId trace.results trace.ending.error?).mono silent_of_run fun _ post => post)
      finishes goes.numbered
  obtain ⟨docs, logs, told⟩ := ((opens.append goes).append closes).told
  obtain ⟨doc, own, holds⟩ := written_last reliable closes.numbered tells
  refine ⟨docs, doc, ?_, ?_, holds⟩
  · rw [own, logs]
  · rw [List.nil_append, List.append_nil] at told
    rw [runAttempts, starts]
    exact told

/-- The audit log has got one entry for each step of the run that has changed the store, in the order in
which the steps ran, and then one for the run itself, if nothing goes wrong in the store. -/
theorem run_audited {τ : Type} (engine : Engine) (around : Surroundings τ) (action : Action)
    (occasion : Occasion) {store : MemoryStore} (t : τ) (reliable : around.Reliable)
    (unique : ∀ m n, around.idAt m = around.idAt n → m = n) (keyed : store.Keyed)
    (unissued : store.Unissued around.idAt)
    (tools : engine.ToolsAsk fun effect => effect.On Table.OfSteps ∧ ¬effect.Writes .auditLogs) :
    let ran := (engine.run action occasion).run.run around.environment (store, t)
    ∃ report docs last, ran.1 = .ok report ∧
      ran.2.1.docs .auditLogs = store.docs .auditLogs ++ docs ++ [last] ∧
      List.Forall₂ (Attempt.ToldBy engine around.environment
          (firstContext action occasion report.executionId))
        ((engine.runAttempts around.environment action occasion (store, t)).filter
          (Attempt.mutated engine around.environment)) docs ∧
      last.Tells (executedEntry action occasion report.executionId report.status) := by
  have silent : engine.ToolsAsk Effect.Silent := fun tool arguments caller =>
    (tools tool arguments caller).mono (fun _ asked => asked.2) fun _ post => post
  have aside : engine.ToolsAside := fun tool arguments caller =>
    (tools tool arguments caller).mono (fun _ asked => asked.1) fun _ post => post
  have numbered : store.Numbered around.idAt := ⟨keyed, unissued⟩
  obtain ⟨report, reported⟩ := run_reported (a := (store, t)) unique reliable aside numbered
  obtain ⟨docs, last, audited⟩ := audited_of_reported (a := (store, t)) unique reliable silent numbered
    (Prod.ext reported rfl)
  exact ⟨report, docs, last, reported, audited⟩

section

private def atStage (id value : String) : Step :=
  ⟨id, .updateField, none, .ofPairs [("field", .string "stage"), ("value", .string value)], [], [], []⟩

private def addition (id listId : String) : Step :=
  ⟨id, .addToList, none, .ofPairs [("listId", .string listId)], [], [], []⟩

/-- Writes a field in a branch, adds the record to a list that has it already, and to one that is not
there. -/
private def auditing : Action where
  __ := noSteps
  steps := [⟨"c", .condition, none, .ofPairs [("conditions", .array [])], [atStage "u" "won"], [], []⟩,
    addition "again" "l", addition "nowhere" "z"]

private def byHand : Occasion := ⟨.manual, some ⟨"r", 0, none, []⟩, some "someone"⟩

/-- Of four steps that are attempted one has changed the store, and it is told of before the run is. -/
theorem run_audited_changed :
    let ran := (bareEngine.run auditing byHand).run.run Surroundings.still.environment (enrolled, ())
    let attempts := bareEngine.runAttempts Surroundings.still.environment auditing byHand (enrolled, ())
    attempts.map (·.step.id) = ["c", "u", "again", "nowhere"] ∧
    ∃ report change last, ran.1 = .ok report ∧ ran.2.1.docs .auditLogs = [change, last] ∧
      (∃ a ∈ attempts, a.step.id = "u" ∧ a.ToldBy bareEngine Surroundings.still.environment
        (firstContext auditing byHand report.executionId) change) ∧
      last.Tells (executedEntry auditing byHand report.executionId report.status) := by
  intro ran attempts
  have changed : (attempts.filter (Attempt.mutated bareEngine Surroundings.still.environment)).map
      (·.step.id) = ["u"] := by decide +kernel
  have tools : bareEngine.ToolsAsk fun effect => effect.On Table.OfSteps ∧ ¬effect.Writes .auditLogs :=
    fun _ _ _ => Work.asks_fail _
  obtain ⟨report, docs, last, reported, logs, told, ends⟩ := run_audited bareEngine .still auditing byHand
    () Surroundings.reliable_still Surroundings.marks_unique keyed_enrolled unissued_enrolled tools
  obtain ⟨a, only, named⟩ := List.map_eq_singleton_iff.mp changed
  rw [show List.filter _ (bareEngine.runAttempts _ auditing byHand _) = [a] from only] at told
  obtain ⟨change, rest, tells, nothing, rfl⟩ := List.forall₂_cons_left_iff.mp told
  obtain rfl := List.forall₂_nil_left_iff.mp nothing
  have known : a ∈ attempts := (List.mem_filter.mp (only ▸ List.mem_singleton_self a)).1
  exact ⟨by decide +kernel, report, change, last, reported, logs, ⟨a, known, named, tells⟩, ends⟩

end

end Engine
end Automation
