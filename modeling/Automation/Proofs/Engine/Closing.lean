import Automation.Proofs.Engine.Halting
import Automation.Proofs.Engine.StoredRun
import Automation.Proofs.Store.Surroundings

/-!
Every run that is opened is closed, however its steps end, and what is stored of it is what is
reported.
-/
namespace Automation

/-- The stored run is over and says what the report says. -/
structure ActionExecution.Confirms (e : ActionExecution) (report : ExecutionReport) : Prop where
  id : e.id = report.executionId
  actionId : e.actionId = report.actionId
  terminal : e.status.isTerminal = true
  completedAt : e.completedAt.isSome = true
  status : e.status = report.status
  stepResults : e.stepResults = report.stepResults
  error : e.error = report.error

/-- The report says what became of the steps. -/
structure ExecutionReport.TrueTo (report : ExecutionReport) (steps : List Step) (trace : Trace) :
    Prop where
  stepResults : report.stepResults = trace.results
  completed : report.status = .completed ↔ trace.results.map (·.origin) = steps.map (·.origin) ∧
    (∀ r ∈ trace.results, r.isFailed = false) ∧ trace.ending.error? = none
  error : report.error = match halted? trace.results with
    | some r => r.error
    | none => trace.ending.error?

variable {σ : Type}

/-- The store does whatever it is asked about runs; `opened` tells what it has of one. -/
structure KeepsRuns (environment : Program.Environment σ) (opened : σ → String → Option Document) :
    Prop where
  inserted : ∀ fields s, ∃ id time after,
    environment (.store (.insert .actionExecutions fields)) s = (.answered (.ok id), after) ∧
    opened after id = some ⟨id, time, Document.withoutSystemFields fields⟩
  found : ∀ id s, ∃ after,
    environment (.store (.get .actionExecutions id)) s = (.answered (.ok (opened s id)), after) ∧
    opened after id = opened s id
  updated : ∀ id u s doc, opened s id = some doc → ∃ after,
    environment (.store (.update .actionExecutions id u)) s =
      (.answered (.ok (u.applyTo? doc).isSome), after) ∧
    opened after id = some ((u.applyTo? doc).getD doc)

/-- What a store in memory has of a run. -/
def MemoryStore.opened {τ : Type} (s : MemoryStore × τ) (id : String) : Option Document :=
  s.1.get? .actionExecutions id

/-- A store in memory serves runs as long as no operation on them goes wrong. -/
theorem Surroundings.keepsRuns {τ : Type} {around : Surroundings τ}
    (calm : ∀ op t, op.table = .actionExecutions → (around.fault op t).1 = none) :
    KeepsRuns around.environment MemoryStore.opened := by
  have served (op : StoreOp) (store : MemoryStore) (t : τ) (own : op.table = .actionExecutions) :
      ∃ now t', around.environment (.store op) (store, t) =
        (.answered (store.perform ⟨around.idAt, now⟩ op).1,
          (store.perform ⟨around.idAt, now⟩ op).2, t') := by
    have calm := calm op t own
    simp only [environment, perform]
    generalize around.fault op t = faulty at *
    obtain ⟨fault, t⟩ := faulty
    cases calm
    exact ⟨_, _, rfl⟩
  refine ⟨fun fields s => ?_, fun id s => ?_, fun id u s doc found => ?_⟩
  · obtain ⟨now, t, asked⟩ := served (.insert .actionExecutions fields) s.1 s.2 rfl
    obtain ⟨time, found⟩ := s.1.get?_insert ⟨around.idAt, now⟩ .actionExecutions fields
    exact ⟨_, time, _, asked, found⟩
  · obtain ⟨now, t, asked⟩ := served (.get .actionExecutions id) s.1 s.2 rfl
    exact ⟨_, asked, rfl⟩
  · obtain ⟨now, t, asked⟩ := served (.update .actionExecutions id u) s.1 s.2 rfl
    have found : s.1.get? .actionExecutions id = some doc := found
    have named : doc.id = id := (MemoryStore.mem_of_get? found).2
    simp only [MemoryStore.perform, MemoryStore.update, found] at asked
    cases changed : u.applyTo? doc with
    | none =>
      rw [changed] at asked
      exact ⟨_, asked, found⟩
    | some new =>
      rw [changed] at asked
      have same : new.id = id := by rw [DocumentUpdate.eq_of_applyTo? changed, named]
      exact ⟨_, asked, same ▸ s.1.get?_place .actionExecutions new⟩

namespace Engine

/-- Nobody but the engine writes what is stored of the run. -/
structure Undisturbed (engine : Engine) (environment : Program.Environment σ)
    (opened : σ → String → Option Document) (id : String) : Prop where
  effects : ∀ effect s, (∀ op, effect = .store op → op.table ≠ .actionExecutions) →
    opened (environment effect s).2 id = opened s id
  tools : ∀ tool ∈ engine.tools.tools, ∀ arguments caller s,
    opened ((tool.call engine.toolStore arguments caller).run.run environment s).2 id = opened s id

/-- What comes from outside is well formed: times are of a calendar that can be written, and the
members of objects are in key order. -/
structure WellFormed (engine : Engine) (environment : Program.Environment σ) : Prop where
  clock : ∀ s, (environment .clock s).1.Representable
  replies : ∀ op s, op.table ≠ .actionExecutions → (environment (.store op) s).1.Proper
  tools : ∀ tool ∈ engine.tools.tools, ∀ arguments caller s data, arguments.Canonical →
    ((tool.call engine.toolStore arguments caller).run.run environment s).1 = .ok (.success data) →
    data.Canonical

variable {engine : Engine} {environment : Program.Environment σ}
  {opened : σ → String → Option Document} {action : Action} {occasion : Occasion}

theorem terminal_summarize (results : List StepResult) (stop : Option String) :
    (summarize results stop).1.isTerminal = true := by
  unfold summarize
  split
  · rfl
  · split <;> rfl

theorem summarize_of_passed {results : List StepResult} (stop : Option String)
    (completed : ∀ r ∈ results, r.isFailed = false) :
    summarize results stop = (if stop.isSome then .failed else .completed, stop) := by
  unfold summarize
  rw [halted?_eq_none.mpr completed]
  cases stop <;> rfl

theorem summarize_of_failed {before : List StepResult} {r : StepResult} {text : String}
    (stop : Option String) (completed : ∀ r ∈ before, r.isFailed = false)
    (failed : r.isFailed = true) (error : r.error = some text) :
    summarize (before ++ [r]) stop = (.failed, some text) := by
  unfold summarize
  rw [halted?_append completed failed]
  dsimp only
  rw [error]
  rfl

/-- What is made of the steps is true, whatever way they ended. -/
theorem summarize_trueTo {steps : List Step} {trace : Trace} (h : trace.Ends steps)
    (executionId actionId : String) :
    let summary := summarize trace.results trace.ending.error?
    ExecutionReport.TrueTo ⟨executionId, actionId, summary.1, trace.results, summary.2⟩ steps trace := by
  have broken {before : List StepResult} {r : StepResult} {text : String} {ending : Ending}
      (completed : ∀ r ∈ before, r.isFailed = false) (failed : r.isFailed = true)
      (error : r.error = some text) :
      let summary := summarize (before ++ [r]) ending.error?
      ExecutionReport.TrueTo ⟨executionId, actionId, summary.1, before ++ [r], summary.2⟩ steps
        ⟨before ++ [r], ending⟩ := by
    rw [summarize_of_failed _ completed failed error]
    refine ⟨rfl, iff_of_false nofun fun all => ?_, ?_⟩
    · have passed := all.2.1 r (by simp)
      rw [failed] at passed
      cases passed
    · rw [halted?_append completed failed]
      exact error.symm
  cases h with
  | finished all completed =>
    rw [summarize_of_passed _ completed]
    refine ⟨rfl, iff_of_true rfl ⟨all, completed, rfl⟩, ?_⟩
    rw [halted?_eq_none.mpr completed]
  | halted attempted completed failed error fatal => exact broken completed failed error
  | aborted attempted completed failed error fatal => exact broken completed failed error
  | crashed attempted fewer completed =>
    rw [summarize_of_passed _ completed]
    refine ⟨rfl, iff_of_false nofun fun all => Option.some_ne_none _ all.2.2, ?_⟩
    rw [halted?_eq_none.mpr completed]

/-- What is stored of a run is the run, with its id. -/
def Holds (opened : σ → String → Option Document) (id : String) (e : ActionExecution) (s : σ) : Prop :=
  ∃ doc, opened s id = some doc ∧ doc.id = id ∧ doc.Shows e

theorem Holds.of_eq {id : String} {e : ActionExecution} {s after : σ} (h : Holds opened id e s)
    (same : opened after id = opened s id) : Holds opened id e after := by
  obtain ⟨doc, found, shown⟩ := h
  exact ⟨doc, same.trans found, shown⟩

/-- A run is opened as a running one. -/
theorem start_holds (engine : Engine) (action : Action) (occasion : Occasion)
    (keeps : KeepsRuns environment opened) (s : σ) : ∃ id after,
    (engine.start action occasion).run.run environment s = (.ok id, after) ∧
    Holds opened id { pendingExecution action occasion (environment .clock s).1 with
      status := .running } after := by
  let pending := pendingExecution action occasion (environment .clock s).1
  obtain ⟨fields, encoded⟩ : ∃ fields, Document.fieldsOf pending.encode = .ok fields := ⟨_, rfl⟩
  obtain ⟨id, time, inserted, asked, found⟩ := keeps.inserted fields (environment .clock s).2
  let patch : DocumentUpdate := { set := [("status", .string ExecutionStatus.running.name)] }
  obtain ⟨after, patched, set⟩ := keeps.updated id patch inserted _ found
  have shown : Document.Shows ⟨id, time, Document.withoutSystemFields fields⟩ pending :=
    .of_encode encoded
  refine ⟨id, after, ?_, _, set, rfl, shown.patchStatus .running⟩
  refine (Work.run_next (Work.run_ofProgram _)).trans ?_
  refine (Work.run_next (Work.run_ofExcept (congrArg (Except.mapError _) encoded))).trans ?_
  refine (Work.run_next (Connection.run_answered asked)).trans ?_
  exact (Work.run_next (Work.run_next (Connection.run_answered patched))).trans rfl

private theorem Undisturbed.still {id : String} {found : Option Document} {effect : Effect}
    {s after : σ} {reply : effect.Reply} (h : Undisturbed engine environment opened id)
    (start : opened s id = found) (w : environment.world effect s reply after)
    (other : ∀ op, effect = .store op → op.table ≠ .actionExecutions) : opened after id = found := by
  have moved := h.effects effect s other
  rw [show environment effect s = (reply, after) from w] at moved
  exact moved.trans start

theorem Undisturbed.supported {id : String} (h : Undisturbed engine environment opened id)
    (formed : WellFormed engine environment) (found : Option Document) :
    engine.Supported environment.world (opened · id = found) Time.Instant.Representable
      (fun _ => True) True where
  clock s t after start w := by
    have range := formed.clock s
    rw [show environment .clock s = (t, after) from w] at range
    exact ⟨range, h.still start w nofun⟩
  exchange request deadline s reply after start w := h.still start w nofun
  keeps op s reply after other start w := h.still start w (by rintro _ ⟨⟩; exact other)
  crashes _ _ _ _ _ _ := trivial
  replies op s reply after other _ w _ := by
    have proper := formed.replies op s other
    rw [show environment _ s = (reply, after) from w] at proper
    exact proper
  tool tool known arguments caller canonical s start := Program.meets_world.mpr <| by
    have moved := (h.tools tool known arguments caller s).trans start
    cases result : ((tool.call engine.toolStore arguments caller).run.run environment s).1 with
    | ok value =>
      refine ⟨fun _ => ?_, moved⟩
      cases value with
      | success data =>
        exact formed.tools tool known arguments caller s data (canonical trivial) result
      | error text => trivial
    | error stop => exact ⟨by cases stop <;> trivial, moved⟩

/-- Steps leave what is stored of their run as it is, and their results can be stored. -/
theorem runSequence_leaves {id : String} (formed : WellFormed engine environment)
    (undisturbed : Undisturbed engine environment opened id) (steps : List Step) (ctx : Context)
    (s : σ) :
    let run := (engine.runSequence steps ctx).run environment s
    (∀ r ∈ run.1.results, r.Lossless) ∧ opened run.2 id = opened s id := by
  have follows := (undisturbed.supported formed (opened s id)).follows
  obtain ⟨⟨left, -⟩, same⟩ :=
    Program.meets_world.mp (runSequence_follows follows steps ctx s trivial rfl)
  refine ⟨fun r hr => ?_, same⟩
  obtain ⟨output, startedAt, completedAt⟩ := left r hr
  exact ⟨fun v hv => ⟨(output v hv).1, (output v hv).2 trivial⟩, startedAt, completedAt⟩

theorem load_holds (engine : Engine) {id : String} {e : ActionExecution} {s : σ}
    (keeps : KeepsRuns environment opened) (h : Holds opened id e s) (lossless : e.Lossless) : ∃ after,
    (engine.load id).run.run environment s = (.ok { e with id := id }, after) ∧
    opened after id = opened s id := by
  obtain ⟨doc, found, rfl, shown⟩ := h
  obtain ⟨after, asked, same⟩ := keeps.found doc.id s
  rw [found] at asked
  refine ⟨after, ?_, same⟩
  refine (Work.run_next (Connection.run_answered asked)).trans ?_
  exact Work.run_ofExcept (congrArg (Except.mapError _) (shown.decode lossless))

/-- A run that is open is closed with the results of its steps. -/
theorem finish_holds {id : String} {e : ActionExecution} {s : σ} (keeps : KeepsRuns environment opened)
    (formed : WellFormed engine environment) (undisturbed : Undisturbed engine environment opened id)
    (h : Holds opened id e s) (lossless : e.Lossless) (running : e.status.isTerminal = false)
    (calm : e.error = none) (results : List StepResult) (stop : Option String) :
    let summary := summarize results stop
    ∃ now after, (engine.finish id results stop).run.run environment s = (.ok summary.1, after) ∧
      now.Representable ∧ Holds opened id { e with
        status := summary.1, stepResults := results, completedAt := some now, error := summary.2 }
        after := by
  intro summary
  obtain ⟨s', loaded, same⟩ := load_holds engine keeps h lossless
  obtain ⟨doc, found, rfl, shown⟩ := h
  let now := (environment .clock s').1
  have found' : opened (environment .clock s').2 doc.id = some doc := by
    rw [undisturbed.effects .clock s' nofun, same, found]
  let update := closing e.status summary.1 results summary.2 now
  obtain ⟨after, asked, set⟩ := keeps.updated doc.id update _ doc found'
  have applied : update.applyTo? doc = some { doc with fields := update.applyFields doc.fields } :=
    if_pos shown.isExpected
  rw [applied] at asked set
  refine ⟨now, after, ?_, formed.clock s', _, set, rfl, shown.close calm ..⟩
  refine (Work.run_next loaded).trans ?_
  rw [show ({ e with id := doc.id } : ActionExecution).status.isTerminal = false from running]
  refine (Work.run_next (Work.run_ofProgram _)).trans ?_
  exact (Work.run_next (Connection.run_answered asked)).trans rfl

/-- An audit log that does not break down at least fails quietly. -/
theorem writeAudit_quiet {runId : String} {entry : AuditEntry} {s : σ}
    (undisturbed : Undisturbed engine environment opened runId)
    (calm : ∀ fields, Document.fieldsOf entry.encode = .ok fields →
      ∀ crash, (environment (.store (.insert .auditLogs fields)) s).1 ≠ .crashed crash) :
    let run := (engine.writeAudit entry).run.run environment s
    (∀ crash, run.1 ≠ .error (.crashed crash)) ∧ opened run.2 runId = opened s runId := by
  obtain ⟨fields, encoded⟩ : ∃ fields, Document.fieldsOf entry.encode = .ok fields := ⟨_, rfl⟩
  have moved := undisturbed.effects (.store (.insert .auditLogs fields)) s (by rintro _ ⟨⟩; exact nofun)
  have calm := calm fields encoded
  intro run
  have written : run = (Work.resume (fun _ => pure ()) ((engine.store id).understood
      (environment (.store (.insert .auditLogs fields)) s).1)).run environment
        (environment (.store (.insert .auditLogs fields)) s).2 := by
    refine (Work.run_next (Work.run_ofExcept encoded)).trans ?_
    rw [Work.run_bind, Program.run_bind, Connection.insert, Connection.run_ask]
    rfl
  rw [written]
  generalize environment (.store (.insert .auditLogs fields)) s = asked at *
  obtain ⟨reply, after⟩ := asked
  rcases reply with (e | answer) | _ | crash
  · exact ⟨nofun, moved⟩
  · exact ⟨nofun, moved⟩
  · exact ⟨nofun, moved⟩
  · exact absurd rfl (calm crash)

/-- A run is closed and truly reported whatever its steps do, be it that they fail, run out of time or
break down: the store serves runs, nobody else writes this one, and the entry on it in the audit log
may fail but not break down. -/
theorem run_closes (engine : Engine) (environment : Program.Environment σ)
    (opened : σ → String → Option Document) (keeps : KeepsRuns environment opened)
    (formed : WellFormed engine environment) (action : Action) (occasion : Occasion) (s : σ)
    (undisturbed : ∀ id, ((engine.start action occasion).run.run environment s).1 = .ok id →
      Undisturbed engine environment opened id)
    (audit : ∀ id status fields,
      Document.fieldsOf (executedEntry action occasion id status).encode = .ok fields →
        ∀ s crash, (environment (.store (.insert .auditLogs fields)) s).1 ≠ .crashed crash) :
    let opening := (engine.start action occasion).run.run environment s
    let closing := (engine.run action occasion).run.run environment s
    ∃ report, closing.1 = .ok report ∧ opening.1 = .ok report.executionId ∧
      report.TrueTo action.steps ((engine.runSequence action.steps
        (firstContext action occasion report.executionId)).run environment opening.2).1 ∧
      ∃ doc e, opened closing.2 report.executionId = some doc ∧
        doc.decodeAs ActionExecution.decode = .ok e ∧ e.Confirms report := by
  intro opening closing
  obtain ⟨id, s₁, started, held⟩ := start_holds engine action occasion keeps s
  have undisturbed := undisturbed id (congrArg Prod.fst started)
  let sequence := engine.runSequence action.steps (firstContext action occasion id)
  have runs : sequence.Meets environment.world .free (fun trace _ => Runs action.steps trace) s₁ :=
    runSequence_runs action.steps _ s₁
  obtain ⟨lossless, same⟩ := runSequence_leaves formed undisturbed action.steps
    (firstContext action occasion id) s₁
  let trace := (sequence.run environment s₁).1
  obtain ⟨now, s₃, finished, range, closed⟩ := finish_holds keeps formed undisturbed (held.of_eq same)
    ⟨nofun, formed.clock s, nofun⟩ rfl rfl trace.results trace.ending.error?
  let summary := summarize trace.results trace.ending.error?
  obtain ⟨quiet, left⟩ := writeAudit_quiet undisturbed fun fields encoded =>
    audit id summary.1 fields encoded s₃
  have ran : closing = (.ok ⟨id, action.id, summary.1, trace.results, summary.2⟩,
      ((engine.writeAudit (executedEntry action occasion id summary.1)).run.run environment s₃).2) := by
    refine (Work.run_next started).trans ?_
    refine (Work.run_next (Work.run_ofProgram _)).trans ?_
    refine (Work.run_next finished).trans ?_
    exact (Work.run_next (Work.run_ignoring quiet)).trans rfl
  obtain ⟨doc, found, rfl, shown⟩ := closed
  rw [ran, show opening = (.ok doc.id, s₁) from started]
  refine ⟨_, rfl, rfl, summarize_trueTo (Program.meets_world.mp runs).1 doc.id action.id, doc, _,
    left.trans found, shown.decode ⟨lossless, formed.clock s, ?_⟩, ?_⟩
  · rintro _ ⟨⟩
    exact range
  · exact ⟨rfl, rfl, terminal_summarize _ _, rfl, rfl, rfl, rfl⟩

/-- All tables but that of the runs are out of reach. -/
private def runsOnly : Surroundings Unit where
  idAt := Surroundings.marks
  clock t := (⟨0, 0⟩, t)
  peer _ _ t := (.unreachable, t)
  fault op t :=
    (if op.table = .actionExecutions then none else some (.failed (.unavailable "down")), t)

/-- An engine whose tool breaks down. -/
private def fragile : Engine where
  config := {}
  judge _ := .refused none
  secrets _ := none
  tools := ⟨[⟨"crash", fun _ _ _ => Work.crash (.saying "boom")⟩]⟩

/-- A condition, and then a loop that calls the tool. -/
private def twoSteps : Action where
  id := "a"
  workspaceId := "w"
  name := "Two steps"
  slug := "two-steps"
  description := none
  trigger := ⟨.manual, none, none, none, none⟩
  conditions := []
  steps :=
    let call : Step := ⟨"call", .callTool, none, .ofPairs [("tool", .string "crash")], [], [], []⟩
    [⟨"check", .condition, none,
      .ofPairs [("conditions", .array []), ("subject", .string "previous")], [], [], []⟩,
    ⟨"each", .loop, none, .ofPairs [("source", .string "array"), ("items", .array [.ofInt 1]),
      ("maxIterations", .ofInt 5)], [], [], [call]⟩]
  isActive := true
  isSystem := false
  createdBy := none

private theorem unreached (op : StoreOp) (s : MemoryStore × Unit)
    (other : op.table ≠ .actionExecutions) :
    runsOnly.environment (.store op) s = (.answered (.error (.unavailable "down")), s) := by
  simp [Surroundings.environment, Surroundings.perform, runsOnly, other, StoreFault.reply]

/-- The run is closed with the result of the first step, although the second one broke down. -/
theorem run_closes_crashed :
    let run := (Engine.run fragile twoSteps ⟨.manual, none, none⟩).run.run runsOnly.environment ({}, ())
    ∃ report doc e, run.1 = .ok report ∧
      report.stepResults.map (fun r => (r.stepId, r.status)) = [("check", .completed)] ∧
      report.error = some "Internal error: boom" ∧
      MemoryStore.opened run.2 report.executionId = some doc ∧
      doc.decodeAs ActionExecution.decode = .ok e ∧ e.Confirms report := by
  intro run
  have serves : KeepsRuns runsOnly.environment MemoryStore.opened :=
    Surroundings.keepsRuns fun op t own => if_pos own
  have epoch : Time.Instant.Representable ⟨0, 0⟩ := ⟨by decide, .inl (by decide)⟩
  have formed : fragile.WellFormed runsOnly.environment :=
    { clock _ := epoch
      replies op s other := by rw [unreached op s other]; trivial
      tools tool known _ _ _ _ _ given := by
        cases List.mem_singleton.mp known
        cases given }
  have undisturbed (id : String) : fragile.Undisturbed runsOnly.environment MemoryStore.opened id :=
    { effects effect s other := by
        cases effect with
        | store op => rw [unreached op s (other op rfl)]
        | exchange request deadline => rfl
        | clock => rfl
      tools tool known _ _ _ := by
        cases List.mem_singleton.mp known
        rfl }
  obtain ⟨report, ran, -, -, doc, e, found, read, confirms⟩ := run_closes fragile
    runsOnly.environment MemoryStore.opened serves formed twoSteps ⟨.manual, none, none⟩ ({}, ())
    (fun id _ => undisturbed id) fun _ _ fields _ s _ => by
      rw [unreached (.insert .auditLogs fields) s nofun]
      exact nofun
  have told : run.1.toOption.map (fun report => (report.stepResults.map fun r => (r.stepId, r.status),
      report.error)) = some ([("check", .completed)], some "Internal error: boom") := by
    decide +kernel
  rw [ran] at told
  injection told with told
  injection told with results error
  exact ⟨report, doc, e, ran, results, error, found, read, confirms⟩

end Engine
end Automation
