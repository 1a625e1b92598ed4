import Automation.Proofs.Engine.AuditTrail

/-!
What becomes of the metadata that a step gives to its entry for the audit log. The run and the step are put
in its place, so that of an addition to a list the log tells neither the list nor the record, only the entry
that was added.
-/
namespace Automation

open Json (Value Members)

/-- The audit log stores what it is handed, whatever becomes of other operations. -/
def Surroundings.Records {τ : Type} (around : Surroundings τ) : Prop :=
  ∀ fields t, (around.fault (.insert .auditLogs fields) t).1 = none

namespace AuditEntry

/-- The members of an entry, with the metadata that it may lack. -/
def members (e : AuditEntry) : List (String × Option Value) :=
  [("workspaceId", some (.string e.workspaceId)), ("entityType", some (.string e.entityType)),
    ("entityId", some (.string e.entityId)), ("action", some (.string e.action)),
    ("changes", some (.array (e.changes.map (·.encode)))), ("actorId", some (.ofText? e.actorId)),
    ("actorType", some (.string e.actorType)), ("metadata", e.metadata)]

theorem member?_encode (e : AuditEntry) (key : String) :
    e.encode.member? key = (e.members.lookup key).join :=
  Members.get?_present key e.members (by simp [members])

end AuditEntry

namespace Document

/-- A document of the audit log tells that a step of a run added an entry to a list. For metadata it has the
run and the step, and nothing else. -/
structure TellsAdded (doc : Document) (run : Context) (stepId : String) (added : Document) : Prop where
  action : doc.get? "action" = some (.string "list_entry_added")
  entity : doc.get? "entityId" = some (.string added.id)
  metadata : doc.get? "metadata" = some (.ofPairs [("executionId", .ofText? run.executionId),
    ("stepId", .string stepId)])

/-- The fields of a document that holds an entry. -/
theorem Tells.get? {doc : Document} {entry : AuditEntry} (h : doc.Tells entry) {key : String}
    (unsplit : Text.splitOnce '.' key = none) (own : idField ≠ key ∧ creationTimeField ≠ key) :
    doc.get? key = (entry.members.lookup key).join := by
  have fields : doc.fields = withoutSystemFields _ := (Except.ok.inj h).symm
  rw [Document.get?, unsplit, fields, get?_withoutSystemFields own]
  exact entry.member?_encode key

theorem Tells.added {doc added : Document} {entry : AuditEntry} {ctx run : Context} {stepId : String}
    (h : doc.Tells (Engine.stamped ctx stepId entry)) (action : entry.action = "list_entry_added")
    (entity : entry.entityId = added.id) (execution : ctx.executionId = run.executionId) :
    doc.TellsAdded run stepId added := by
  refine ⟨?_, ?_, ?_⟩
  · rw [h.get? (by decide +kernel) (by decide), ← action]
    rfl
  · rw [h.get? (by decide +kernel) (by decide), ← entity]
    rfl
  · rw [h.get? (by decide +kernel) (by decide), ← execution]
    rfl

end Document

/-- Effects that do nothing to the audit log but add to it. -/
abbrev Effect.Appending (effect : Effect) : Prop :=
  effect.Silent ∨ ∃ fields, effect = .store (.insert .auditLogs fields)

/-- Of an entry that a list has got between two stores, if any, one of the documents tells. -/
def MemoryStore.AddsTold (run : Context) (stepId : String) (logs : List Document)
    (before after : MemoryStore) : Prop :=
  after.docs .listEntries = before.docs .listEntries ∨
    ∃ added doc, after.docs .listEntries = before.docs .listEntries ++ [added] ∧ doc ∈ logs ∧
      doc.TellsAdded run stepId added

theorem MemoryStore.AddsTold.mono {run : Context} {stepId : String} {logs more : List Document}
    {before after : MemoryStore} (h : AddsTold run stepId logs before after) (longer : logs ⊆ more) :
    AddsTold run stepId more before after := by
  refine h.imp_right ?_
  rintro ⟨added, doc, entered, among, tells⟩
  exact ⟨added, doc, entered, longer among, tells⟩

namespace Engine

open MemoryStore Work

variable {τ : Type} {around : Surroundings τ} {engine : Engine} {ctx run : Context} {stepId : String}
  {s : MemoryStore} {t : τ}

/-- An entry that a step hands to the audit log is stored with other metadata than it had. -/
theorem audit_stores (engine : Engine) (records : around.Records) (ctx : Context) (stepId : String)
    (entry : AuditEntry) (unissued : s.Unissued around.idAt) (t : τ) :
    ∃ doc t', (engine.audit ctx stepId entry).run.run around.environment (s, t) =
        (.ok (), s.next .auditLogs doc, t') ∧ doc.Tells (stamped ctx stepId entry) := by
  obtain ⟨fields, encoded⟩ : ∃ fields, Document.fieldsOf (stamped ctx stepId entry).encode = .ok fields :=
    ⟨_, rfl⟩
  obtain ⟨now, t', asked⟩ := Surroundings.environment_calm (records fields t) s
  rw [perform, insert_eq unissued] at asked
  have written : (engine.writeAudit (stamped ctx stepId entry)).run.run around.environment (s, t) =
      (.ok (), s.next .auditLogs (made around.idAt s now fields), t') := by
    refine (run_next (run_ofExcept encoded)).trans ?_
    exact run_next (Connection.run_answered asked)
  have calm : ∀ crash, ((engine.writeAudit (stamped ctx stepId entry)).run.run around.environment
      (s, t)).1 ≠ .error (.crashed crash) := by
    intro crash stopped
    rw [written] at stopped
    cases stopped
  have told : (Work.ignoring (engine.writeAudit (stamped ctx stepId entry)) : Work StepError Unit).run.run
      around.environment (s, t) = (.ok (), _) := run_ignoring calm
  rw [written] at told
  refine ⟨_, t', told, ?_⟩
  cases encoded
  rw [Document.Tells, made, Document.withoutSystemFields_idem, Document.withoutSystemFields_idem]
  rfl

section Adding

variable (records : around.Records) (unique : ∀ m n, around.idAt m = around.idAt n → m = n)
  (numbered : s.Numbered around.idAt)

include records unique numbered

private theorem enter_told (execution : ctx.executionId = run.executionId) (m : Membership) (data : Members)
    (t : τ) : let ran := (engine.carryOut ctx stepId (.enter ctx m data)).run.run around.environment (s, t)
    AddsTold run stepId (ran.2.1.docs .auditLogs) s ran.2.1 := by
  intro ran
  let fields := newEntry ctx m data
  let entry (id : String) : AuditEntry := { entryAudit ctx id "list_entry_added" with
    metadata := some (.ofPairs [("listId", .string m.listId), ("recordId", .string m.recordId)]) }
  let rest (id : String) : Work StepError Value := do
    engine.audit ctx stepId (entry id)
    return m.output id [("alreadyMember", .bool false)]
  have does : ran = (engine.records.ask (.insert .listEntries fields) >>= rest).run.run
      around.environment (s, t) := rfl
  have w := world_environment around (.store (.insert .listEntries fields)) (s, t)
  cases asked : around.environment (.store (.insert .listEntries fields)) (s, t) with
  | mk reply later =>
  rw [asked] at w
  have answered := Connection.run_asked (c := engine.records) asked
  cases understood : engine.records.understood reply with
  | error stop =>
    have same : later.1 = s := by
      refine eq_of_unanswered w fun id told => ?_
      rw [Connection.understood_eq_ok.mpr told] at understood
      cases understood
    rw [understood] at answered
    rw [does, run_stop answered]
    exact .inl (congrArg (·.docs .listEntries) same)
  | ok id =>
    rw [understood] at answered
    obtain rfl := Connection.understood_eq_ok.mp understood
    obtain ⟨mid, t'⟩ := later
    have unissued : mid.Unissued around.idAt := (numbered.of_world unique w).unissued
    obtain ⟨rfl, now, rfl⟩ := insert_performed numbered.unissued w
    obtain ⟨doc, t'', told, tells⟩ := audit_stores engine records ctx stepId (entry (around.idAt s.issued))
      unissued t'
    rw [does, run_next answered, run_next told]
    refine .inr ⟨made around.idAt s now fields, doc, ?_, ?_, tells.added rfl rfl execution⟩
    · change ((s.next .listEntries _).next .auditLogs doc).docs .listEntries = _
      rw [docs_next, if_neg nofun, docs_next, if_pos rfl]
    · exact mem_next.mpr (.inr ⟨rfl, rfl⟩)

/-- Of the record that a step adds to a list the log tells, or it is not added. -/
private theorem addToList_told {listId : String} {recordId : Option String} {data : Option Members}
    (execution : ctx.executionId = run.executionId) :
    let ran := (engine.runPrimitive ctx stepId (.list .add listId recordId data)).run.run
      around.environment (s, t)
    AddsTold run stepId (ran.2.1.docs .auditLogs) s ran.2.1 := by
  intro ran
  have looks : Looks (MemoryStore.world around.idAt) .free (fun _ => True)
      (Intended ctx s (.list .add listId recordId data))
      (engine.plan ctx (.list .add listId recordId data)) s := plan_intends reading_world rfl
  have looked := looks.run (s := (s, t)) Prod.fst (world_environment around)
  have does : ran = (engine.plan ctx (.list .add listId recordId data) >>=
      engine.carryOut ctx stepId).run.run around.environment (s, t) := by
    rw [← runPrimitive_eq engine ctx stepId rfl]
  generalize planned : (engine.plan ctx (.list .add listId recordId data)).run.run around.environment (s, t) =
    found at looked
  obtain ⟨result, mid, t'⟩ := found
  cases result with
  | error stop =>
    obtain ⟨same, -⟩ := looked
    rw [does, run_stop planned]
    exact .inl (congrArg (·.docs .listEntries) same)
  | ok intent =>
    obtain ⟨same, intended⟩ := looked
    obtain rfl : mid = s := same
    rw [does, run_next planned]
    cases intended with
    | stay => exact .inl rfl
    | enter => exact enter_told records unique numbered execution _ _ t'

/-- The same of a whole step. -/
private theorem runStep_told {step : Step} (adds : step.type = .addToList)
    (execution : ctx.executionId = run.executionId) :
    let after := ((engine.runStep step ctx).run around.environment (s, t)).2.1
    AddsTold run step.id (after.docs .auditLogs) s after := by
  cases parsed : Command.parse step.type step.id (Template.resolve ctx step.config) with
  | error e =>
    obtain ⟨id, type, name, config, thenSteps, elseSteps, steps⟩ := step
    unfold runStep
    rw [parsed]
    exact .inl rfl
  | ok command =>
    have suits := adds ▸ Command.suits_of_parse parsed
    cases command with
    | condition => cases suits
    | loop => cases suits
    | primitive p =>
      have type : p.type = .addToList := (Command.type_of_parse parsed).trans adds
      rw [runStep_primitive parsed, run_primitiveOutcome]
      cases p with
      | list command listId recordId data =>
        cases command with
        | add => exact addToList_told records unique numbered execution
        | remove => cases type
        | update => cases type
      | field command => cases command <;> cases type
      | _ => cases type

end Adding

section Growth

variable {a b c : MemoryStore × τ} {attempts more : List (Attempt (MemoryStore × τ))}

private theorem looking_appending : Looking Effect.Appending where
  clock := .inl nofun
  exchange _ _ := .inl nofun
  get _ _ _ := .inl nofun
  query _ _ _ := .inl nofun

private theorem runStep_appending {step : Step} (tools : engine.ToolsAsk Effect.Silent)
    (notCondition : step.type ≠ .condition) (notLoop : step.type ≠ .loop) :
    (engine.runStep step ctx).Asks Effect.Appending fun _ => True := by
  have tools : engine.ToolsAsk Effect.Appending := fun tool arguments caller =>
    (tools tool arguments caller).mono (fun _ silent => .inl silent) fun _ post => post
  refine runStep_asks notCondition notLoop fun p parsed => ?_
  cases mutates : p.type.mutates with
  | true =>
    refine looking_appending.mutating mutates (fun op may => ?_) (fun _ => .inl nofun) fun fields => ?_
    · cases may <;> exact .inl nofun
    · exact .inr ⟨fields, rfl⟩
  | false => exact looking_appending.idle mutates (fun _ => .inl nofun) tools

/-- The audit log has got longer, and tells of what the attempts have added to lists. -/
private structure Registered (engine : Engine) (around : Surroundings τ) (run : Context)
    (a : MemoryStore × τ) (attempts : List (Attempt (MemoryStore × τ))) (b : MemoryStore × τ) : Prop where
  numbered : b.1.Numbered around.idAt
  longer : a.1.docs .auditLogs <+: b.1.docs .auditLogs
  told : ∀ visit ∈ attempts, visit.step.type = .addToList → AddsTold run visit.step.id
    (b.1.docs .auditLogs) visit.state.1 (visit.ran engine around.environment).2.1

private theorem Registered.append (h : Registered engine around run a attempts b)
    (h' : Registered engine around run b more c) : Registered engine around run a (attempts ++ more) c where
  numbered := h'.numbered
  longer := h.longer.trans h'.longer
  told visit known adds := by
    rcases List.mem_append.mp known with first | second
    · exact (h.told visit first adds).mono h'.longer.subset
    · exact h'.told visit second adds

private theorem appending_of_run (effect : Effect) (on : Effect.On (· = .actionExecutions) effect) :
    effect.Appending := .inl (on.not_writes_other nofun)

variable (unique : ∀ m n, around.idAt m = around.idAt n → m = n)

include unique

/-- Who only adds to the audit log leaves it longer. -/
private theorem registered_of_asks {α : Type} {program : Program α} {given : α → Prop}
    (asks : program.Asks Effect.Appending given) (numbered : a.1.Numbered around.idAt)
    (told : let b := (program.run around.environment a).2
      ∀ visit ∈ attempts, visit.step.type = .addToList → AddsTold run visit.step.id
        (b.1.docs .auditLogs) visit.state.1 (visit.ran engine around.environment).2.1) :
    Registered engine around run a attempts (program.run around.environment a).2 := by
  have longer : program.Meets (MemoryStore.world around.idAt) .free (fun value after => given value ∧
      after.Numbered around.idAt ∧ a.1.docs .auditLogs <+: after.docs .auditLogs) a.1 := by
    refine asks.meets (fun _ _ _ _ => trivial) (fun _ _ _ _ _ => nofun) ?_ ⟨numbered, List.prefix_rfl⟩
    rintro effect s reply after appending ⟨numbered, longer⟩ w
    refine ⟨numbered.of_world unique w, longer.trans ?_⟩
    rcases appending with silent | ⟨fields, rfl⟩
    · rw [docs_of_unwritten w silent]
    · obtain ⟨rfl, -⟩ | ⟨now, -, rfl⟩ := w
      · exact List.prefix_rfl
      · rw [perform, insert_eq numbered.unissued]
        exact (docs_next _).symm ▸ List.prefix_append _ _
  obtain ⟨-, numbered, longer⟩ := longer.run Prod.fst (world_environment around)
  exact ⟨numbered, longer, told⟩

private theorem recounts_registered (records : around.Records) (tools : engine.ToolsAsk Effect.Silent) :
    engine.Recounts around.environment (OfRun run) fun a attempts b =>
      a.1.Numbered around.idAt → Registered engine around run a attempts b := by
  refine looking_appending.recounts ?_ ?_ ?_ ?_ ?_
  · intro a numbered
    exact ⟨numbered, List.prefix_rfl, nofun⟩
  · intro a b c attempts more first second numbered
    have h := first numbered
    exact h.append (second h.numbered)
  · intro α program given a asks numbered
    exact registered_of_asks unique asks numbered nofun
  · intro step ctx a ofRun notCondition notLoop numbered
    refine registered_of_asks unique (runStep_appending tools notCondition notLoop) numbered ?_
    intro b visit known adds
    obtain rfl := List.mem_singleton.mp known
    exact runStep_told records unique numbered adds ofRun.execution
  · intro step ctx a nests numbered
    refine ⟨numbered, List.prefix_rfl, fun visit known adds => ?_⟩
    obtain rfl := List.mem_singleton.mp known
    rcases nests with condition | loop
    · cases condition.symm.trans adds
    · cases loop.symm.trans adds

/-- What the steps of a run have added to lists the audit log tells of when the run is over. -/
private theorem run_registers {action : Action} {occasion : Occasion} {executionId : String}
    (records : around.Records) (tools : engine.ToolsAsk Effect.Silent) (numbered : a.1.Numbered around.idAt)
    (starts : (engine.start action occasion).run.run around.environment a = (.ok executionId, b)) :
    let run := firstContext action occasion executionId
    Registered engine around run b (engine.attemptsAll around.environment action.steps run b)
      ((engine.run action occasion).run.run around.environment a).2 := by
  intro run
  have opens : Registered engine around run a [] ((engine.start action occasion).run.run around.environment a).2 :=
    registered_of_asks unique
      (Work.asks_iff.mp ((start_asks action occasion).mono appending_of_run fun _ post => post)) numbered nofun
  rw [starts] at opens
  let ended := (engine.runSequence action.steps run).run around.environment b
  have goes : Registered engine around run b (engine.attemptsAll around.environment action.steps run b) ended.2 :=
    (runSequence_recounts (recounts_registered unique records tools) action.steps run b ⟨rfl, rfl, rfl⟩).1
      opens.numbered
  have concludes : (engine.conclude action occasion executionId ended.1).Asks Effect.Appending
      fun _ => True := conclude_asks appending_of_run fun fields => .inr ⟨fields, rfl⟩
  have closes : Registered engine around run ended.2 []
      ((engine.conclude action occasion executionId ended.1).run.run around.environment ended.2).2 :=
    registered_of_asks unique (asks_iff.mp concludes) goes.numbered nofun
  have whole := goes.append closes
  rw [List.append_nil] at whole
  rw [run_eq, run_next starts, run_next (run_ofProgram _)]
  exact whole

end Growth

/-- Whatever metadata a step gives to an entry that it hands to the audit log, the entry is stored with the
run and the step for metadata, and nothing else; all the rest of it is kept. So when a step of a run adds an
entry to a list, at the end of the run the log tells of that entry, and neither of the list nor of the record.
No more is asked of the surroundings than that the audit log stores what it is handed. -/
theorem metadata_replaced {τ : Type} (engine : Engine) (around : Surroundings τ) (action : Action)
    (occasion : Occasion) {store : MemoryStore} (t : τ) (records : around.Records)
    (unique : ∀ m n, around.idAt m = around.idAt n → m = n) (keyed : store.Keyed)
    (unissued : store.Unissued around.idAt) (tools : engine.ToolsAsk Effect.Silent) :
    (∀ (ctx : Context) (stepId : String) (entry : AuditEntry) (s : MemoryStore) (t : τ),
      s.Unissued around.idAt → ∃ doc,
        ((engine.audit ctx stepId entry).run.run around.environment (s, t)).2.1.docs .auditLogs =
          s.docs .auditLogs ++ [doc] ∧ doc.Tells (stamped ctx stepId entry)) ∧
    let ran := (engine.run action occasion).run.run around.environment (store, t)
    ∀ a ∈ engine.runAttempts around.environment action occasion (store, t), a.step.type = .addToList →
      ∃ executionId, ((engine.start action occasion).run.run around.environment (store, t)).1 =
          .ok executionId ∧
        AddsTold (firstContext action occasion executionId) a.step.id (ran.2.1.docs .auditLogs)
          a.state.1 (a.ran engine around.environment).2.1 := by
  refine ⟨fun ctx stepId entry s t unissued => ?_, ?_⟩
  · obtain ⟨doc, t', told, tells⟩ := audit_stores engine records ctx stepId entry unissued t
    refine ⟨doc, ?_, tells⟩
    rw [told]
    exact docs_next _
  · intro ran a attempted adds
    unfold runAttempts at attempted
    cases starts : (engine.start action occasion).run.run around.environment (store, t) with
    | mk result started =>
    rw [starts] at attempted
    cases result with
    | error stop => cases attempted
    | ok executionId =>
      have registered := run_registers unique records tools (a := (store, t)) ⟨keyed, unissued⟩ starts
      exact ⟨executionId, rfl, registered.told a attempted adds⟩

section

/-- A record and a list that it is not on. -/
private def unlisted : MemoryStore where
  records := [⟨"r", 5, [("workspaceId", .string "w")]⟩]
  lists := [⟨"l", 5, [("workspaceId", .string "w")]⟩]

private def entering : Action where
  __ := noSteps
  steps := [⟨"in", .addToList, none, .object [("listId", .string "l")], [], [], []⟩]

private def forRecord : Occasion := ⟨.manual, some ⟨"r", 0, none, []⟩, none⟩

private def entered : Except (Stop LifecycleError) ExecutionReport × MemoryStore × Unit :=
  (bareEngine.run entering forRecord).run.run Surroundings.still.environment (unlisted, ())

private def attemptsToEnter : List (Attempt (MemoryStore × Unit)) :=
  bareEngine.runAttempts Surroundings.still.environment entering forRecord (unlisted, ())

/-- The list gets an entry for the record, and the log tells of the entry. -/
theorem metadata_replaced_entering : ∃ a ∈ attemptsToEnter, ∃ executionId added doc,
    (a.ran bareEngine Surroundings.still.environment).2.1.docs .listEntries = [added] ∧
      doc ∈ entered.2.1.docs .auditLogs ∧
      doc.TellsAdded (firstContext entering forRecord executionId) a.step.id added := by
  have keyed : unlisted.Keyed := by
    intro table
    cases table <;> decide +kernel
  have unissued : unlisted.Unissued Surroundings.marks := by
    intro n _ table doc known
    have plain : ∀ doc ∈ unlisted.docs table, doc.id.toList.head? ≠ some '#' := by
      cases table <;> decide +kernel
    exact Surroundings.marks_new n (plain doc known)
  have enters : attemptsToEnter.any (fun a => a.step.type = .addToList && a.state.1.docs .listEntries = [] &&
      (a.ran bareEngine Surroundings.still.environment).2.1.docs .listEntries ≠ []) = true := by
    decide +kernel
  obtain ⟨a, attempted, is⟩ := List.any_eq_true.mp enters
  simp only [Bool.and_eq_true, decide_eq_true_eq] at is
  obtain ⟨⟨adds, none⟩, some⟩ := is
  obtain ⟨executionId, -, told⟩ := (metadata_replaced bareEngine .still entering forRecord () (fun _ _ => rfl)
    Surroundings.marks_unique keyed unissued fun _ _ _ => Work.asks_fail _).2 a attempted adds
  rcases told with same | ⟨added, doc, listed, among, tells⟩
  · exact absurd (same.trans none) some
  · rw [none] at listed
    exact ⟨a, attempted, executionId, added, doc, listed, among, tells⟩

/-- The step has given the list and the record to the entry, and the log has neither. -/
theorem addedMetadata_lost :
    (entered.2.1.docs .listEntries).map (fun entry => (entry.getText? "listId", entry.getText? "recordId")) =
      [(some "l", some "r")] ∧
    ∃ doc ∈ entered.2.1.docs .auditLogs, doc.getText? "action" = some "list_entry_added" ∧
      doc.get? "metadata.listId" = none ∧ doc.get? "metadata.recordId" = none := by
  have told : (entered.2.1.docs .auditLogs).any (fun doc => doc.getText? "action" = some "list_entry_added" &&
      doc.get? "metadata.listId" = none && doc.get? "metadata.recordId" = none) = true := by
    decide +kernel
  obtain ⟨doc, among, is⟩ := List.any_eq_true.mp told
  simp only [Bool.and_eq_true, decide_eq_true_eq, and_assoc] at is
  exact ⟨by decide +kernel, doc, among, is⟩

end

end Engine
end Automation
