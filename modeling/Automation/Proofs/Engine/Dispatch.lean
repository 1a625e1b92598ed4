import Automation.Engine.Dispatch
import Automation.Proofs.Engine.OwnRuns

/-!
What an event sets off: each action that it fires runs exactly once, no other action runs, and every run
is reported. It does not matter what else is stored as an action.
-/
namespace Automation

open Json (Value Members)
open MemoryStore (served)
open Program (Interleaved)

/-- An event sets off the action, if the data of its record is this. -/
structure Action.SetOffBy (a : Action) (event : TriggerEvent) (data : Value) : Prop where
  active : a.isActive = true
  workspace : a.workspaceId = event.workspaceId
  type : a.trigger.type = event.eventType
  objectType : ∀ id ∈ a.trigger.objectTypeId, event.objectTypeId = some id
  list : ∀ id ∈ a.trigger.listId, event.listId = some id
  watched : a.trigger.type = .onFieldChange →
    ∃ fields ∈ a.trigger.watchedFields, ∃ field ∈ fields, field ∈ event.changedFields
  conditions : Condition.allHold a.conditions data = true

private theorem inScope_iff {scope value : Option String} :
    Action.inScope scope value = true ↔ ∀ id ∈ scope, value = some id := by
  cases scope <;> simp [Action.inScope]

theorem Action.setOffBy_iff {a : Action} {event : TriggerEvent} {data : Value} :
    a.SetOffBy event data ↔
      a.isTriggeredBy event = true ∧ Condition.allHold a.conditions data = true := by
  have watched : (a.trigger.type != .onFieldChange ||
      (a.trigger.watchedFields.getD []).any event.changedFields.contains) = true ↔
        (a.trigger.type = .onFieldChange →
          ∃ fields ∈ a.trigger.watchedFields, ∃ field ∈ fields, field ∈ event.changedFields) := by
    cases a.trigger.watchedFields <;> by_cases same : a.trigger.type = .onFieldChange <;> simp [same]
  simp only [isTriggeredBy, Bool.and_eq_true, inScope_iff, watched, beq_iff_eq]
  constructor
  · rintro ⟨active, workspace, type, objectType, list, watched, conditions⟩
    exact ⟨⟨⟨⟨⟨⟨active, workspace⟩, type⟩, objectType⟩, list⟩, watched⟩, conditions⟩
  · rintro ⟨⟨⟨⟨⟨⟨active, workspace⟩, type⟩, objectType⟩, list⟩, watched⟩, conditions⟩
    exact ⟨active, workspace, type, objectType, list, watched, conditions⟩

instance (a : Action) (event : TriggerEvent) (data : Value) : Decidable (a.SetOffBy event data) :=
  decidable_of_iff _ Action.setOffBy_iff.symm

namespace TriggerEvent

/-- The record of the event as the store has it in the workspace, or else as the event carries it. -/
def recordIn (event : TriggerEvent) (store : MemoryStore) : Option RecordSnapshot :=
  match event.recordId.bind (store.get? .records) with
  | some doc =>
    if doc.inWorkspace event.workspaceId then some (.ofDocument doc) else event.record
  | none => event.record

/-- What conditions are about, null if there is no record. -/
def dataIn (event : TriggerEvent) (store : MemoryStore) : Value :=
  ((event.recordIn store).map (·.toValue)).getD .null

/-- The document is that of an action that the event sets off. -/
def Fires (event : TriggerEvent) (store : MemoryStore) (doc : Document) : Prop :=
  ∃ a, doc.decodeAs Action.decode = .ok a ∧ a.SetOffBy event (event.dataIn store)

instance (event : TriggerEvent) (store : MemoryStore) (doc : Document) :
    Decidable (event.Fires store doc) :=
  match read : doc.decodeAs Action.decode with
  | .ok a => decidable_of_iff (a.SetOffBy event (event.dataIn store))
      ⟨fun sets => ⟨a, read, sets⟩, fun ⟨_, same, sets⟩ => Except.ok.inj (read.symm.trans same) ▸ sets⟩
  | .error _ => isFalse fun ⟨_, same, _⟩ => nomatch read.symm.trans same

/-- The stored actions that the event sets off. -/
def fired (event : TriggerEvent) (store : MemoryStore) : List Document :=
  (store.docs .actions).filter fun doc => event.Fires store doc

/-- The same, read as actions. -/
def runnable (event : TriggerEvent) (store : MemoryStore) : List Action :=
  (event.fired store).filterMap fun doc => (doc.decodeAs Action.decode).toOption

/-- What the runs are told of the event. -/
def occasion (event : TriggerEvent) (store : MemoryStore) : Occasion :=
  ⟨.automatic, event.recordIn store, event.actorId⟩

end TriggerEvent

section

open Decode

private theorem gives_names (find : String → Option Tree) : Action.record.Gives find fun a =>
    (Record.withDefault "_id" "" text).ofMapping find = .ok a.id ∧
      (Record.required "workspaceId" text).ofMapping find = .ok a.workspaceId := by
  have id : (Record.withDefault "_id" "" text).Gives find fun id =>
      (Record.withDefault "_id" "" text).ofMapping find = .ok id := fun _ ok => ok
  have workspace : (Record.required "workspaceId" text).Gives find fun id =>
      (Record.required "workspaceId" text).ofMapping find = .ok id := fun _ ok => ok
  have any {α : Type} (record : Record α) : record.Gives find fun _ => True := record.gives_true
  refine Record.gives_seq (Record.gives_seq (Record.gives_seq (Record.gives_seq (Record.gives_seq
    (Record.gives_seq (Record.gives_seq (Record.gives_seq (Record.gives_seq (Record.gives_seq
      (Record.gives_map id ?_) workspace) (any _)) (any _)) (any _)) (any _)) (any _)) (any _))
        (any _)) (any _)) (any _)
  intro _ id _ workspace _ _ _ _ _ _ _ _ _ _ _ _ _ _ _ _ _ _
  exact ⟨id, workspace⟩

private theorem text_ofValue {v : Value} {s : String} (ok : text (.ofValue v) = .ok s) :
    v = .string s := by
  cases v with
  | string other => cases ok; rfl
  | null | bool | number | array | object => exact absurd ok nofun

/-- An action has the id of its document, and is in the workspace that this says. -/
theorem Document.names_of_decodeAs {doc : Document} {a : Action}
    (ok : doc.decodeAs Action.decode = .ok a) :
    a.id = doc.id ∧ doc.fields.get? "workspaceId" = some (.string a.workspaceId) := by
  have plain : ∀ field ∈ Action.record.fields, field.aliases = [] := by
    intro field known
    have bare : Action.record.fields.map (·.aliases) = List.replicate 11 [] := rfl
    exact List.eq_of_mem_replicate (bare ▸ List.mem_map_of_mem known)
  obtain ⟨find, same, ok⟩ := Record.ofMapping_of_decode plain (except_mapError_ok.mp ok)
  obtain ⟨id, workspace⟩ := gives_names find a ok
  have named : find "_id" = some (.text doc.id) := by
    have found := same ⟨"_id", [], Record.checking text⟩ (.head _)
    rwa [Members.get?_insert_of_ne _ _ (by decide), show "_id" = idField from rfl,
      Members.get?_insert_self] at found
  have placed : find "workspaceId" = (doc.fields.get? "workspaceId").map .ofValue := by
    have found := same ⟨"workspaceId", [], Record.checking text⟩ (.tail _ (.head _))
    rwa [Members.get?_insert_of_ne _ _ (by decide), Members.get?_insert_of_ne _ _ (by decide)] at found
  constructor
  · simp only [Record.withDefault, named] at id
    exact (Except.ok.inj id).symm
  · simp only [Record.required, Record.requiredAs, placed] at workspace
    cases there : doc.fields.get? "workspaceId" with
    | none =>
      rw [there] at workspace
      cases workspace
    | some v =>
      rw [there] at workspace
      rw [text_ofValue workspace]

end

namespace TriggerEvent

variable {event : TriggerEvent} {store : MemoryStore}

private theorem accepts_iff {W : String} {doc : Document} :
    (Query.byText [("workspaceId", W)]).accepts doc = true ↔
      doc.fields.get? "workspaceId" = some (.string W) := by
  have plain : Text.splitOnce '.' "workspaceId" = none := by decide +kernel
  rw [Query.accepts_byText]
  simp [Document.get?, plain]

/-- What is selected among the actions of the workspace and passes the conditions. -/
private theorem select_eq (event : TriggerEvent) (store : MemoryStore) :
    (event.select ((store.query .actions (.byText [("workspaceId", event.workspaceId)])).filterMap
      fun doc => (doc.decodeAs Action.decode).toOption)).filter
        (fun a => Condition.allHold a.conditions (event.dataIn store)) = event.runnable store := by
  unfold runnable fired MemoryStore.query Query.select TriggerEvent.select
  dsimp only [Query.byText]
  rw [List.filter_filter, List.filter_filterMap, List.filterMap_filter, List.filterMap_filter]
  refine List.filterMap_congr fun doc _ => ?_
  cases read : doc.decodeAs Action.decode with
  | error e => simp [Except.toOption]
  | ok a =>
    obtain ⟨-, workspace⟩ := Document.names_of_decodeAs read
    have fires : event.Fires store doc ↔ a.SetOffBy event (event.dataIn store) :=
      ⟨fun ⟨_, same, sets⟩ => Except.ok.inj (read.symm.trans same) ▸ sets, fun sets => ⟨a, read, sets⟩⟩
    have accepts : (Query.byText [("workspaceId", event.workspaceId)]).accepts doc = true ↔
        a.workspaceId = event.workspaceId := by
      rw [accepts_iff, workspace]
      simp
    change (if (Query.byText _).accepts doc = true then _ else _) = _
    by_cases sets : a.SetOffBy event (event.dataIn store)
    · have triggered := Action.setOffBy_iff.mp sets
      simp [accepts.mpr sets.workspace, fires.mpr sets, triggered, Except.toOption]
    · have idle : (Condition.allHold a.conditions (event.dataIn store) && a.isTriggeredBy event) = false := by
        by_contra both
        rw [Bool.not_eq_false, Bool.and_eq_true] at both
        exact sets (Action.setOffBy_iff.mpr both.symm)
      simp [mt fires.mp sets, Except.toOption, Option.filter, idle]

end TriggerEvent

namespace Engine

variable {τ : Type} {around : Surroundings τ} {event : TriggerEvent}

theorem loadActions_run (engine : Engine) (reliable : around.Reliable) (q : Query) (t : τ) :
    ∃ t', ∀ store, (engine.loadActions q).run.run around.environment (store, t) =
      (.ok ((store.query .actions q).filterMap fun doc => (doc.decodeAs Action.decode).toOption),
        store, t') :=
  ⟨_, fun store => (Work.run_next (Connection.run_answered
    (reliable.perform (.query .actions q) store t))).trans rfl⟩

private theorem eventRecord_run (engine : Engine) (reliable : around.Reliable) (event : TriggerEvent)
    (t : τ) : ∃ t', ∀ store, (engine.eventRecord event).run.run around.environment (store, t) =
      (.ok (event.recordIn store), store, t') := by
  unfold eventRecord TriggerEvent.recordIn
  cases event.recordId with
  | none => exact ⟨t, fun store => rfl⟩
  | some id =>
    refine ⟨(around.clock (around.fault (.get .records id) t).2).2, fun store =>
      (Work.run_next (Connection.run_answered (reliable.perform (.get .records id) store t))).trans ?_⟩
    rw [Option.bind_some]
    cases store.get? .records id with
    | none => rfl
    | some doc =>
      dsimp only
      split <;> rfl

/-- The actions that the event sets off are run, and nothing is done to the store before. -/
private theorem handleEvent_run (engine : Engine) (reliable : around.Reliable) (event : TriggerEvent)
    (t : τ) : ∃ t', ∀ store,
      let handled := (engine.handleEvent event).run.run around.environment (store, t)
      let ran := (engine.runAll (event.occasion store) (event.runnable store)).run.run
        around.environment (store, t')
      handled.1 = ran.1 ∧ handled.2.1 = ran.2.1 := by
  obtain ⟨t₁, loaded⟩ := loadActions_run engine reliable (.byText [("workspaceId", event.workspaceId)]) t
  obtain ⟨t₂, found⟩ := eventRecord_run engine reliable event t₁
  refine ⟨t₂, fun store => ?_⟩
  dsimp only
  have selects := event.select_eq store
  unfold handleEvent
  rw [Work.run_next (loaded store)]
  dsimp only
  split
  · next idle =>
    rw [List.isEmpty_iff.mp idle] at selects
    rw [← selects]
    exact ⟨rfl, rfl⟩
  · rw [Work.run_next (found store), ← selects]
    exact ⟨rfl, rfl⟩

section

variable {ι : Type} [DecidableEq ι] {idAt : Nat → String} {ids : List String} {i : ι} {engine : Engine}
  {past : Past ι MemoryStore} {runs : List (String × ActionExecution)}

/-- The runs are those that are reported. -/
private structure Reported (runs : List (String × ActionExecution)) (reports : List ExecutionReport) :
    Prop where
  ids : runs.map (·.1) = reports.map (·.executionId)
  confirmed : ∀ report ∈ reports, ∃ e : ActionExecution,
    (report.executionId, e) ∈ runs ∧ e.Confirms report

/-- Actions that are run one after another are each run to the end and reported. -/
private theorem runAll_served (aside : engine.ToolsAside) (occasion : Occasion) (actions : List Action)
    (h : HasOpened idAt ids i runs past) :
    (engine.runAll occasion actions).Meets ((ownRuns ι idAt ids).world (served idAt) i) (ownRunsPolicy i)
      (fun reports later => reports.map (·.actionId) = actions.map (·.id) ∧
        ∃ more, Reported more reports ∧ HasOpened idAt ids i (runs ++ more) later)
      (fun _ _ => False) past := by
  induction actions generalizing runs past with
  | nil => exact Work.meets_pure.mpr ⟨rfl, [], ⟨rfl, nofun⟩, by rwa [List.append_nil]⟩
  | cons action rest ih =>
    have steps := runSequence_asks aside action.steps
    refine (Work.meets_ofProgram (run_served steps h)).bind fun result later post => ?_
    cases result with
    | error stop => exact post.elim
    | ok report =>
      obtain ⟨ofAction, e, confirms, h⟩ := post
      refine (ih h).bind fun others last ⟨ofRest, more, reported, h⟩ => ?_
      refine Work.meets_pure.mpr ⟨?_, (report.executionId, e) :: more, ⟨?_, ?_⟩, ?_⟩
      · rw [List.map_cons, List.map_cons, ofAction, ofRest]
      · rw [List.map_cons, List.map_cons, reported.ids]
      · rw [List.forall_mem_cons]
        refine ⟨⟨e, List.mem_cons_self, confirms⟩, fun other known => ?_⟩
        obtain ⟨e, listed, confirms⟩ := reported.confirmed other known
        exact ⟨e, List.mem_cons_of_mem _ listed, confirms⟩
      · rwa [List.append_assoc] at h

end

/-- What the event has set off. -/
structure Dispatched (event : TriggerEvent) (store : MemoryStore) (reports : List ExecutionReport)
    (after : MemoryStore) : Prop where
  /-- Each action that the event fires is reported once, in the order of the store, and no other one. -/
  selected : reports.map (·.actionId) = (event.fired store).map (·.id)
  /-- The stored runs are those of before and one for each report. -/
  opened : ((after.docs .actionExecutions).map (·.id)).Perm
    ((store.docs .actionExecutions).map (·.id) ++ reports.map (·.executionId))
  distinct : ((store.docs .actionExecutions).map (·.id) ++ reports.map (·.executionId)).Nodup
  stored : ∀ report ∈ reports, ∃ e : ActionExecution, e.Confirms report ∧
    Holds MemoryStore.run? report.executionId e after

private theorem runnable_ids (event : TriggerEvent) (store : MemoryStore) :
    (event.runnable store).map (·.id) = (event.fired store).map (·.id) := by
  unfold TriggerEvent.runnable TriggerEvent.fired
  rw [List.map_filterMap, ← List.filterMap_eq_map]
  refine List.filterMap_congr fun doc fires => ?_
  obtain ⟨a, read, -⟩ := of_decide_eq_true (List.mem_filter.mp fires).2
  rw [read]
  exact congrArg some (Document.names_of_decodeAs read).1

private theorem dispatched_of_lists {ι : Type} {idAt : Nat → String} {event : TriggerEvent}
    {store : MemoryStore} {past : Past ι MemoryStore} {reports : List ExecutionReport}
    (lists : past.Lists idAt ((store.docs .actionExecutions).map (·.id)))
    (opened : (past.turns.filterMap Turn.opened?).Perm (reports.map (·.executionId)))
    (selected : reports.map (·.actionId) = (event.runnable store).map (·.id))
    (stored : ∀ report ∈ reports, ∃ e : ActionExecution, e.Confirms report ∧
      Holds MemoryStore.run? report.executionId e past.state) :
    Dispatched event store reports past.state where
  selected := selected.trans (runnable_ids event store)
  opened := lists.all ▸ opened.append_left _
  distinct := (opened.append_left _).nodup_iff.mp (lists.all ▸ lists.keyed)
  stored := stored

/-- The actions that an event sets off, run one after another. -/
private theorem runAll_dispatches {idAt : Nat → String} (unique : ∀ m n, idAt m = idAt n → m = n)
    {engine : Engine} (aside : engine.ToolsAside) (event : TriggerEvent) {store : MemoryStore}
    (lists : Past.Lists (ι := Unit) idAt ((store.docs .actionExecutions).map (·.id)) ⟨[], store⟩) :
    (engine.runAll (event.occasion store) (event.runnable store)).Meets (served idAt) .free
      (fun reports after => Dispatched event store reports after) (fun _ _ => False) store := by
  have begun : HasOpened idAt _ () [] ⟨[], store⟩ := HasOpened.nothing lists rfl
  have alone := Program.Sharing.meets_alone (ownRuns_holds unique) lists
    (runAll_served aside (event.occasion store) (event.runnable store) begun)
  refine Program.Meets.mono alone fun result after ⟨turns, post⟩ => ?_
  cases result with
  | error stop => exact post
  | ok reports =>
    obtain ⟨selected, runs, reported, h⟩ := post
    have own : turns.filterMap Turn.opened? = runs.map (·.1) := by
      have all : turns.filter (·.who = ()) = turns := List.filter_eq_self.mpr fun _ _ => rfl
      rw [← all]
      exact h.own
    refine dispatched_of_lists h.lists ?_ selected ?_
    · exact .of_eq (own.trans reported.ids)
    · intro report known
      obtain ⟨e, listed, confirms⟩ := reported.confirmed report known
      exact ⟨e, confirms, h.stored _ listed⟩

/-- The runs that an event sets off. -/
def firedRuns (engine : Engine) (event : TriggerEvent) (store : MemoryStore)
    (k : Fin (event.runnable store).length) :
    Program (Except (Stop LifecycleError) ExecutionReport) :=
  (engine.run ((event.runnable store).get k) (event.occasion store)).run

/-- The actions that an event sets off, run at the same time. -/
private theorem firedRuns_dispatch {idAt : Nat → String} (unique : ∀ m n, idAt m = idAt n → m = n)
    {engine : Engine} (aside : engine.ToolsAside) (event : TriggerEvent) {store after : MemoryStore}
    (lists : Past.Lists (ι := Fin (event.runnable store).length) idAt
      ((store.docs .actionExecutions).map (·.id)) ⟨[], store⟩)
    {turns : List (Turn (Fin (event.runnable store).length))}
    {rest : Fin (event.runnable store).length → Program (Except (Stop LifecycleError) ExecutionReport)}
    (ran : Interleaved (served idAt) (fun _ _ => False) (engine.firedRuns event store) store turns rest
      after) (done : ∀ k, ∃ result, rest k = .done result) :
    ∃ reports : List ExecutionReport, (List.ofFn rest) = reports.map (fun report => .done (.ok report)) ∧
      Dispatched event store reports after := by
  let ids := (store.docs .actionExecutions).map (·.id)
  let promised (k : Fin (event.runnable store).length) := Work.Promise
    (fun (report : ExecutionReport) later => report.actionId = ((event.runnable store).get k).id ∧
      ∃ e : ActionExecution, e.Confirms report ∧
        HasOpened idAt ids k ([] ++ [(report.executionId, e)]) later)
    fun (_ : Stop LifecycleError) _ => False
  have begun : (ownRuns _ idAt ids).Pending (served idAt) ownRunsPolicy promised
      (engine.firedRuns event store) ⟨[], store⟩ :=
    ⟨lists, fun k later elsewhere => run_served (fun ctx => runSequence_asks aside _ ctx)
      (HasOpened.nothing elsewhere.kept elsewhere.own)⟩
  obtain ⟨pending, -⟩ := ran.pending (ownRuns_holds unique) begun
  have reported (k : Fin (event.runnable store).length) : ∃ report : ExecutionReport,
      rest k = .done (.ok report) ∧ promised k (.ok report) ⟨turns, after⟩ := by
    obtain ⟨result, ended⟩ := done k
    have kept := pending.ended ended
    cases result with
    | error stop => exact kept.elim
    | ok report => exact ⟨report, ended, kept⟩
  choose report ended ofAction e confirms kept using reported
  have own (k : Fin (event.runnable store).length) :
      Past.opened ⟨turns, after⟩ k = [(report k).executionId] := (kept k).own
  refine ⟨List.ofFn report, ?_, dispatched_of_lists pending.kept ?_ ?_ ?_⟩
  · rw [List.map_ofFn]
    exact congrArg List.ofFn (funext ended)
  · have opened : (turns.filterMap Turn.opened?).Nodup :=
      (List.nodup_append.mp (pending.kept.all ▸ pending.kept.keyed)).2.1
    rw [List.map_ofFn]
    exact Past.opened_perm opened own
  · have same : (fun k => (report k).actionId) = fun k => ((event.runnable store).get k).id :=
      funext ofAction
    rw [List.map_ofFn]
    change List.ofFn (fun k => (report k).actionId) = _
    rw [same]
    exact (List.map_ofFn ..).symm.trans (congrArg _ (List.ofFn_get _))
  · intro one known
    obtain ⟨k, rfl⟩ := List.mem_ofFn.mp known
    exact ⟨e k, confirms k, (kept k).stored _ (List.mem_singleton_self _)⟩

private theorem runAll_asks {engine : Engine} (aside : engine.ToolsAside) (occasion : Occasion)
    (actions : List Action) :
    (engine.runAll occasion actions).Asks (Effect.On (· ≠ .actions)) fun _ => True := by
  induction actions with
  | nil => exact Work.asks_pure trivial
  | cons action rest ih =>
    have asks := Work.asks_iff.mp (run_asks aside action occasion)
    refine (Work.asks_ofProgram asks).bind fun result _ => ?_
    rcases result with (e | crash) | report
    · exact ih
    · trivial
    · exact ih.bind fun others _ => Work.asks_pure trivial

/-- An event sets off one run for each stored action that it fires, and no other one, whether the actions
run one after another or at the same time. All runs are reported, and with them all that is stored of new
runs. Actions that the event does not fire change nothing of this. -/
theorem handleEvent_dispatches {τ : Type} (engine : Engine) (aside : engine.ToolsAside)
    (around : Surroundings τ) (reliable : around.Reliable)
    (unique : ∀ m n, around.idAt m = around.idAt n → m = n) (event : TriggerEvent) (store : MemoryStore)
    (keyed : ((store.docs .actionExecutions).map (·.id)).Nodup)
    (fresh : ∀ n, store.issued ≤ n → ∀ doc ∈ store.docs .actionExecutions, doc.id ≠ around.idAt n)
    (t : τ) :
    (∃ reports : List ExecutionReport,
      let handled := (engine.handleEvent event).run.run around.environment (store, t)
      handled.1 = .ok reports ∧ Dispatched event store reports handled.2.1 ∧
      ∀ actions : List Document, (actions.filter fun doc => event.Fires store doc) = event.fired store →
        ((engine.handleEvent event).run.run around.environment (store.setDocs .actions actions, t)).1 =
          .ok reports) ∧
    ∀ (turns : List (Turn (Fin (event.runnable store).length))) rest after,
      Interleaved (served around.idAt) (fun _ _ => False) (engine.firedRuns event store) store turns rest
        after → (∀ k, ∃ result, rest k = .done result) →
      ∃ reports : List ExecutionReport, List.ofFn rest = reports.map (fun report => .done (.ok report)) ∧
        Dispatched event store reports after := by
  have lists (ι : Type) : Past.Lists (ι := ι) around.idAt ((store.docs .actionExecutions).map (·.id))
      ⟨[], store⟩ := ⟨(List.append_nil _).symm, keyed, fresh⟩
  refine ⟨?_, fun turns rest after ran done => firedRuns_dispatch unique aside event (lists _) ran done⟩
  obtain ⟨t', handles⟩ := handleEvent_run engine reliable event t
  obtain ⟨value, state⟩ := handles store
  let ran := (engine.runAll (event.occasion store) (event.runnable store)).run.run around.environment
    (store, t')
  have dispatched : Work.Promise (Dispatched event store) (fun _ _ => False) ran.1 ran.2.1 :=
    Program.Meets.run Prod.fst reliable.fits (runAll_dispatches unique aside event (lists Unit))
  cases ended : ran.1 with
  | error stop =>
    rw [ended] at dispatched
    exact dispatched.elim
  | ok reports =>
    rw [ended] at dispatched
    have value := value.trans ended
    refine ⟨reports, value, state ▸ dispatched, fun actions same => ?_⟩
    have record : event.recordIn (store.setDocs .actions actions) = event.recordIn store := rfl
    have fires (doc : Document) : event.Fires (store.setDocs .actions actions) doc ↔
        event.Fires store doc := Iff.rfl
    have runnable : event.runnable (store.setDocs .actions actions) = event.runnable store := by
      unfold TriggerEvent.runnable
      rw [← same]
      rfl
    have occasion : event.occasion (store.setDocs .actions actions) = event.occasion store := rfl
    rw [(handles _).1, runnable, occasion]
    have asks := Work.asks_iff.mp
      (runAll_asks aside (event.occasion store) (event.runnable store))
    rw [MemoryStore.run_setDocs asks]
    exact ended

section

/-- An action of a workspace that does nothing on updates. -/
private def stored (id workspaceId : String) (isActive : Bool) : Document where
  id := id
  creationTime := 0
  fields := .ofList [("workspaceId", .string workspaceId), ("name", .string id), ("slug", .string id),
    ("trigger", .object [("type", .string "onUpdate")]), ("isActive", .bool isActive)]

/-- Two actions that updates in the workspace "w" set off, and others: one without any fields, one of
another workspace and one that is not active. -/
private def mixed : MemoryStore where
  actions := [stored "a" "w" true, ⟨"m", 0, []⟩, stored "f" "v" true, stored "i" "w" false,
    stored "b" "w" true]

private def happened : TriggerEvent where
  workspaceId := "w"
  eventType := .onUpdate
  objectTypeId := none
  listId := none
  changedFields := []
  recordId := none
  record := none
  actorId := none

/-- The two actions take turns. -/
private def turnByTurn := Program.schedule (MemoryStore.calm Surroundings.marks)
  (List.replicate 20 (List.finRange _)).flatten (bareEngine.firedRuns happened mixed) mixed

/-- Both actions run, one after another and turn by turn, and would do so without the others. -/
theorem handleEvent_dispatches_two :
    (happened.fired mixed).map (·.id) = ["a", "b"] ∧
    (∃ reports : List ExecutionReport,
      let handled := (bareEngine.handleEvent happened).run.run Surroundings.still.environment (mixed, ())
      handled.1 = .ok reports ∧ Dispatched happened mixed reports handled.2.1 ∧
      ((bareEngine.handleEvent happened).run.run Surroundings.still.environment
        (mixed.setDocs .actions [stored "a" "w" true, stored "b" "w" true], ())).1 = .ok reports) ∧
    ∃ turns rest after, Interleaved (served Surroundings.marks) (fun _ _ => False)
      (bareEngine.firedRuns happened mixed) mixed turns rest after ∧
      ∃ reports : List ExecutionReport, List.ofFn rest = reports.map (fun report => .done (.ok report)) ∧
        Dispatched happened mixed reports after := by
  have fired : (happened.fired mixed).map (·.id) = ["a", "b"] := by decide +kernel
  have aside : bareEngine.ToolsAside := fun _ _ _ => Work.asks_fail _
  obtain ⟨⟨reports, handled, dispatched, others⟩, atOnce⟩ := handleEvent_dispatches bareEngine aside
    .still Surroundings.reliable_still Surroundings.marks_unique happened mixed List.nodup_nil nofun ()
  have ran : Interleaved (served Surroundings.marks) (fun _ _ => False)
      (bareEngine.firedRuns happened mixed) mixed turnByTurn.1 turnByTurn.2.1 turnByTurn.2.2 :=
    Program.interleaved_schedule MemoryStore.served_calm rfl
  have ended : ∀ k, (turnByTurn.2.1 k).value?.isSome := by decide +kernel
  refine ⟨fired, ⟨reports, handled, dispatched, others _ (by decide +kernel)⟩,
    _, _, _, ran, atOnce _ _ _ ran fun k => ?_⟩
  obtain ⟨result, told⟩ := Option.isSome_iff_exists.mp (ended k)
  exact ⟨result, Program.value?_eq_some.mp told⟩

end

end Engine
end Automation
