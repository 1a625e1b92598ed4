import Automation.Proofs.Engine.FieldPlan
import Automation.Proofs.Engine.Reach
import Automation.Proofs.Store.Served

/-!
Runs that change keys of records at the same time, in a store that does all it is asked. Records are
always what the writes so far make of those of the beginning, whoever made them. As long as nobody else
writes the keys that a run looks at, it comes to what it comes to on its own.
-/
namespace Automation

open Json (Value Members)
open MemoryStore (served)
open Program (Sharing)

/-- The key of the data that an update sets or removes. -/
def DocumentUpdate.dataKey? (u : DocumentUpdate) : Option (String × Option Value) :=
  match u.unset, u.set with
  | path :: _, _ => (Text.splitOnce '.' path).map fun (_, key) => (key, none)
  | [], (path, value) :: _ => (Text.splitOnce '.' path).map fun (_, key) => (key, some value)
  | [], [] => none

/-- What a turn wrote into the data of a record. -/
def Turn.write? {ι : Type} : Turn ι → Option RecordWrite
  | ⟨_, .store (.update .records id u), .answered (.ok true)⟩ =>
    u.dataKey?.map fun (key, value) => ⟨id, key, value⟩
  | _ => none

/-- What a program has written into the data of records. -/
def Past.written {ι σ : Type} [DecidableEq ι] (past : Past ι σ) (i : ι) : List RecordWrite :=
  (past.own i).filterMap Turn.write?

/-- The records of a store, the times of their last changes aside. -/
def MemoryStore.timelessRecords (store : MemoryStore) : RecordView := fun id =>
  (store.get? .records id).map (·.timeless)

/-- Of records, none are changed but by these writes. -/
def Effect.Plans (writes : List RecordWrite) : Effect → Prop
  | .store (.get _ _) => True
  | .store (.update .records id u) => ∃ (c : Engine.DataChange) (now : Time.Instant), u = c.update now ∧
      ⟨id, c.change.field, c.value⟩ ∈ writes
  | .store op => op.table ≠ .records
  | .exchange _ _ | .clock => True

/-- Records are those of the beginning with all writes so far, and nobody has made other writes than
planned. -/
structure Past.Replays {ι : Type} (V : RecordView) (plan : ι → List RecordWrite)
    (past : Past ι MemoryStore) : Prop where
  tidy : RecordView.Tidy (past.state.get? .records)
  view : past.state.timelessRecords = V.replay (past.turns.filterMap Turn.write?)
  planned : ∀ turn ∈ past.turns, ∀ w ∈ turn.write?, w ∈ plan turn.who

/-- What runs rely on that change keys of records. -/
def plannedWrites {ι : Type} (V : RecordView) (plan : ι → List RecordWrite) :
    Sharing ι MemoryStore where
  kept := Past.Replays V plan
  grows _ _ := True
  refl _ := trivial
  trans _ _ _ _ _ := trivial

/-- A run makes no writes but its own. -/
def plannedPolicy {ι : Type} (plan : ι → List RecordWrite) (i : ι) : Policy (Past ι MemoryStore) where
  permitted effect _ := effect.Plans (plan i)

section

variable {ι : Type} {i : ι} {effect : Effect} {reply : effect.Reply}

theorem Effect.Plans.of_on {writes : List RecordWrite} (h : Effect.On (· ≠ .records) effect) :
    effect.Plans writes := by
  unfold Effect.Plans
  split
  · trivial
  · exact absurd rfl h
  · exact h
  · trivial
  · trivial

theorem Turn.write?_aside (h : Effect.On (· ≠ .records) effect) :
    Turn.write? (⟨i, effect, reply⟩ : Turn ι) = none := by
  unfold write?
  split
  · next writes =>
    cases writes
    exact absurd rfl h
  · rfl

theorem Engine.DataChange.dataKey?_update (c : DataChange) (now : Time.Instant) :
    (c.update now).dataKey? = some (c.change.field, c.value) := by
  rw [c.update_eq]
  cases c.value <;> simp [DocumentUpdate.dataKey?, DocumentUpdate.splitOnce_data]

/-- A change that is applied is a write of its key. -/
theorem Turn.write?_update (id : String) (c : Engine.DataChange) (now : Time.Instant) :
    Turn.write? (⟨i, .store (.update .records id (c.update now)), .answered (.ok true)⟩ : Turn ι) =
      some ⟨id, c.change.field, c.value⟩ := by
  simp [write?, c.dataKey?_update]

/-- A change expects nothing. -/
theorem Engine.DataChange.applyTo?_update (c : DataChange) (now : Time.Instant) (doc : Document) :
    (c.update now).applyTo? doc = some { doc with fields := (c.update now).applyFields doc.fields } :=
  if_pos (by simp [DocumentUpdate.isExpected, c.expect_update])

theorem Past.written_after {σ : Type} [DecidableEq ι] (past : Past ι σ) (s : σ) :
    (past.after ⟨i, effect, reply⟩ s).written i =
      past.written i ++ (Turn.write? (⟨i, effect, reply⟩ : Turn ι)).toList := by
  rw [written, own_after, if_pos rfl, List.filterMap_append, written]
  cases made : Turn.write? (⟨i, effect, reply⟩ : Turn ι) <;> simp [made]

end

namespace MemoryStore

variable {store : MemoryStore} {id : String} {doc : Document}

theorem tidy_timelessRecords (tidy : RecordView.Tidy (store.get? .records)) :
    store.timelessRecords.Tidy := by
  intro id doc known
  obtain ⟨stored, found, rfl⟩ := Option.map_eq_some_iff.mp known
  exact (tidy id stored found).timeless

theorem timelessRecords_congr {after : MemoryStore} (same : after.docs .records = store.docs .records) :
    after.timelessRecords = store.timelessRecords := by
  unfold timelessRecords get?
  rw [same]

/-- A change of a key is a write of it. -/
theorem timelessRecords_place (tidy : RecordView.Tidy (store.get? .records))
    (found : store.get? .records id = some doc) (c : Engine.DataChange) (now : Time.Instant) :
    let changed : Document := { doc with fields := (c.update now).applyFields doc.fields }
    let after := store.setDocs .records (place changed (store.docs .records))
    RecordView.Tidy (after.get? .records) ∧
      after.timelessRecords = store.timelessRecords.write ⟨id, c.change.field, c.value⟩ := by
  intro changed after
  have named : changed.id = id := (mem_of_get? found).2
  have same : after.get? .records id = some changed := named ▸ store.get?_place .records changed
  have others (other : String) (apart : other ≠ id) :
      after.get? .records other = store.get? .records other :=
    get?_place_of_ne (named ▸ apart.symm)
  constructor
  · intro other found' known
    by_cases here : other = id
    · subst here
      cases same.symm.trans known
      exact c.tidy_update now (tidy other doc found)
    · exact tidy other found' (others other here ▸ known)
  · funext other
    unfold timelessRecords RecordView.write
    split
    · next here =>
      subst here
      simp only [same, found, Option.map_some]
      exact congrArg some (c.timeless_update now (tidy other doc found).fields)
    · next apart => rw [others other apart]

end MemoryStore

section

variable {ι : Type} {V : RecordView} {plan : ι → List RecordWrite} {idAt : Nat → String}
  {past later : Past ι MemoryStore} {i : ι} {effect : Effect} {reply : effect.Reply} {s : MemoryStore}

private theorem replays_quiet (h : past.Replays V plan)
    (same : s.docs .records = past.state.docs .records)
    (quiet : Turn.write? (⟨i, effect, reply⟩ : Turn ι) = none) :
    (past.after ⟨i, effect, reply⟩ s).Replays V plan where
  tidy := by
    have found : s.get? .records = past.state.get? .records := by
      funext id
      rw [MemoryStore.get?, same, MemoryStore.get?]
    exact found.symm ▸ h.tidy
  view := by
    change s.timelessRecords = V.replay ((past.turns ++ [_]).filterMap _)
    rw [MemoryStore.timelessRecords_congr same, h.view, List.filterMap_append,
      List.filterMap_cons_none quiet]
    simp
  planned turn known w made := by
    rcases List.mem_append.mp known with known | last
    · exact h.planned turn known w made
    · cases List.mem_singleton.mp last
      cases quiet.symm.trans made

/-- A write that is planned is made, unless the record is missing. -/
private theorem turn_changes (h : past.Replays V plan) {id : String} {u : DocumentUpdate}
    {reply : StoreReply Bool} (own : Effect.Plans (plan i) (.store (.update .records id u)))
    (w : served idAt (.store (.update .records id u)) past.state reply s) :
    (past.after ⟨i, .store (.update .records id u), reply⟩ s).Replays V plan := by
  obtain ⟨c, now, rfl, planned⟩ := own
  cases found : past.state.get? .records id with
  | none =>
    obtain ⟨time, rfl, rfl⟩ := w
    refine replays_quiet h ?_ ?_ <;> simp [MemoryStore.perform, MemoryStore.update, found, Turn.write?]
  | some doc =>
    obtain ⟨rfl, rfl⟩ := MemoryStore.update_served found (c.applyTo?_update now doc) w
    have made := Turn.write?_update (i := i) id c now
    obtain ⟨tidy, view⟩ := MemoryStore.timelessRecords_place h.tidy found c now
    refine ⟨tidy, ?_, fun turn known w told => ?_⟩
    · refine view.trans ?_
      change _ = V.replay ((past.turns ++ [_]).filterMap _)
      rw [h.view, List.filterMap_append, RecordView.replay_append, List.filterMap_cons_some made]
      rfl
    · rcases List.mem_append.mp known with known | last
      · exact h.planned turn known w told
      · cases List.mem_singleton.mp last
        cases made.symm.trans told
        exact planned

/-- Runs that make their own writes only keep what they rely on. -/
theorem plannedWrites_holds :
    (plannedWrites V plan).Holds (served idAt) (fun _ _ => False) (plannedPolicy plan) where
  drifts _ _ _ := False.elim
  turn past i effect reply s kept permitted w := by
    refine ⟨?_, trivial⟩
    by_cases aside : Effect.On (· ≠ .records) effect
    · exact replays_quiet kept (MemoryStore.docs_of_world (MemoryStore.world_of_served w) aside)
        (Turn.write?_aside aside)
    · cases effect with
      | exchange request deadline => exact absurd trivial aside
      | clock => exact absurd trivial aside
      | store op =>
        have here : op.table = .records := not_not.mp aside
        cases op with
        | get table id =>
          obtain ⟨rfl, rfl⟩ := MemoryStore.get_served w
          exact replays_quiet kept rfl rfl
        | update table id u =>
          obtain rfl : table = .records := here
          exact turn_changes kept permitted w
        | query table q => exact absurd here permitted
        | insert table fields => exact absurd here permitted
        | delete table id => exact absurd here permitted

/-- Nobody else writes there. -/
def OwnPlace (plan : ι → List RecordWrite) (i : ι) (place : String × String) : Prop :=
  ∀ j ≠ i, ∀ w ∈ plan j, w.place ≠ place

variable [DecidableEq ι]

/-- Where a run is: it has made these writes. -/
structure HasWritten (V : RecordView) (plan : ι → List RecordWrite) (i : ι) (done : List RecordWrite)
    (past : Past ι MemoryStore) : Prop where
  replays : past.Replays V plan
  own : past.written i = done

variable {done : List RecordWrite} {place : String × String}

/-- The writes of a place that nobody else writes are those of one run. -/
theorem Past.Replays.filter_written (h : past.Replays V plan) (own : OwnPlace plan i place) :
    (past.turns.filterMap Turn.write?).filter (·.place = place) =
      (past.written i).filter (·.place = place) := by
  have planned := h.planned
  unfold Past.written Past.own
  generalize past.turns = turns at planned ⊢
  induction turns with
  | nil => rfl
  | cons turn rest ih =>
    rw [List.forall_mem_cons] at planned
    have rest := ih planned.2
    by_cases mine : turn.who = i
    · rw [List.filter_cons_of_pos (by simpa using mine), List.filterMap_cons, List.filterMap_cons]
      cases turn.write? with
      | none => exact rest
      | some w => simp only [List.filter_cons, rest]
    · rw [List.filter_cons_of_neg (by simpa using mine), List.filterMap_cons, ← rest]
      cases made : turn.write? with
      | none => rfl
      | some w =>
        have apart : w.place ≠ place := own turn.who mine w (planned.1 w made)
        exact List.filter_cons_of_neg (by simpa using apart)

/-- When all planned writes are made, each place by one run only, records are as if one run had made its
writes after the other. -/
theorem Past.Replays.view_inTurn (h : past.Replays V plan) (tidy : V.Tidy)
    (own : ∀ i, ∀ w ∈ plan i, OwnPlace plan i w.place) (ended : ∀ i, past.written i = plan i)
    {order : List ι} (distinct : order.Nodup) (all : ∀ i, i ∈ order) :
    past.state.timelessRecords = V.replay (order.flatMap plan) := by
  rw [h.view]
  refine RecordView.replay_congr tidy fun place => ?_
  rw [List.filter_flatMap]
  by_cases written : ∃ i, ∃ w ∈ plan i, w.place = place
  · obtain ⟨i, w, known, rfl⟩ := written
    have own := own i w known
    have others (order : List ι) (apart : i ∉ order) :
        (order.flatMap fun j => (plan j).filter (·.place = w.place)) = [] := by
      refine List.flatMap_eq_nil_iff.mpr fun j listed => List.filter_eq_nil_iff.mpr fun w' known' => ?_
      have other : j ≠ i := fun same => apart (same ▸ listed)
      simpa using own j other w' known'
    obtain ⟨before, after, rfl⟩ := List.append_of_mem (all i)
    rw [List.nodup_middle, List.nodup_cons, List.mem_append, not_or] at distinct
    rw [h.filter_written own, ended, List.flatMap_append, List.flatMap_cons, others _ distinct.1.1,
      others _ distinct.1.2]
    simp
  · have none : (past.turns.filterMap Turn.write?).filter (·.place = place) = [] := by
      refine List.filter_eq_nil_iff.mpr fun w known => ?_
      obtain ⟨turn, took, made⟩ := List.mem_filterMap.mp known
      simpa using fun same => written ⟨turn.who, w, h.planned turn took w made, same⟩
    rw [none]
    refine (List.flatMap_eq_nil_iff.mpr fun j _ => List.filter_eq_nil_iff.mpr fun w known => ?_).symm
    simpa using fun same => written ⟨j, w, known, same⟩

/-- Where nobody else writes, a run finds what it has written itself. -/
theorem HasWritten.seen (h : HasWritten V plan i done past) (own : OwnPlace plan i place) :
    RecordView.seen (past.state.get? .records) place = (V.replay done).seen place := by
  have timeless : RecordView.seen (past.state.get? .records) place =
      past.state.timelessRecords.seen place := by
    simp [RecordView.seen, MemoryStore.timelessRecords, Function.comp_def]
  rw [timeless, h.replays.view]
  refine RecordView.seen_replay V ?_
  rw [h.replays.filter_written own, h.own]

theorem HasWritten.isSome_get? (h : HasWritten V plan i done past) (id : String) :
    (past.state.get? .records id).isSome = (V id).isSome := by
  have view := congrArg Option.isSome (congrFun h.replays.view id)
  rwa [MemoryStore.timelessRecords, Option.isSome_map, RecordView.isSome_replay] at view

/-- A turn of a run, and where it is behind those of the others. -/
private theorem HasWritten.world (h : HasWritten V plan i done past)
    (w : (plannedWrites V plan).world (served idAt) i effect past reply later) :
    (∃ s, served idAt effect past.state reply s) ∧
      HasWritten V plan i (done ++ (Turn.write? (⟨i, effect, reply⟩ : Turn ι)).toList) later := by
  obtain ⟨s, w, -, -, elsewhere⟩ := w
  refine ⟨⟨s, w⟩, elsewhere.kept, ?_⟩
  rw [Past.written, elsewhere.own, ← Past.written, Past.written_after, h.own]

/-- What does not write records leaves the run where it is. -/
private theorem HasWritten.quiet (h : HasWritten V plan i done past)
    (w : (plannedWrites V plan).world (served idAt) i effect past reply later)
    (quiet : Turn.write? (⟨i, effect, reply⟩ : Turn ι) = none) : HasWritten V plan i done later := by
  have later := (h.world w).2
  rwa [quiet, Option.toList_none, List.append_nil] at later

end

namespace Engine

variable {ι : Type} [DecidableEq ι] {V : RecordView} {plan : ι → List RecordWrite} {idAt : Nat → String}
  {past later : Past ι MemoryStore} {i : ι} {done : List RecordWrite} {engine : Engine} {ctx : Context}
  {stepId : String} {command : FieldCommand} {recordId : Option String}

/-- What leaves records alone leaves the run where it is. -/
private theorem aside_planned {ε α : Type} {work : Work ε α} {given : α → Prop}
    (asks : work.Asks (Effect.On (· ≠ .records)) given) (h : HasWritten V plan i done past) :
    work.Meets ((plannedWrites V plan).world (served idAt) i) (plannedPolicy plan i)
      (fun _ later => HasWritten V plan i done later) (fun _ _ => True) past :=
  (asks.meets (fun _ _ aside _ => Effect.Plans.of_on aside) (fun _ _ _ _ _ twins => twins)
    (fun _ _ _ _ aside h w => h.quiet w (Turn.write?_aside aside)) h).mono (fun _ _ post => post.2)
      fun _ _ _ => trivial

private theorem now_planned (h : HasWritten V plan i done past) :
    Program.now.Meets ((plannedWrites V plan).world (served idAt) i) (plannedPolicy plan i)
      (fun _ later => HasWritten V plan i done later) past :=
  ⟨trivial, fun _ _ => nofun, fun _ _ w => h.quiet w rfl⟩

/-- A record is required as it is stored. -/
private theorem requireIn_planned {workspaceId id : String} (h : HasWritten V plan i done past) :
    let required := RecordView.required (past.state.get? .records) workspaceId id
    (engine.records.requireIn workspaceId .records id).Meets
      ((plannedWrites V plan).world (served idAt) i) (plannedPolicy plan i)
      (fun record later => required = .ok record ∧ HasWritten V plan i done later)
      (fun stop later => ∃ e, stop = .failed e ∧ required = .error e ∧ HasWritten V plan i done later)
      past := by
  intro required
  unfold Connection.requireIn Connection.require
  rw [bind_assoc]
  refine Connection.meets_askThen trivial (fun _ _ => nofun) fun reply later w => ?_
  have h := h.quiet w rfl
  obtain ⟨s, w, -⟩ := w
  obtain ⟨rfl, -⟩ := MemoryStore.get_served w
  simp only [Connection.understood, Work.Promise]
  cases found : past.state.get? .records id with
  | none => exact Work.meets_fail.mpr ⟨_, rfl, by simp [required, RecordView.required, found]; rfl, h⟩
  | some record =>
    by_cases inside : record.inWorkspace workspaceId
    · have same : required = .ok record := by simp [required, RecordView.required, found, inside]
      simp only [pure_bind, Document.ensureWorkspace, inside, if_true]
      exact Work.meets_pure.mpr ⟨same, h⟩
    · have same : required = .error (.store (.wrongWorkspace .records record.id)) := by
        simp [required, RecordView.required, found, inside]
      simp only [pure_bind, Document.ensureWorkspace, inside, Bool.false_eq_true, if_false]
      exact Work.meets_fail.mpr ⟨_, rfl, same, h⟩

private theorem targetRecord_planned (h : HasWritten V plan i done past) :
    let stored : RecordView := past.state.get? .records
    (engine.targetRecord ctx recordId).Meets ((plannedWrites V plan).world (served idAt) i)
      (plannedPolicy plan i)
      (fun record later => ∃ id, targetId ctx recordId = .ok id ∧
        stored.required ctx.workspaceId id = .ok record ∧ HasWritten V plan i done later)
      (fun stop later => ∃ e, stop = .failed e ∧ (command.deed stored ctx recordId).outcome = .error e ∧
        HasWritten V plan i done later) past := by
  intro stored
  unfold targetRecord
  cases target : targetId ctx recordId with
  | error e => exact Work.meets_fail.mpr ⟨e, rfl, by simp [FieldCommand.deed, target], h⟩
  | ok id =>
    refine (requireIn_planned h).mono ?_ ?_
    · rintro record later ⟨found, h⟩
      exact ⟨id, rfl, found, h⟩
    · rintro stop later ⟨e, stopped, missing, h⟩
      refine ⟨e, stopped, ?_, h⟩
      rw [FieldCommand.deed_of_target target, FieldCommand.changeIn, missing]
      rfl

/-- A planned change of a key is made. -/
private theorem update_planned {id : String} {c : DataChange} {now : Time.Instant}
    (h : HasWritten V plan i done past) (there : (past.state.get? .records id).isSome)
    (mine : ⟨id, c.change.field, c.value⟩ ∈ plan i) :
    (engine.records.update .records id (c.update now)).Meets
      ((plannedWrites V plan).world (served idAt) i) (plannedPolicy plan i)
      (fun _ later => HasWritten V plan i (done ++ [⟨id, c.change.field, c.value⟩]) later)
      (fun _ _ => False) past := by
  refine Connection.meets_ask ⟨c, now, rfl, mine⟩ (fun _ _ => nofun) fun reply later w => ?_
  obtain ⟨record, found⟩ := Option.isSome_iff_exists.mp there
  obtain ⟨⟨s, w⟩, h⟩ := h.world w
  obtain ⟨rfl, -⟩ := MemoryStore.update_served found (c.applyTo?_update now record) w
  rw [Turn.write?_update] at h
  exact h

private theorem ignoring_writeAudit_planned {ε : Type} {stop : Stop ε → Past ι MemoryStore → Prop}
    (entry : AuditEntry) (h : HasWritten V plan i done past) :
    (Work.ignoring (engine.writeAudit entry)).Meets ((plannedWrites V plan).world (served idAt) i)
      (plannedPolicy plan i) (fun _ later => HasWritten V plan i done later) stop past := by
  have aside (fields : Members) :
      Effect.On (· ≠ .records) (.store (.insert .auditLogs fields)) := nofun
  have permitted (fields : Members) : Effect.Plans (plan i) (.store (.insert .auditLogs fields)) :=
    .of_on (aside fields)
  refine ignoring_writeAudit entry permitted (fun _ _ _ => nofun)
    fun fields reply later w => ⟨?_, h.quiet w (Turn.write?_aside (aside fields))⟩
  obtain ⟨⟨s, now, told, -⟩, -⟩ := h.world w
  exact ⟨_, told⟩

/-- A change of a key comes to what it comes to among the records as it finds them. -/
private theorem changeField_planned (begun : HasWritten V plan i done past)
    (mine : ∀ w output, (command.deed (past.state.get? .records) ctx recordId).outcome =
      .ok (w, output) → w ∈ plan i) :
    let deed := command.deed (past.state.get? .records) ctx recordId
    (engine.changeField ctx stepId command recordId).Meets
      ((plannedWrites V plan).world (served idAt) i) (plannedPolicy plan i)
      (fun output later => ∃ w, deed.outcome = .ok (w, output) ∧
        HasWritten V plan i (done ++ [w]) later)
      (fun stop later => ∃ e, stop = .failed e ∧ deed.outcome = .error e ∧
        HasWritten V plan i done later) past := by
  intro deed
  refine (targetRecord_planned begun).bind fun record later ⟨id, target, required, h⟩ => ?_
  have outcome : deed.outcome = (FieldCommand.change record command).map fun c =>
      (⟨id, c.change.field, c.value⟩, .ofPairs (("recordId", .string id) :: c.output)) := by
    rw [FieldCommand.deed_of_target target, FieldCommand.changeIn, required]
    rfl
  have found := RecordView.eq_some_of_required required
  obtain rfl : record.id = id := (MemoryStore.mem_of_get? found).2
  cases made : FieldCommand.change record command with
  | error e => exact Work.meets_fail.mpr ⟨e, rfl, by rw [outcome, made]; rfl, h⟩
  | ok c =>
    have outcome : deed.outcome = .ok (⟨record.id, c.change.field, c.value⟩,
        .ofPairs (("recordId", .string record.id) :: c.output)) := by
      rw [outcome, made]
      rfl
    refine (Work.meets_ofProgram (now_planned h)).bind fun now later h => ?_
    have there : (later.state.get? .records record.id).isSome := by
      rw [h.isSome_get?, ← begun.isSome_get?, found]
      rfl
    refine (update_planned h there (mine _ _ outcome)).unstopped.bind fun _ later h => ?_
    refine (ignoring_writeAudit_planned _ h).bind fun _ later h => ?_
    exact Work.meets_pure.mpr ⟨_, outcome, h⟩

/-- A step that changes a key comes to what it comes to on its own, if nobody else writes the keys that it
looks at. -/
private theorem runStep_planned {step : Step} (changes : step.type.ChangesField)
    (h : HasWritten V plan i done past)
    (own : ∀ place ∈ (step.deed (V.replay done) ctx).touches, OwnPlace plan i place)
    (mine : ∀ w output, (step.deed (V.replay done) ctx).outcome = .ok (w, output) → w ∈ plan i) :
    (engine.runStep step ctx).Meets ((plannedWrites V plan).world (served idAt) i)
      (plannedPolicy plan i)
      (fun outcome later => match (step.deed (V.replay done) ctx).outcome with
        | .ok (w, output) => outcome = .completed output ctx ∧ HasWritten V plan i (done ++ [w]) later
        | .error e => outcome = .failed e none ∧ HasWritten V plan i done later) past := by
  have same : step.deed (V.replay done) ctx = step.deed (past.state.get? .records) ctx :=
    Step.deed_congr fun place touched => (h.seen (own place touched)).symm
  rw [same] at mine ⊢
  obtain ⟨id, type, name, config, thenSteps, elseSteps, steps⟩ := step
  unfold runStep
  unfold Step.deed at mine ⊢
  dsimp only at changes mine ⊢
  cases parsed : Command.parse type id (Template.resolve ctx config) with
  | error e => exact ⟨rfl, h⟩
  | ok command =>
    obtain ⟨change, recordId, rfl⟩ := changes.command parsed
    rw [parsed] at mine
    dsimp only at mine ⊢
    refine Program.Meets.bind (changeField_planned h mine) fun result later post => ?_
    cases result with
    | ok output =>
      obtain ⟨w, outcome, h⟩ := post
      rw [outcome]
      exact ⟨rfl, h⟩
    | error stop =>
      obtain ⟨e, rfl, outcome, h⟩ := post
      rw [outcome]
      exact ⟨rfl, h⟩

/-- Steps that change keys come to what they come to on their own, if nobody else writes the keys that they
look at. -/
private theorem runSequence_planned {steps : List Step}
    (changes : ∀ step ∈ steps, step.type.ChangesField) (h : HasWritten V plan i done past)
    (own : ∀ place ∈ (FieldPlan.ofSteps (V.replay done) steps ctx).touches, OwnPlace plan i place)
    (mine : ∀ w ∈ (FieldPlan.ofSteps (V.replay done) steps ctx).writes, w ∈ plan i) :
    (engine.runSequence steps ctx).Meets ((plannedWrites V plan).world (served idAt) i)
      (plannedPolicy plan i)
      (fun trace later =>
        trace.results.map (·.timeless) = (FieldPlan.ofSteps (V.replay done) steps ctx).results ∧
        HasWritten V plan i (done ++ (FieldPlan.ofSteps (V.replay done) steps ctx).writes) later)
      past := by
  induction steps generalizing ctx done past with
  | nil => exact ⟨rfl, by simpa [FieldPlan.ofSteps] using h⟩
  | cons step rest ih =>
    rw [List.forall_mem_cons] at changes
    unfold runSequence
    refine Program.Meets.bind (now_planned h) fun startedAt later h => ?_
    unfold FieldPlan.ofSteps at own mine ⊢
    cases outcome : (step.deed (V.replay done) ctx).outcome with
    | error e =>
      simp only [outcome] at own mine ⊢
      refine Program.Meets.bind (runStep_planned changes.1 h own (by simp [outcome])) ?_
      rw [outcome]
      rintro _ later ⟨rfl, h⟩
      refine Program.Meets.bind (now_planned h) fun completedAt last h => ?_
      exact ⟨rfl, by simpa using h⟩
    | ok deed =>
      obtain ⟨w, output⟩ := deed
      simp only [outcome, List.forall_mem_append, List.forall_mem_cons] at own mine ⊢
      have first (w' : RecordWrite) (output' : Value)
          (same : (step.deed (V.replay done) ctx).outcome = .ok (w', output')) : w' ∈ plan i := by
        cases outcome.symm.trans same
        exact mine.1
      refine Program.Meets.bind (runStep_planned changes.1 h own.1 first) ?_
      rw [outcome]
      rintro _ later ⟨rfl, h⟩
      refine Program.Meets.bind (now_planned h) fun completedAt later h => ?_
      have others : V.replay (done ++ [w]) = (V.replay done).write w := V.replay_append done [w]
      rw [← others] at own mine ⊢
      refine Program.Meets.bind (ih changes.2 h own.2 mine.2) ?_
      rintro trace last ⟨results, h⟩
      refine ⟨?_, by simpa using h⟩
      rw [← results]
      rfl

variable {action : Action} {occasion : Occasion}

/-- A run comes to what it comes to on its own, unless the run itself cannot be opened or closed. -/
theorem run_planned (changes : ∀ step ∈ action.steps, step.type.ChangesField)
    (h : HasWritten V plan i [] past)
    (own : ∀ place ∈ (action.fieldPlan occasion V).touches, OwnPlace plan i place)
    (mine : ∀ w ∈ (action.fieldPlan occasion V).writes, w ∈ plan i) :
    (engine.run action occasion).Meets ((plannedWrites V plan).world (served idAt) i)
      (plannedPolicy plan i)
      (fun report later =>
        report.stepResults.map (·.timeless) = (action.fieldPlan occasion V).results ∧
        HasWritten V plan i (action.fieldPlan occasion V).writes later)
      (fun _ _ => True) past := by
  have ofRuns (table : Table) (same : table = .actionExecutions) : table ≠ .records := by
    rw [same]
    decide
  have opens : (engine.start action occasion).Asks (Effect.On (· ≠ .records)) fun _ => True :=
    (start_asks action occasion).on ofRuns
  refine (aside_planned opens h).bind fun executionId later h => ?_
  have same : action.fieldPlan occasion V =
      FieldPlan.ofSteps V action.steps (firstContext action occasion executionId) :=
    (FieldPlan.ofSteps_executionId (some executionId) action.steps V _).symm
  rw [same] at own mine ⊢
  refine (Work.meets_ofProgram (runSequence_planned changes h own mine)).bind
    fun trace later ⟨results, h⟩ => ?_
  have closes : (engine.finish executionId trace.results trace.ending.error?).Asks
      (Effect.On (· ≠ .records)) _ := (finish_asks executionId _ _).on ofRuns
  refine (aside_planned closes h).bind fun status later h => ?_
  exact (ignoring_writeAudit_planned _ h).bind fun _ last h => Work.meets_pure.mpr ⟨results, h⟩

end Engine
end Automation
