import Automation.Proofs.Engine.Confinement

/-!
Workspaces are isolated. A run leaves the documents of all other workspaces as they are, and what is stored
for them does not show in it, unless an event carries a record that is stored in one of them.
-/
namespace Automation

namespace Engine

open MemoryStore Surroundings

/-- A run of an action leaves all that is stored for other workspaces as it is, at any time and
whatever fails; what it inserts is in the workspace of the action, no document changes its
workspace, and the entries of lists stay in the workspace of what they join. -/
theorem run_isolated {τ : Type} (around : Surroundings τ)
    (unique : ∀ m n, around.idAt m = around.idAt n → m = n) (engine : Engine)
    (builtIn : engine.tools = Toolbox.recordTools) (action : Action) (occasion : Occasion)
    (store : MemoryStore) (sound : store.Sound around.idAt) (t : τ) :
    let path := (engine.run action occasion).run.path around.environment (store, t)
    (∀ s ∈ path, s.1.Coherent) ∧
      path.Pairwise fun earlier later => Isolated action.workspaceId earlier.1 later.1 := by
  intro path
  have stays : Work.Stays around.idAt action.workspaceId False (fun _ _ => True)
      (engine.run action occasion) store := stays_run builtIn rfl nofun
  have alone := stays.alone unique sound
  obtain ⟨sounds, grow⟩ := alone.path (g := Grows around.idAt action.workspaceId)
    (s := (store, t)) Prod.fst (fun effect s => world_environment around effect s)
    (fun _ _ _ _ => Grows.trans) (sound_step unique) sound
  exact ⟨fun s hs => (sounds s hs).coherent,
    grow.imp_of_mem fun early _ grown => grown.isolated (sounds _ early)⟩

/-- No entry can be written to the audit log. -/
private def noAudit : Surroundings Unit where
  idAt := marks
  clock t := (⟨0, 0⟩, t)
  peer _ _ t := (.unreachable, t)
  fault op t := (if op.table = .auditLogs then some (.failed (.unavailable "full")) else none, t)

/-- A record on a list, in each of two workspaces. -/
private def twoWorkspaces : MemoryStore where
  records := [⟨"r1", 0, .ofList [("workspaceId", .string "w1")]⟩,
    ⟨"r2", 0, .ofList [("workspaceId", .string "w2")]⟩]
  lists := [⟨"l1", 0, .ofList [("workspaceId", .string "w1")]⟩,
    ⟨"l2", 0, .ofList [("workspaceId", .string "w2")]⟩]
  listEntries := [⟨"e1", 0, .ofList [("workspaceId", .string "w1"), ("listId", .string "l1"),
      ("recordId", .string "r1")]⟩,
    ⟨"e2", 0, .ofList [("workspaceId", .string "w2"), ("listId", .string "l2"),
      ("recordId", .string "r2")]⟩]

private theorem twoWorkspaces_sound : twoWorkspaces.Sound marks where
  keyed table := by cases table <;> decide
  coherent := by
    unfold Coherent
    decide +kernel
  fresh n _ := by
    refine ⟨fun table doc known => marks_new n ?_, fun entry known => ⟨fun names => ?_, fun names => ?_⟩⟩
    · have ids : ∀ table ∈ Table.all, ∀ doc ∈ twoWorkspaces.docs table,
        doc.id.toList.head? ≠ some '#' := by decide +kernel
      exact ids table (by cases table <;> decide) doc known
    · have lists : ∀ entry ∈ twoWorkspaces.listEntries, ∀ id ∈ entry.getText? "listId",
        id.toList.head? ≠ some '#' := by decide +kernel
      exact marks_new n (lists entry known _ names) rfl
    · have records : ∀ entry ∈ twoWorkspaces.listEntries, ∀ id ∈ entry.getText? "recordId",
        id.toList.head? ≠ some '#' := by decide +kernel
      exact marks_new n (records entry known _ names) rfl

/-- Deletes one record after the other. -/
private def cleanUp : Action where
  id := "a"
  workspaceId := "w1"
  name := "Clean up"
  slug := "clean-up"
  description := none
  trigger := ⟨.manual, none, none, none, none⟩
  conditions := []
  steps := [⟨"own", .deleteRecord, none, .ofPairs [("recordId", .string "r1")], [], [], []⟩,
    ⟨"other", .deleteRecord, none, .ofPairs [("recordId", .string "r2")], [], [], []⟩]
  isActive := true
  isSystem := false
  createdBy := none

/-- The record of the action's workspace goes, with its entry; the other one is out of reach. -/
theorem run_isolated_cleanUp :
    let run := (Engine.run (.standard {} []) cleanUp ⟨.manual, none, none⟩).run
    let path := run.path noAudit.environment (twoWorkspaces, ())
    ((∀ s ∈ path, s.1.Coherent) ∧
      path.Pairwise fun earlier later => Isolated "w1" earlier.1 later.1) ∧
    (run.run noAudit.environment (twoWorkspaces, ())).2.1.listEntries.map (·.id) = ["e2"] := by
  intro run path
  exact ⟨run_isolated noAudit marks_unique _ rfl cleanUp _ twoWorkspaces twoWorkspaces_sound (),
    by decide +kernel⟩

end Engine

open MemoryStore

/-- The event is about a stored record of its workspace, or else the record it carries is not stored
in another one. -/
def TriggerEvent.Settled (event : TriggerEvent) (store : MemoryStore) : Prop :=
  (∃ doc ∈ store.records, event.recordId = some doc.id ∧ doc.inWorkspace event.workspaceId) ∨
    ∀ snapshot ∈ event.record, Owned event.workspaceId store .records snapshot.id

/-- Done in either of two stores, the work gives the same and leaves the same for the workspace. -/
def Work.Unmoved {ε α τ : Type} (around : Surroundings τ) (W : String) (work : Work ε α)
    (store other : MemoryStore) : Prop := ∀ t,
  (work.run.run around.environment (store, t)).1 = (work.run.run around.environment (other, t)).1 ∧
    Alike W (work.run.run around.environment (store, t)).2.1
      (work.run.run around.environment (other, t)).2.1

namespace Engine

open Work Connection

variable {ε α : Type} {idAt : Nat → String} {W : String} {s : MemoryStore} {engine : Engine}

private theorem stays_loadAction {id : String} (sound : s.Sound idAt)
    (owned : Owned W s .actions id) :
    Stays idAt W True (fun _ after => after = s) (engine.loadAction id) s := by
  refine (stays_get sound fun _ => owned).bind fun found s' sound _ ⟨same, _⟩ => ?_
  subst s'
  cases found with
  | none => exact stays_fail sound _
  | some doc =>
    change Stays _ _ _ _ (Work.ofExcept _) _
    cases (doc.decodeAs Action.decode).mapError EngineError.store with
    | ok action => exact stays_pure sound rfl
    | error e => exact stays_fail sound e

private theorem stays_loadActions (sound : s.Sound idAt) :
    Stays idAt W True (fun _ after => after = s)
      (engine.loadActions (.byText [("workspaceId", W)])) s := by
  refine (stays_query sound fun _ _ _ _ doc _ => ?_).bind
    fun docs _ sound _ ⟨same, _⟩ => stays_pure sound same
  exact inside_of_accepts (n := none) (List.mem_cons_self ..)

private theorem stays_eventRecord {event : TriggerEvent} (sound : s.Sound idAt)
    (settled : event.Settled s) :
    Stays idAt event.workspaceId True (fun record after => after = s ∧
      ∀ snapshot ∈ record, Owned event.workspaceId s .records snapshot.id)
      (engine.eventRecord event) s := by
  unfold eventRecord
  split
  · next none =>
    refine stays_pure sound ⟨rfl, ?_⟩
    rcases settled with ⟨doc, _, named, _⟩ | settled
    · cases none.symm.trans named
    · exact settled
  · next id named =>
    refine stays_getThen sound (fun _ doc twin _ out out' => ?_) ?_
    · simp only [out, out', Bool.false_eq_true, if_false]
    · rcases settled with ⟨doc, known, same, inside⟩ | settled
      · cases named.symm.trans same
        have found : s.get? .records doc.id = some doc := get?_of_mem sound.keyed known
        simp only [found, inside, if_true]
        refine stays_pure sound ⟨rfl, ?_⟩
        rintro _ ⟨⟩
        have owned : Owned event.workspaceId s .records doc.id :=
          owned_of_mem sound.keyed known inside
        exact owned
      · cases found : s.get? .records id with
        | none => exact stays_pure sound ⟨rfl, settled⟩
        | some doc =>
          dsimp only
          split
          · next inside =>
            refine stays_pure sound ⟨rfl, ?_⟩
            rintro _ ⟨⟩
            exact owned_of_mem sound.keyed (mem_of_get? found).1 inside
          · exact stays_pure sound ⟨rfl, settled⟩

private theorem stays_runAll (builtIn : engine.tools = Toolbox.recordTools) {occasion : Occasion}
    {actions : List Action} (here : ∀ action ∈ actions, action.workspaceId = W)
    (sound : s.Sound idAt)
    (seen : ∀ snapshot ∈ occasion.record, Owned W s .records snapshot.id) :
    Stays idAt W True (fun _ _ => True) (engine.runAll occasion actions) s := by
  induction actions generalizing s with
  | nil => exact stays_pure sound trivial
  | cons action rest ih =>
    rw [List.forall_mem_cons] at here
    refine (stays_run builtIn here.1 fun _ => seen).settled.bind fun result s' sound grown _ => ?_
    have others := ih here.2 sound fun snapshot recorded => (seen snapshot recorded).grows grown
    rcases result with (e | crash) | report
    · exact others
    · exact stays_crash sound _
    · exact others.bind fun _ _ sound _ _ => stays_pure sound trivial

private theorem stays_handleEvent (builtIn : engine.tools = Toolbox.recordTools)
    {event : TriggerEvent} (sound : s.Sound idAt) (settled : event.Settled s) :
    Stays idAt event.workspaceId True (fun _ _ => True) (engine.handleEvent event) s := by
  refine (stays_loadActions sound).bind fun actions s' _ _ same => ?_
  subst s'
  dsimp only
  split
  · exact stays_pure sound trivial
  · refine (stays_eventRecord sound settled).bind fun record s' _ _ ⟨same, owned⟩ => ?_
    subst s'
    refine stays_runAll builtIn (fun action chosen => ?_) sound owned
    have triggered := (List.mem_filter.mp (List.mem_filter.mp chosen).1).2
    simp only [Action.isTriggeredBy, Bool.and_eq_true, beq_iff_eq] at triggered
    tauto

private theorem stays_executeManual (builtIn : engine.tools = Toolbox.recordTools)
    {actionId : String} {recordId actorId : Option String} (sound : s.Sound idAt)
    (owned : Owned W s .actions actionId) :
    Stays idAt W True (fun _ _ => True) (engine.executeManual W actionId recordId actorId) s := by
  refine (stays_loadAction sound owned).bind fun action s' _ _ same => ?_
  subst s'
  dsimp only
  split
  · exact stays_fail sound _
  · next here =>
    split
    · exact stays_fail sound _
    · have ran (record : Option RecordSnapshot)
          (owned : ∀ snapshot ∈ record, Owned W s .records snapshot.id) :
          Stays idAt W True (fun _ _ => True)
            (Work.mapError EngineError.lifecycle (engine.run action ⟨.manual, record, actorId⟩)) s :=
        (stays_run builtIn (not_not.mp here) fun _ => owned).mapError
      cases recordId with
      | none => exact ran none nofun
      | some id =>
        refine (stays_requireIn sound).bind fun doc s' _ _ ⟨same, _, held⟩ => ?_
        subst s'
        refine ran (some (RecordSnapshot.ofDocument doc)) ?_
        rintro _ ⟨⟩
        exact owned_of_mem sound.keyed held.1 held.2

private theorem unmoved_of_stays {τ : Type} {around : Surroundings τ} {work : Work ε α}
    {post : α → MemoryStore → Prop} {other : MemoryStore}
    (h : Stays around.idAt W True post work s)
    (unique : ∀ m n, around.idAt m = around.idAt n → m = n) (sound : s.Sound around.idAt)
    (sound' : other.Sound around.idAt) (alike : Alike W s other) :
    work.Unmoved around W s other := fun t => by
  obtain ⟨same, still, -⟩ :=
    run_alike (t := t) unique (h.alone unique sound) sound sound' alike
  exact ⟨same, still⟩

/-- Two stores that differ only in what other workspaces keep in their documents lead to the same
reports, and to the same documents of the workspace. An event has to be settled for that: a record
that it carries, and that is stored in another workspace, would be read there. -/
theorem reads_isolated {τ : Type} (around : Surroundings τ)
    (unique : ∀ m n, around.idAt m = around.idAt n → m = n) (engine : Engine)
    (builtIn : engine.tools = Toolbox.recordTools) (W : String) (store other : MemoryStore)
    (sound : store.Sound around.idAt) (sound' : other.Sound around.idAt)
    (alike : Alike W store other) :
    (∀ event : TriggerEvent, event.workspaceId = W → event.Settled store →
      (engine.handleEvent event).Unmoved around W store other) ∧
    ∀ actionId recordId actorId, Owned W store .actions actionId →
      (engine.executeManual W actionId recordId actorId).Unmoved around W store other := by
  refine ⟨fun event here settled => ?_, fun actionId recordId actorId owned => ?_⟩
  · subst here
    exact unmoved_of_stays (stays_handleEvent builtIn sound settled) unique sound sound' alike
  · exact unmoved_of_stays (stays_executeManual builtIn sound owned) unique sound sound' alike

open Surroundings Json

/-- Nothing fails. -/
private def untroubled : Surroundings Unit where
  idAt := marks
  clock t := (⟨0, 0⟩, t)
  peer _ _ t := (.unreachable, t)
  fault _ t := (none, t)

/-- A record and an action in one workspace, and a record of some stage in another one. The action
asks for the stage of its record. -/
private def stageElsewhere (stage : String) : MemoryStore where
  records := [⟨"r1", 0, .ofList [("workspaceId", .string "w1")]⟩,
    ⟨"r2", 0, .ofList [("workspaceId", .string "w2"),
      ("data", .ofPairs [("stage", .string stage)])]⟩]
  actions := [⟨"a", 0, .ofList [("workspaceId", .string "w1"), ("name", .string "Check"),
    ("slug", .string "check"), ("trigger", .ofPairs [("type", .string "onUpdate")]),
    ("steps", .array [.ofPairs [("id", .string "check"), ("type", .string "condition"),
      ("config", .ofPairs [("conditions", .array [.ofPairs [("field", .string "stage"),
        ("operator", .string "equals"), ("value", .string "open")]])])]])]⟩]

private theorem stageElsewhere_sound (stage : String) : (stageElsewhere stage).Sound marks where
  keyed table := by cases table <;> simp [stageElsewhere, docs]
  coherent := nofun
  fresh n _ := by
    refine ⟨fun table doc known => marks_new n ?_, nofun⟩
    cases table <;> simp only [stageElsewhere, docs, List.mem_cons, List.not_mem_nil, or_false] at known
    · rcases known with rfl | rfl
      · exact (by decide +kernel : "r1".toList.head? ≠ some '#')
      · exact (by decide +kernel : "r2".toList.head? ≠ some '#')
    · cases known
      exact (by decide +kernel : "a".toList.head? ≠ some '#')

private theorem stageElsewhere_alike : Alike "w1" (stageElsewhere "open") (stageElsewhere "won") where
  own table := by cases table <;> decide +kernel
  foreign table := by cases table <;> decide +kernel
  issued := rfl

/-- An update of a record, as it was when its stage was still open. -/
private def updated (recordId : String) : TriggerEvent where
  workspaceId := "w1"
  eventType := .onUpdate
  objectTypeId := none
  listId := none
  changedFields := []
  recordId := some recordId
  record := some ⟨recordId, 0, none, .ofList [("stage", .string "open")]⟩
  actorId := none

/-- The record of the workspace has no stage, whatever that of the other record is. -/
theorem reads_isolated_ownRecord :
    ((standard {} []).handleEvent (updated "r1")).Unmoved untroubled "w1" (stageElsewhere "open")
      (stageElsewhere "won") := by
  refine (reads_isolated untroubled marks_unique _ rfl "w1" _ _ (stageElsewhere_sound _)
    (stageElsewhere_sound _) stageElsewhere_alike).1 _ rfl (.inl ?_)
  exact ⟨⟨"r1", 0, .ofList [("workspaceId", .string "w1")]⟩, List.mem_cons_self .., rfl, by decide +kernel⟩

private def outputs (store : MemoryStore) : Option (List (List (Option Value))) :=
  ((((standard {} []).handleEvent (updated "r2")).run.run untroubled.environment
    (store, ())).1.toOption).map (·.map (·.stepResults.map (·.output)))

/-- An event that carries a record of another workspace tells of the stage that is stored there. -/
theorem handleEvent_tells :
    (stageElsewhere "open").Sound marks ∧ (stageElsewhere "won").Sound marks ∧
      Alike "w1" (stageElsewhere "open") (stageElsewhere "won") ∧
      (updated "r2").workspaceId = "w1" ∧ ¬ ((standard {} []).handleEvent (updated "r2")).Unmoved
        untroubled "w1" (stageElsewhere "open") (stageElsewhere "won") := by
  refine ⟨stageElsewhere_sound _, stageElsewhere_sound _, stageElsewhere_alike, rfl, fun same => ?_⟩
  have told : outputs (stageElsewhere "open") = outputs (stageElsewhere "won") := by
    unfold outputs
    rw [(same ()).1]
  have differs : outputs (stageElsewhere "open") ≠ outputs (stageElsewhere "won") := by
    decide +kernel
  exact differs told

end Engine
end Automation
