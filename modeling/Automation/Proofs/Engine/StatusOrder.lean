import Automation.Proofs.Engine.ClosingOnce

/-!
The status of a run while it is opened and closed at the same time. A call may close the run as soon as
it is stored, that is before the one that opens it has said that it runs.
-/
namespace Automation

open MemoryStore (SameRun dated)
open Program (Interleaved Sharing)

/-- How the status of a stored run may change. -/
inductive ExecutionStatus.Moves : Option ExecutionStatus → Option ExecutionStatus → Prop
  | stays (status : Option ExecutionStatus) : Moves status status
  | opens : Moves none (some .pending)
  | begins : Moves (some .pending) (some .running)
  | closes {before after : ExecutionStatus} (isOpen : before.isTerminal = false)
      (terminal : after.isTerminal = true) : Moves (some before) (some after)

/-- What is written when a run begins. -/
def Engine.beginning : DocumentUpdate := { set := [("status", .string ExecutionStatus.running.name)] }

namespace MemoryStore

/-- The status that is read of a stored run. -/
def status? (store : MemoryStore) (id : String) : Option ExecutionStatus :=
  (store.run? id).bind fun doc => (doc.decodeAs ActionExecution.decode).toOption.map (·.status)

theorem status?_eq {store after : MemoryStore} {id : String} (same : SameRun id store after) :
    after.status? id = store.status? id := by
  rw [status?, same, status?]

/-- A run of the status is stored. -/
def Shows (store : MemoryStore) (id : String) (status : ExecutionStatus) : Prop :=
  ∃ e : ActionExecution, e.status = status ∧ e.Storable ∧ Engine.Holds run? id e store

theorem Shows.of_eq {store after : MemoryStore} {id : String} {status : ExecutionStatus}
    (h : store.Shows id status) (same : SameRun id store after) : after.Shows id status := by
  obtain ⟨e, shown, storable, held⟩ := h
  exact ⟨e, shown, storable, held.of_eq same⟩

theorem Shows.decode {store : MemoryStore} {id : String} {status : ExecutionStatus}
    (h : store.Shows id status) : ∃ doc e, store.run? id = some doc ∧
      doc.decodeAs ActionExecution.decode = .ok e ∧ e.status = status := by
  obtain ⟨e, rfl, storable, doc, found, -, shown⟩ := h
  exact ⟨doc, _, found, shown.decode_reread storable, rfl⟩

theorem Shows.known {store : MemoryStore} {id : String} {status : ExecutionStatus}
    (h : store.Shows id status) : store.run? id ≠ none := by
  obtain ⟨e, -, -, doc, found, -⟩ := h
  exact found ▸ Option.some_ne_none doc

theorem Shows.status?_eq {store : MemoryStore} {id : String} {status : ExecutionStatus}
    (h : store.Shows id status) : store.status? id = some status := by
  obtain ⟨doc, e, found, decoded, rfl⟩ := h.decode
  rw [status?, found, Option.bind_some, decoded]
  rfl

theorem Shows.unique {store : MemoryStore} {id : String} {first second : ExecutionStatus}
    (h : store.Shows id first) (h' : store.Shows id second) : first = second :=
  Option.some.inj (h.status?_eq.symm.trans h'.status?_eq)

variable {idAt : Nat → String} {store after : MemoryStore} {id : String} {status : ExecutionStatus}

theorem shows_insert {e : ActionExecution} {fields : Json.Members} (storable : e.Storable)
    (encoded : Document.fieldsOf e.encode = .ok fields)
    (w : dated idAt (.store (.insert .actionExecutions fields)) store (.answered (.ok id)) after) :
    after.Shows id e.status := by
  obtain ⟨⟨time, stored⟩, -⟩ := insert_answered w
  exact ⟨e, rfl, storable, _, stored, rfl, .of_encode encoded⟩

theorem Shows.begin (h : store.Shows id status) {applied : Bool}
    (w : dated idAt (.store (.update .actionExecutions id Engine.beginning)) store
      (.answered (.ok applied)) after) : after.Shows id .running := by
  obtain ⟨e, -, storable, doc, stored, rfl, shown⟩ := h
  obtain ⟨⟨_, found, -, left⟩, -⟩ := update_answered w
  cases found.symm.trans stored
  let begun : Document := { doc with fields := Engine.beginning.applyFields doc.fields }
  refine ⟨{ e with status := .running }, rfl, ?_, begun, left, rfl, shown.patchStatus .running⟩
  exact ⟨storable.stepResults, storable.startedAt, storable.completedAt⟩

/-- A call closes a run that has the status which the call expects, and only then. -/
theorem Shows.close (h : store.Shows id status) {before : ExecutionStatus} {close : Close}
    (valid : ∀ r ∈ close.results, r.Storable) {now : Time.Instant} (dated' : now.Representable)
    {applied : Bool} (w : dated idAt (.store (.update .actionExecutions id (close.update before now)))
      store (.answered (.ok applied)) after) :
    applied = decide (status = before) ∧ (applied = true → after.Shows id close.status) := by
  obtain ⟨e, rfl, storable, doc, stored, rfl, shown⟩ := h
  obtain ⟨⟨_, found, answer, left⟩, -⟩ := update_answered w
  cases found.symm.trans stored
  have expected : (close.update before now).isExpected doc = decide (e.status = before) :=
    Document.Shows.isExpected_closing (shown.found "status" (by decide))
  rw [DocumentUpdate.applyTo?, expected] at answer left
  by_cases same : e.status = before
  · rw [decide_eq_true same, if_pos rfl] at answer left
    refine ⟨answer.trans (decide_eq_true same).symm, fun _ => ?_⟩
    have closed := shown.closeAgain before close.status close.results close.error now
    refine ⟨{ close.closed e now with error := close.error <|> e.error }, rfl, ?_, _, left, rfl, closed⟩
    refine ⟨valid, storable.startedAt, ?_⟩
    rintro _ ⟨⟩
    exact dated'
  · rw [decide_eq_false same, if_neg Bool.false_ne_true] at answer
    refine ⟨answer.trans (decide_eq_false same).symm, fun applied => ?_⟩
    cases answer.symm.trans applied

end MemoryStore

namespace Engine

section

variable {ι : Type}

/-- What the one who opens a run ends with, and those who close it. -/
abbrev Ended : Option ι → Type
  | none => Except (Stop LifecycleError) String
  | some _ => Except (Stop LifecycleError) ExecutionStatus

/-- Opens a run, while calls close the run of an id. -/
def openAndClose (engine : Engine) (action : Action) (occasion : Occasion) (id : String)
    (calls : ι → Close) : (i : Option ι) → Program (Ended i)
  | none => (engine.start action occasion).run
  | some k => (engine.finish id (calls k).results (calls k).stop).run

/-- The turn that stores a run. -/
def insertion (id : String) (fields : Json.Members) : Turn (Option ι) :=
  ⟨none, .store (.insert .actionExecutions fields), .answered (.ok id)⟩

variable [DecidableEq ι]

/-- How far a run has come. -/
inductive Stage (id : String) (past : Past (Option ι) MemoryStore) : Prop
  | absent (unknown : past.state.run? id = none)
      (elsewhere : ∀ fields, insertion id fields ∉ past.wrote none)
  | pending {fields : Json.Members} (shows' : past.state.Shows id .pending)
      (inserted : past.wrote none = [insertion id fields])
  | early {fields : Json.Members} {status : ExecutionStatus} {k : ι}
      (shows' : past.state.Shows id status) (terminal : status.isTerminal = true)
      (inserted : past.wrote none = [insertion id fields]) (closed : past.wrote (some k) ≠ [])
  | begun {status : ExecutionStatus} (shows' : past.state.Shows id status)
      (moved : status ≠ .pending) (both : (past.wrote none).length = 2)

/-- The run has begun. -/
def HasBegun (id : String) (past : Past (Option ι) MemoryStore) : Prop :=
  (past.wrote none).length = 2 ∧ ∃ status, past.state.Shows id status

/-- The run has begun and is over. -/
def IsOver (id : String) (past : Past (Option ι) MemoryStore) : Prop :=
  (past.wrote none).length = 2 ∧ ∃ status, past.state.Shows id status ∧ status.isTerminal = true

/-- The run is stored and no longer pending. -/
def HasLeft (id : String) (past : Past (Option ι) MemoryStore) : Prop :=
  ∃ status, past.state.Shows id status ∧ status ≠ .pending

/-- What all rely on: a run goes through its stages, and one that has begun is not reopened. -/
def stages (ι : Type) [DecidableEq ι] (id : String) : Sharing (Option ι) MemoryStore where
  kept := Stage id
  grows before after := (HasBegun id before → HasBegun id after) ∧
    (IsOver id before → IsOver id after) ∧ (HasLeft id before → HasLeft id after)
  refl _ := ⟨fun h => h, fun h => h, fun h => h⟩
  trans _ _ _ first second := ⟨fun h => second.1 (first.1 h), fun h => second.2.1 (first.2.1 h),
    fun h => second.2.2 (first.2.2 h)⟩

/-- What each of them asks. -/
def stagePolicy (id : String) (calls : ι → Close) : Option ι → Policy (Past (Option ι) MemoryStore)
  | none =>
    { permitted := fun effect past => effect = .clock ∨
        (∃ (e : ActionExecution) (fields : Json.Members), e.status = .pending ∧ e.Storable ∧
          Document.fieldsOf e.encode = .ok fields ∧
          effect = .store (.insert .actionExecutions fields) ∧ past.wrote none = []) ∨
        ∃ given fields, effect = .store (.update .actionExecutions given beginning) ∧
          past.wrote none = [insertion given fields] }
  | some k =>
    { permitted := fun effect _ => effect = .store (.get .actionExecutions id) ∨ effect = .clock ∨
        ∃ (before : ExecutionStatus) (now : Time.Instant), before.isTerminal = false ∧
          now.Representable ∧
          effect = .store (.update .actionExecutions id ((calls k).update before now)) }

/-- The one who opens the run says that it has begun although it is over. -/
structure Reopens (id : String) (i : Option ι) (past : Past (Option ι) MemoryStore)
    (after : MemoryStore) : Prop where
  opener : i = none
  closed : ∃ k : ι, past.wrote (some k) ≠ []
  terminal : ∃ status, past.state.status? id = some status ∧ status.isTerminal = true
  running : after.status? id = some .running

/-- What one turn makes of the stored run. -/
structure Advances (id : String) (i : Option ι) (past later : Past (Option ι) MemoryStore) : Prop where
  stage : Stage id later
  grows : (stages ι id).grows past later
  moves : ExecutionStatus.Moves (past.state.status? id) (later.state.status? id) ∨
    Reopens id i past later.state

variable {id : String} {past later : Past (Option ι) MemoryStore} {s : MemoryStore}
  {idAt : Nat → String} {i : Option ι}

private theorem advances_still (stage : Stage id past) (same : SameRun id past.state later.state)
    (wrote : ∀ i, later.wrote i = past.wrote i) : Advances id i past later := by
  refine ⟨?_, ⟨?_, ?_, ?_⟩, .inl ?_⟩
  · cases stage with
    | absent unknown elsewhere => exact .absent (same.trans unknown) (by rwa [wrote])
    | pending shows' inserted => exact .pending (shows'.of_eq same) ((wrote none).trans inserted)
    | early shows' terminal inserted closed =>
      exact .early (shows'.of_eq same) terminal ((wrote none).trans inserted) (by rwa [wrote])
    | begun shows' moved both => exact .begun (shows'.of_eq same) moved (by rwa [wrote])
  · rintro ⟨both, status, shows'⟩
    exact ⟨by rwa [wrote], status, shows'.of_eq same⟩
  · rintro ⟨both, status, shows', terminal⟩
    exact ⟨by rwa [wrote], status, shows'.of_eq same, terminal⟩
  · rintro ⟨status, shows', moved⟩
    exact ⟨status, shows'.of_eq same, moved⟩
  · rw [MemoryStore.status?_eq same]
    exact .stays _

private theorem insert_advances (stage : Stage id past) (none' : past.wrote none = [])
    {e : ActionExecution} {fields : Json.Members} (isPending : e.status = .pending)
    (storable : e.Storable) (encoded : Document.fieldsOf e.encode = .ok fields) {given : String}
    (w : dated idAt (.store (.insert .actionExecutions fields)) past.state (.answered (.ok given)) s) :
    Advances id none past (past.after (insertion given fields) s) := by
  have wrote : (past.after (insertion given fields) s).wrote none = [insertion given fields] := by
    rw [insertion, Past.wrote_writes _ _ _ _ _ rfl, none', List.nil_append]
  have ⟨unknown, elsewhere⟩ : past.state.run? id = none ∧
      ∀ fields, insertion id fields ∉ past.wrote none := by
    cases stage with
    | absent unknown elsewhere => exact ⟨unknown, elsewhere⟩
    | pending shows' inserted => cases none'.symm.trans inserted
    | early shows' terminal inserted closed => cases none'.symm.trans inserted
    | begun shows' moved both => cases none' ▸ both
  have grows : (stages ι id).grows past (past.after (insertion given fields) s) := by
    refine ⟨?_, ?_, ?_⟩
    · rintro ⟨both, -⟩
      cases none' ▸ both
    · rintro ⟨both, -⟩
      cases none' ▸ both
    · rintro ⟨status, shows', -⟩
      exact absurd unknown shows'.known
  by_cases same : given = id
  · subst same
    have shows' : s.Shows given .pending := isPending ▸ MemoryStore.shows_insert storable encoded w
    refine ⟨.pending shows' wrote, grows, .inl ?_⟩
    rw [MemoryStore.status?, unknown]
    exact shows'.status?_eq ▸ .opens
  · have left : SameRun id past.state s := (MemoryStore.insert_answered w).2 id (Ne.symm same)
    refine ⟨.absent (left.trans unknown) fun fields' known => ?_, grows, .inl ?_⟩
    · rw [wrote, List.mem_singleton] at known
      cases known
      exact same rfl
    · rw [show (past.after _ s).state = s from rfl, MemoryStore.status?_eq left]
      exact .stays _

private theorem begin_advances (stage : Stage id past) {given : String} {fields : Json.Members}
    (known : past.wrote none = [insertion given fields])
    (w : dated idAt (.store (.update .actionExecutions given beginning)) past.state
      (.answered (.ok true)) s) :
    Advances id none past
      (past.after ⟨none, .store (.update .actionExecutions given beginning), .answered (.ok true)⟩ s) := by
  let turn : Turn (Option ι) :=
    ⟨none, .store (.update .actionExecutions given beginning), .answered (.ok true)⟩
  have wrote : (past.after turn s).wrote none = [insertion given fields, turn] := by
    rw [Past.wrote_writes _ _ _ _ _ rfl, known, List.singleton_append]
  have both : ((past.after turn s).wrote none).length = 2 := by rw [wrote]; rfl
  have notBoth : (past.wrote none).length ≠ 2 := by
    rw [known]
    exact nofun
  have grows (left : HasLeft id past → HasLeft id (past.after turn s)) :
      (stages ι id).grows past (past.after turn s) :=
    ⟨fun begun => absurd begun.1 notBoth, fun ended => absurd ended.1 notBoth, left⟩
  by_cases same : given = id
  · subst same
    have stored {status : ExecutionStatus} (shows' : past.state.Shows given status) :
        Stage given (past.after turn s) ∧ (stages ι given).grows past (past.after turn s) ∧
          s.status? given = some .running := by
      have running : s.Shows given .running := shows'.begin w
      exact ⟨.begun running nofun both, grows fun _ => ⟨_, running, nofun⟩, running.status?_eq⟩
    cases stage with
    | absent unknown elsewhere => exact absurd (known ▸ List.mem_singleton_self _) (elsewhere fields)
    | pending shows' inserted =>
      obtain ⟨stage, grown, running⟩ := stored shows'
      refine ⟨stage, grown, .inl ?_⟩
      rw [shows'.status?_eq, show (past.after turn s).state = s from rfl, running]
      exact .begins
    | early shows' terminal inserted closed =>
      obtain ⟨stage, grown, running⟩ := stored shows'
      exact ⟨stage, grown, .inr ⟨rfl, ⟨_, closed⟩, ⟨_, shows'.status?_eq, terminal⟩, running⟩⟩
    | begun shows' moved both => exact absurd both notBoth
  · have left : SameRun id past.state s := (MemoryStore.update_answered w).2 id (Ne.symm same)
    have elsewhere' {fields' : Json.Members} (inserted : past.wrote none = [insertion id fields']) :
        False := by
      cases known.symm.trans inserted
      exact same rfl
    cases stage with
    | absent unknown elsewhere =>
      refine ⟨.absent (left.trans unknown) fun fields' inserted => ?_, grows fun left => ?_, .inl ?_⟩
      · rw [wrote, List.mem_cons, List.mem_singleton] at inserted
        rcases inserted with inserted | inserted
        · cases inserted
          exact same rfl
        · have effect : Effect.store (.update .actionExecutions given beginning) =
            .store (.insert .actionExecutions fields') := congrArg Turn.effect inserted.symm
          cases effect
      · obtain ⟨status, shows', -⟩ := left
        exact absurd unknown shows'.known
      · rw [show (past.after turn s).state = s from rfl, MemoryStore.status?_eq left]
        exact .stays _
    | pending shows' inserted => exact (elsewhere' inserted).elim
    | early shows' terminal inserted closed => exact (elsewhere' inserted).elim
    | begun shows' moved both => exact absurd both notBoth

private theorem close_advances {calls : ι → Close} (valid : ∀ k, ∀ r ∈ (calls k).results, r.Storable)
    (stage : Stage id past) {k : ι} {before : ExecutionStatus} {now : Time.Instant}
    (isOpen : before.isTerminal = false) (dated' : now.Representable)
    (w : dated idAt (.store (.update .actionExecutions id ((calls k).update before now))) past.state
      (.answered (.ok true)) s) :
    Advances id (some k) past (past.after ⟨some k,
      .store (.update .actionExecutions id ((calls k).update before now)), .answered (.ok true)⟩ s) := by
  let turn : Turn (Option ι) := ⟨some k,
    .store (.update .actionExecutions id ((calls k).update before now)), .answered (.ok true)⟩
  have wrote : (past.after turn s).wrote none = past.wrote none :=
    Past.wrote_other past (Option.some_ne_none k) _ _ s
  have wrote' : (past.after turn s).wrote (some k) = past.wrote (some k) ++ [turn] :=
    Past.wrote_writes _ _ _ _ _ rfl
  have terminal := (calls k).isTerminal_status
  have closes {status : ExecutionStatus} (shows' : past.state.Shows id status) :
      status = before ∧ s.Shows id (calls k).status := by
    obtain ⟨expected, closed⟩ := shows'.close (valid k) dated' w
    exact ⟨of_decide_eq_true expected.symm, closed rfl⟩
  have moves {status : ExecutionStatus} (shows' : past.state.Shows id status) :
      ExecutionStatus.Moves (past.state.status? id) (s.status? id) := by
    obtain ⟨rfl, closed⟩ := closes shows'
    rw [shows'.status?_eq, closed.status?_eq]
    exact .closes isOpen terminal
  have notPending : (calls k).status ≠ .pending := fun same => by
    rw [same] at terminal
    cases terminal
  have grows : (stages ι id).grows past (past.after turn s) := by
    refine ⟨?_, ?_, ?_⟩
    · rintro ⟨both, status, shows'⟩
      exact ⟨by rwa [wrote], _, (closes shows').2⟩
    · rintro ⟨both, status, shows', -⟩
      exact ⟨by rwa [wrote], _, (closes shows').2, terminal⟩
    · rintro ⟨status, shows', -⟩
      exact ⟨_, (closes shows').2, notPending⟩
  cases stage with
  | absent unknown elsewhere =>
    obtain ⟨⟨doc, found, -⟩, -⟩ := MemoryStore.update_answered w
    cases found.symm.trans unknown
  | pending shows' inserted =>
    have closed : (past.after turn s).wrote (some k) ≠ [] := by
      rw [wrote']
      exact List.append_ne_nil_of_right_ne_nil _ (List.cons_ne_nil _ _)
    exact ⟨.early (closes shows').2 terminal (wrote.trans inserted) closed, grows, .inl (moves shows')⟩
  | early shows' terminal' inserted closed =>
    rw [(closes shows').1, isOpen] at terminal'
    cases terminal'
  | begun shows' moved both =>
    exact ⟨.begun (closes shows').2 notPending (wrote ▸ both), grows, .inl (moves shows')⟩

/-- What a turn makes of the stored run. -/
theorem turn_advances {calls : ι → Close} (valid : ∀ k, ∀ r ∈ (calls k).results, r.Storable)
    (stage : Stage id past) {effect : Effect} {reply : effect.Reply}
    (permitted : (stagePolicy id calls i).permitted effect past)
    (w : dated idAt effect past.state reply s) :
    Advances id i past (past.after ⟨i, effect, reply⟩ s) := by
  cases quiet : (⟨i, effect, reply⟩ : Turn (Option ι)).writes with
  | false =>
    have same : s = past.state := MemoryStore.eq_of_quiet w.1 quiet
    subst same
    exact advances_still stage rfl fun j => Past.wrote_quiet _ _ _ _ _ _ quiet
  | true =>
    cases i with
    | none =>
      rcases permitted with rfl | ⟨e, fields, isPending, storable, encoded, rfl, wrote⟩ |
        ⟨given, fields, rfl, wrote⟩
      · cases quiet
      · rcases reply with (e | given) | _ | crash
        · cases quiet
        · exact insert_advances stage wrote isPending storable encoded w
        · cases quiet
        · cases quiet
      · rcases reply with (e | applied) | _ | crash
        · cases quiet
        · have applied' : applied = true := quiet
          subst applied'
          exact begin_advances stage wrote w
        · cases quiet
        · cases quiet
    | some k =>
      rcases permitted with rfl | rfl | ⟨before, now, isOpen, dated', rfl⟩
      · cases quiet
      · cases quiet
      · rcases reply with (e | applied) | _ | crash
        · cases quiet
        · have applied' : applied = true := quiet
          subst applied'
          exact close_advances valid stage isOpen dated' w
        · cases quiet
        · cases quiet

theorem stages_hold {calls : ι → Close} (valid : ∀ k, ∀ r ∈ (calls k).results, r.Storable)
    (id : String) (idAt : Nat → String) :
    (stages ι id).Holds (dated idAt) (SameRun id) (stagePolicy id calls) where
  turn past i effect reply s stage permitted w := by
    have advances := turn_advances valid stage permitted w
    exact ⟨advances.stage, advances.grows⟩
  drifts past s stage same := by
    have advances : Advances id none past ⟨past.turns, s⟩ :=
      advances_still stage same fun i => Past.wrote_eq rfl
    exact ⟨advances.stage, advances.grows⟩

/-- The one who opens the run does as the policy says. -/
private theorem start_stages (engine : Engine) (action : Action) (occasion : Occasion)
    (calls : ι → Close) (wrote : past.wrote none = []) :
    Work.Meets ((stages ι id).world (dated idAt) none) (stagePolicy id calls none) (fun _ _ => True)
      (fun _ _ => True) (engine.start action occasion) past := by
  have timed : Work.Meets ((stages ι id).world (dated idAt) none) (stagePolicy id calls none)
      (fun now later => now.Representable ∧ later.wrote none = []) (fun _ _ => True)
      (Work.ofProgram Program.now : Work LifecycleError Time.Instant) past := by
    refine Work.meets_ofProgram ?_
    unfold Program.now Program.perform Program.Meets
    refine ⟨.inl rfl, fun _ _ twins => False.elim twins, fun now later w => ?_⟩
    obtain ⟨s, ⟨-, dated'⟩, -, -, elsewhere⟩ := w
    refine ⟨dated', ?_⟩
    rw [Past.wrote_eq elsewhere.own, Past.wrote_quiet _ _ _ _ _ _ rfl, wrote]
  refine timed.bind ?_
  rintro now later ⟨dated', wrote⟩
  let pending := pendingExecution action occasion now
  obtain ⟨fields, encoded⟩ : ∃ fields, Document.fieldsOf pending.encode = .ok fields := ⟨_, rfl⟩
  rw [encoded]
  have storable : pending.Storable := .unfinished rfl rfl dated'
  refine Connection.meets_askThen (.inr (.inl ⟨pending, fields, rfl, storable, encoded, rfl, wrote⟩))
    (fun _ _ twins => False.elim twins) fun reply last w => ?_
  obtain ⟨s, w, -, -, elsewhere⟩ := w
  rcases reply with (e | given) | _ | crash
  · trivial
  · have inserted : last.wrote none = [insertion given fields] := by
      rw [Past.wrote_eq elsewhere.own, Past.wrote_writes _ _ _ _ _ rfl, wrote]
      rfl
    have begun : Work.Meets ((stages ι id).world (dated idAt) none) (stagePolicy id calls none)
        (fun _ _ => True) (fun _ _ => True) (engine.executions.patch .actionExecutions given
          [("status", .string ExecutionStatus.running.name)]) last := by
      refine Connection.meets_askThen (.inr (.inr ⟨given, fields, rfl, inserted⟩))
        (fun _ _ twins => False.elim twins) fun reply final w => ?_
      rcases reply with (e | applied) | _ | crash <;> trivial
    exact begun.bind fun _ _ _ => trivial
  · trivial
  · trivial

/-- A call is told what is stored of the run. -/
def reading (id : String) (k : ι) (doc : Document) : Turn (Option ι) :=
  ⟨some k, .store (.get .actionExecutions id), .answered (.ok (some doc))⟩

/-- A call found the run before it had begun. -/
def FoundPending (id : String) (k : ι) (past : Past (Option ι) MemoryStore) : Prop :=
  ∃ doc e, reading id k doc ∈ past.own (some k) ∧ doc.decodeAs ActionExecution.decode = .ok e ∧
    e.status = .pending

/-- The last thing that a call did was to read a run of the status. -/
def LastRead (id : String) (k : ι) (past : Past (Option ι) MemoryStore) (e : ActionExecution) : Prop :=
  ∃ doc, (past.own (some k)).getLast? = some (reading id k doc) ∧
    doc.decodeAs ActionExecution.decode = .ok e

/-- Who is told that the run is over has just read it so, or had found it before it had begun. -/
def ToldOver (id : String) (k : ι) (stop : Stop LifecycleError) (past : Past (Option ι) MemoryStore) :
    Prop :=
  ∀ given name, stop = .failed (.alreadyTerminal given name) →
    ∃ e, LastRead id k past e ∧ name = e.status.name ∧
      (e.status.isTerminal = true ∨ (e.status = .running ∧ FoundPending id k past))

/-- What a call relies on when it has read the run. -/
structure Read (id : String) (k : ι) (past later : Past (Option ι) MemoryStore) (e : ActionExecution) :
    Prop where
  last : LastRead id k later e
  own : past.own (some k) ⊆ later.own (some k)
  stage : Stage id later
  begun : e.status = .running → HasBegun id later
  ended : IsOver id past → e.status.isTerminal = true
  left : HasLeft id past → e.status ≠ .pending

private theorem FoundPending.keeps {k : ι} (h : FoundPending id k past)
    (own : past.own (some k) ⊆ later.own (some k)) : FoundPending id k later := by
  obtain ⟨doc, e, found, decoded, isPending⟩ := h
  exact ⟨doc, e, own found, decoded, isPending⟩

private theorem LastRead.foundPending {k : ι} {e : ActionExecution} (h : LastRead id k past e)
    (isPending : e.status = .pending) : FoundPending id k past := by
  obtain ⟨doc, last, decoded⟩ := h
  exact ⟨doc, e, List.mem_of_getLast? last, decoded, isPending⟩

private theorem begun_of_running (stage : Stage id past) (running : past.state.Shows id .running) :
    HasBegun id past := by
  cases stage with
  | absent unknown elsewhere =>
    obtain ⟨doc, e, found, -⟩ := running.decode
    cases found.symm.trans unknown
  | pending shows' inserted => cases shows'.unique running
  | early shows' terminal inserted closed =>
    cases shows'.unique running
    cases terminal
  | begun shows' moved both => exact ⟨both, _, running⟩

variable {engine : Engine} {calls : ι → Close} {k : ι}

private theorem stage_shows (stage : Stage id past) :
    past.state.run? id = none ∨ ∃ status, past.state.Shows id status := by
  cases stage with
  | absent unknown elsewhere => exact .inl unknown
  | pending shows' inserted => exact .inr ⟨_, shows'⟩
  | early shows' terminal inserted closed => exact .inr ⟨_, shows'⟩
  | begun shows' moved both => exact .inr ⟨_, shows'⟩

private theorem load_stages (stage : Stage id past) :
    Work.Meets ((stages ι id).world (dated idAt) (some k)) (stagePolicy id calls (some k))
      (fun e later => Read id k past later e) (ToldOver id k) (engine.load id) past := by
  refine Connection.meets_askThen (.inl rfl) (fun _ _ twins => False.elim twins)
    fun reply later w => ?_
  have own := Sharing.own_of_world w
  obtain ⟨s, w, -, grows, elsewhere⟩ := w
  rcases reply with (e | found) | _ | crash
  · rintro given name ⟨⟩
  · obtain ⟨rfl, -⟩ := MemoryStore.get_answered w
    rcases stage_shows stage with unknown | ⟨status, shows'⟩
    · rw [unknown]
      rintro given name ⟨⟩
    · obtain ⟨doc, e, found, decoded, rfl⟩ := shows'.decode
      have grown := (stages ι id).trans _ _ _ grows elsewhere.grows
      have last : LastRead id k later e := by
        refine ⟨doc, ?_, decoded⟩
        rw [own, List.getLast?_concat, found]
        rfl
      rw [found]
      change Work.Meets _ _ _ _ (Work.ofExcept ((doc.decodeAs ActionExecution.decode).mapError _)) later
      rw [decoded]
      refine Work.meets_pure.mpr ⟨last, own ▸ List.subset_append_left _ _, elsewhere.kept,
        fun running => ?_, ?_, ?_⟩
      · exact grown.1 (begun_of_running stage (running ▸ shows'))
      · rintro ⟨-, status, shows'', terminal⟩
        exact shows''.unique shows' ▸ terminal
      · rintro ⟨status, shows'', moved⟩
        exact shows''.unique shows' ▸ moved
  · rintro given name ⟨⟩
  · rintro given name ⟨⟩

private theorem isOver_of_begun (stage : Stage id past) (begun : HasBegun id past)
    {status : ExecutionStatus} (shows' : past.state.Shows id status) (moved : status ≠ .running) :
    IsOver id past := by
  refine ⟨begun.1, status, shows', ?_⟩
  cases stage with
  | absent unknown elsewhere =>
    obtain ⟨doc, e, found, -⟩ := shows'.decode
    cases found.symm.trans unknown
  | pending shows'' inserted => cases inserted ▸ begun.1
  | early shows'' terminal inserted closed => cases inserted ▸ begun.1
  | begun shows'' notPending both =>
    cases shows'.unique shows''
    cases status with
    | pending => exact absurd rfl notPending
    | running => exact absurd rfl moved
    | completed => rfl
    | failed => rfl

/-- A call has found the run open. -/
private structure FoundOpen (id : String) (k : ι) (before : ExecutionStatus)
    (past : Past (Option ι) MemoryStore) : Prop where
  stage : Stage id past
  isOpen : before.isTerminal = false
  found : before = .pending → FoundPending id k past
  begun : before = .running → HasBegun id past

private theorem FoundOpen.keeps {before : ExecutionStatus} (h : FoundOpen id k before past)
    {effect : Effect} {reply : effect.Reply}
    (w : (stages ι id).world (dated idAt) (some k) effect past reply later) :
    FoundOpen id k before later := by
  have own := Sharing.own_of_world w
  obtain ⟨s, -, -, grows, elsewhere⟩ := w
  refine ⟨elsewhere.kept, h.isOpen, fun isPending => ?_, fun running => ?_⟩
  · exact (h.found isPending).keeps (own ▸ List.subset_append_left _ _)
  · exact elsewhere.grows.1 (grows.1 (h.begun running))

private theorem now_stages {before : ExecutionStatus} (h : FoundOpen id k before past) :
    Work.Meets ((stages ι id).world (dated idAt) (some k)) (stagePolicy id calls (some k))
      (fun now later => now.Representable ∧ FoundOpen id k before later)
      (ToldOver id k) (Work.ofProgram Program.now) past := by
  refine Work.meets_ofProgram ?_
  unfold Program.now Program.perform Program.Meets
  refine ⟨.inr (.inl rfl), fun _ _ twins => False.elim twins, fun now later w => ?_⟩
  have found := h.keeps w
  obtain ⟨s, ⟨-, dated'⟩, -⟩ := w
  exact ⟨dated', found⟩

/-- Who comes too late to close the run finds it over, or had found it before it had begun. -/
private theorem update_stages (valid : ∀ k, ∀ r ∈ (calls k).results, r.Storable)
    {before : ExecutionStatus} (h : FoundOpen id k before past) {now : Time.Instant}
    (dated' : now.Representable) :
    Work.Meets ((stages ι id).world (dated idAt) (some k)) (stagePolicy id calls (some k))
      (fun applied later => applied = false → Stage id later ∧
        (IsOver id later ∨ (HasLeft id later ∧ FoundPending id k later)))
      (ToldOver id k)
      (engine.executions.update .actionExecutions id ((calls k).update before now)) past := by
  refine Connection.meets_ask (.inr (.inr ⟨before, now, h.isOpen, dated', rfl⟩))
    (fun _ _ twins => False.elim twins) fun reply later w => ?_
  have found := h.keeps w
  obtain ⟨s, w, -, grows, elsewhere⟩ := w
  have grown := (stages ι id).trans _ _ _ grows elsewhere.grows
  rcases reply with (e | applied) | _ | crash
  · rintro given name ⟨⟩
  · rintro rfl
    refine ⟨found.stage, ?_⟩
    obtain ⟨status, shows'⟩ : ∃ status, past.state.Shows id status := by
      rcases stage_shows h.stage with unknown | known
      · obtain ⟨⟨doc, found, -⟩, -⟩ := MemoryStore.update_answered w
        cases found.symm.trans unknown
      · exact known
    have moved : status ≠ before := of_decide_eq_false (shows'.close (valid k) dated' w).1.symm
    cases before with
    | pending => exact .inr ⟨grown.2.2 ⟨status, shows', moved⟩, found.found rfl⟩
    | running => exact .inl (grown.2.1 (isOver_of_begun h.stage (h.begun rfl) shows' moved))
    | completed => cases h.isOpen
    | failed => cases h.isOpen
  · rintro given name ⟨⟩
  · rintro given name ⟨⟩

private theorem finish_stages (valid : ∀ k, ∀ r ∈ (calls k).results, r.Storable)
    (stage : Stage id past) :
    Work.Meets ((stages ι id).world (dated idAt) (some k)) (stagePolicy id calls (some k))
      (fun _ _ => True) (ToldOver id k) (engine.finish id (calls k).results (calls k).stop) past := by
  refine (load_stages stage).bind ?_
  intro e read loaded
  cases isOpen : e.status.isTerminal with
  | true =>
    rw [if_pos rfl]
    refine Work.meets_fail.mpr ?_
    rintro given name ⟨⟩
    exact ⟨e, loaded.last, rfl, .inl isOpen⟩
  | false =>
    rw [if_neg Bool.false_ne_true]
    have found : FoundOpen id k e.status read :=
      ⟨loaded.stage, isOpen, loaded.last.foundPending, loaded.begun⟩
    refine (now_stages found).bind ?_
    rintro now timed ⟨dated', found⟩
    refine (update_stages valid found dated').bind ?_
    rintro (_ | _) closed refused
    · obtain ⟨stage, late⟩ := refused rfl
      refine (load_stages stage).bind ?_
      intro current last reloaded
      refine Work.meets_fail.mpr ?_
      rintro given name ⟨⟩
      refine ⟨current, reloaded.last, rfl, ?_⟩
      rcases late with ended | ⟨left, found⟩
      · exact .inl (reloaded.ended ended)
      · cases now : current.status with
        | pending => exact absurd now (reloaded.left left)
        | running => exact .inr ⟨rfl, found.keeps reloaded.own⟩
        | completed => exact .inl rfl
        | failed => exact .inl rfl
    · trivial

/-- What the next turn may be, when a run is opened and closed at the same time. -/
structure Ordered (idAt : Nat → String) (id : String) (turns : List (Turn (Option ι)))
    (rest : (i : Option ι) → Program (Ended i)) (store : MemoryStore) : Prop where
  /-- It takes the status forward, but that who opens the run may say that it has begun when it has
  already been closed. -/
  forward : ∀ i effect next reply after, rest i = .ask effect next →
    dated idAt effect store reply after →
    ExecutionStatus.Moves (store.status? id) (after.status? id) ∨ Reopens id i ⟨turns, store⟩ after
  /-- Who is told that the run is over finds it over, but that who had found it pending may find that
  it runs. -/
  told : ∀ k effect next reply after given name, rest (some k) = .ask effect next →
    dated idAt effect store reply after →
    next reply = .done (.error (.failed (.alreadyTerminal given name))) →
    ∃ status, after.status? id = some status ∧ name = status.name ∧
      (status.isTerminal = true ∨ (status = .running ∧ FoundPending id k ⟨turns, store⟩))

/-- The status of a run goes forward from pending to a terminal one, whatever turns are taken by those
who open and close it, unless the run is closed before who opens it has said that it runs. -/
theorem status_ordered (engine : Engine) (idAt : Nat → String) (action : Action) (occasion : Occasion)
    (calls : ι → Close) (valid : ∀ k, ∀ r ∈ (calls k).results, r.Storable) {id : String}
    {s store : MemoryStore} {turns : List (Turn (Option ι))} {rest : (i : Option ι) → Program (Ended i)}
    (fresh : s.run? id = none)
    (ran : Interleaved (dated idAt) (SameRun id) (engine.openAndClose action occasion id calls) s turns
      rest store) :
    Ordered idAt id turns rest store := by
  let promised : (i : Option ι) → Ended i → Past (Option ι) MemoryStore → Prop
    | none => fun _ _ => True
    | some k => Work.Promise (fun _ _ => True) (ToldOver id k)
  have holds := stages_hold valid id idAt
  have start : (stages ι id).Pending (dated idAt) (stagePolicy id calls) promised
      (engine.openAndClose action occasion id calls) ⟨[], s⟩ := by
    refine ⟨.absent fresh fun fields => List.not_mem_nil, fun i later elsewhere => ?_⟩
    cases i with
    | none =>
      have wrote : later.wrote none = [] := Past.wrote_eq elsewhere.own
      exact Program.Meets.mono (start_stages engine action occasion calls wrote) fun _ _ _ => trivial
    | some k => exact finish_stages valid elsewhere.kept
  obtain ⟨pending, -⟩ := ran.pending holds start
  constructor
  case forward =>
    intro i effect next reply after asks w
    have own := pending.here i
    rw [asks] at own
    exact (turn_advances valid pending.kept own.1 w).moves
  case told =>
    intro k effect next reply after given name asks w done
    have after' : Interleaved (dated idAt) (SameRun id) rest store
        [⟨some k, effect, reply⟩] (Function.update rest (some k) (next reply)) after :=
      .turn .begin asks w
    obtain ⟨pending', -⟩ := after'.pending holds pending
    have ended : Function.update rest (some k) (next reply) (some k) =
        .done (.error (.failed (.alreadyTerminal given name))) := (Function.update_self ..).trans done
    obtain ⟨e, ⟨doc, last, decoded⟩, rfl, status⟩ := pending'.ended ended given name rfl
    have mine := Past.own_after ⟨turns, store⟩ (some k) (some k) effect reply after
    rw [if_pos rfl] at mine
    change ((Past.after ⟨turns, store⟩ ⟨some k, effect, reply⟩ after).own (some k)).getLast? = _ at last
    rw [mine, List.getLast?_concat] at last
    cases last
    obtain ⟨found, rfl⟩ := MemoryStore.get_answered w
    refine ⟨e.status, ?_, rfl, status.imp_right fun ⟨running, found⟩ => ⟨running, ?_⟩⟩
    · rw [MemoryStore.status?, ← found, Option.bind_some, decoded]
      rfl
    · obtain ⟨doc', e', read, decoded', isPending⟩ := found
      change _ ∈ (Past.after ⟨turns, after⟩ (reading id k doc) after).own (some k) at read
      rw [reading, mine, List.mem_append, List.mem_singleton] at read
      rcases read with read | same
      · exact ⟨doc', e', read, decoded', isPending⟩
      · cases same
        cases decoded.symm.trans decoded'
        rw [running] at isPending
        cases isPending

end

private def oneCall : Unit → Close := fun _ => ⟨[], none⟩

private def opensAndCloses : (i : Option Unit) → Program (Ended i) :=
  bareEngine.openAndClose noSteps ⟨.manual, none, none⟩ "#" oneCall

/-- The run is closed before who opens it has said that it runs. -/
private def early := Program.schedule (MemoryStore.calm Surroundings.marks)
  [none, none, some (), some (), some ()] opensAndCloses {}

private def earlyThenBegun := Program.schedule (MemoryStore.calm Surroundings.marks) [none] early.2.1
  early.2.2

/-- A call finds the run pending, and is late to close it as pending. -/
private def late := Program.schedule (MemoryStore.calm Surroundings.marks)
  [none, none, some (), some (), none, some (), some ()] opensAndCloses {}

theorem status_ordered_early : ∃ turns rest store, MemoryStore.status? store "#" = some .completed ∧
    Ordered (ι := Unit) Surroundings.marks "#" turns rest store := by
  have ran : Interleaved (dated Surroundings.marks) (SameRun "#") opensAndCloses {} early.1 early.2.1
      early.2.2 := Program.interleaved_schedule MemoryStore.dated_calm rfl
  have closed : early.2.2.status? "#" = some .completed := by decide +kernel
  exact ⟨early.1, early.2.1, early.2.2, closed, status_ordered bareEngine Surroundings.marks noSteps
    ⟨.manual, none, none⟩ oneCall (fun _ => nofun) rfl ran⟩

/-- A run that is closed early is reopened, and who is late to close a pending run is told that it is
over although it runs. -/
theorem status_reopened :
    (∃ turns rest store more last after,
      Interleaved (dated Surroundings.marks) (SameRun "#") opensAndCloses {} turns rest store ∧
      store.status? "#" = some .completed ∧
      Interleaved (dated Surroundings.marks) (SameRun "#") rest store more last after ∧
      after.status? "#" = some .running) ∧
    ∃ turns rest store,
      Interleaved (dated Surroundings.marks) (SameRun "#") opensAndCloses {} turns rest store ∧
      rest (some ()) = .done (.error (.failed (.alreadyTerminal "#" "running"))) ∧
      store.status? "#" = some .running := by
  have closed : early.2.2.status? "#" = some .completed := by decide +kernel
  have reopened : earlyThenBegun.2.2.status? "#" = some .running := by decide +kernel
  have told : (late.2.1 (some ())).value? =
      some (.error (.failed (.alreadyTerminal "#" "running"))) := by
    decide +kernel
  have running : late.2.2.status? "#" = some .running := by decide +kernel
  exact ⟨⟨early.1, early.2.1, early.2.2, earlyThenBegun.1, earlyThenBegun.2.1, earlyThenBegun.2.2,
      Program.interleaved_schedule MemoryStore.dated_calm rfl, closed,
      Program.interleaved_schedule MemoryStore.dated_calm rfl, reopened⟩,
    late.1, late.2.1, late.2.2, Program.interleaved_schedule MemoryStore.dated_calm rfl,
    Program.value?_eq_some.mp told, running⟩

end Engine
end Automation
