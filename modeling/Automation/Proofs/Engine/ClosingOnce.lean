import Automation.Proofs.Engine.Closing
import Automation.Proofs.Engine.SharedRun

/-!
Calls that close one run at the same time. Each of them reads the run, asks for the time and writes, if
the status still is what it has read. Whatever turns they take, one of them closes the run.
-/
namespace Automation

open MemoryStore (SameRun dated)
open Program (Interleaved Sharing)

/-- The store failed the work. -/
def Stop.IsOfStore : Stop LifecycleError → Prop
  | .failed (.store _) | .crashed _ => True
  | .failed _ => False

/-- What a call closes a run with: the results of its steps, and what else it was ended by. -/
structure Close where
  results : List StepResult
  stop : Option String

namespace Close

def status (close : Close) : ExecutionStatus := (summarize close.results close.stop).1

def error (close : Close) : Option String := (summarize close.results close.stop).2

/-- A run that is closed at a time. -/
def closed (close : Close) (e : ActionExecution) (now : Time.Instant) : ActionExecution :=
  { e with status := close.status, stepResults := close.results, completedAt := some now,
           error := close.error }

/-- What is written to close a run that was read with a status. -/
def update (close : Close) (before : ExecutionStatus) (now : Time.Instant) : DocumentUpdate :=
  Engine.closing before close.status close.results close.error now

theorem isTerminal_status (close : Close) : close.status.isTerminal = true :=
  Engine.terminal_summarize close.results close.stop

end Close

/-- A run that is stored and not over. -/
structure OpenRun where
  doc : Document
  e : ActionExecution
  shown : doc.Shows e
  storable : e.Storable
  isOpen : e.status.isTerminal = false
  calm : e.error = none

namespace OpenRun

variable {ι : Type}

def id (run : OpenRun) : String := run.doc.id

/-- What is stored of the run when it is closed. -/
def closedBy (run : OpenRun) (close : Close) (now : Time.Instant) : Document :=
  { run.doc with fields := (close.update run.e.status now).applyFields run.doc.fields }

/-- A call asks to close the run. -/
def closing (run : OpenRun) (close : Close) (now : Time.Instant) : Effect :=
  .store (.update .actionExecutions run.id (close.update run.e.status now))

/-- So far nobody wrote the run. -/
structure Waits (run : OpenRun) (past : Past ι MemoryStore) : Prop where
  stored : past.state.run? run.id = some run.doc
  quiet : past.turns.filter (·.writes) = []

/-- One call has closed the run, at the time that it was told, and nobody else wrote. -/
structure Closed (run : OpenRun) (calls : ι → Close) (i : ι) (now : Time.Instant)
    (past : Past ι MemoryStore) : Prop where
  stored : past.state.run? run.id = some (run.closedBy (calls i) now)
  told : ⟨i, .clock, now⟩ ∈ past.turns
  dated : now.Representable
  wrote : ∃ turn : Turn ι, turn.who = i ∧ past.turns.filter (·.writes) = [turn]

variable {run : OpenRun} {calls : ι → Close} {past later : Past ι MemoryStore} {i : ι}
  {now : Time.Instant} {close : Close} {turn : Turn ι} {s : MemoryStore} {idAt : Nat → String}

theorem shows_closedBy (run : OpenRun) (close : Close) (now : Time.Instant) :
    (run.closedBy close now).Shows (close.closed run.e now) :=
  run.shown.close run.calm close.status close.results close.error now

/-- The run is closed by the call that comes first. -/
theorem applyTo?_open (run : OpenRun) (close : Close) (now : Time.Instant) :
    (close.update run.e.status now).applyTo? run.doc = some (run.closedBy close now) :=
  if_pos run.shown.isExpected

/-- A run that is closed is not closed again. -/
theorem applyTo?_closed (run : OpenRun) (first close : Close) (before now : Time.Instant) :
    (close.update run.e.status now).applyTo? (run.closedBy first before) = none := by
  have shown := (run.shows_closedBy first before).found "status" (by decide)
  have moved : first.status ≠ run.e.status := fun same => by
    have terminal := first.isTerminal_status
    rw [same, run.isOpen] at terminal
    cases terminal
  refine if_neg ?_
  rw [Close.update, Document.Shows.isExpected_closing shown, decide_eq_true_iff]
  exact moved

theorem Waits.stays (h : run.Waits past) (same : SameRun run.id past.state later.state)
    (quiet : later.turns.filter (·.writes) = past.turns.filter (·.writes)) : run.Waits later :=
  ⟨same.trans h.stored, quiet.trans h.quiet⟩

theorem Closed.stays (h : run.Closed calls i now past) (same : SameRun run.id past.state later.state)
    (quiet : later.turns.filter (·.writes) = past.turns.filter (·.writes))
    (kept : past.turns ⊆ later.turns) : run.Closed calls i now later := by
  obtain ⟨writer, own, wrote⟩ := h.wrote
  exact ⟨same.trans h.stored, kept h.told, h.dated, writer, own, quiet.trans wrote⟩

theorem Closed.not_waits (h : run.Closed calls i now past) : ¬run.Waits past := fun waits => by
  obtain ⟨writer, -, wrote⟩ := h.wrote
  cases wrote.symm.trans waits.quiet

/-- What all calls rely on: the run waits, or one of them has closed it for good. -/
def shared (run : OpenRun) (calls : ι → Close) : Sharing ι MemoryStore where
  kept past := run.Waits past ∨ ∃ i now, run.Closed calls i now past
  grows before after := ∀ i now, run.Closed calls i now before → run.Closed calls i now after
  refl _ _ _ h := h
  trans _ _ _ first second i now h := second i now (first i now h)

/-- What a call asks: the run, the time, and to close the run at the time that it was told. -/
def policy [DecidableEq ι] (run : OpenRun) (calls : ι → Close) (i : ι) :
    Policy (Past ι MemoryStore) where
  permitted effect past := effect = .store (.get .actionExecutions run.id) ∨ effect = .clock ∨
    ∃ now : Time.Instant, effect = run.closing (calls i) now ∧ now.Representable ∧
      ⟨i, .clock, now⟩ ∈ past.own i

/-- What calls rely on still holds when nobody wrote the run. -/
private theorem still (kept : (run.shared calls).kept past)
    (same : SameRun run.id past.state later.state)
    (quiet : later.turns.filter (·.writes) = past.turns.filter (·.writes))
    (more : past.turns ⊆ later.turns) :
    (run.shared calls).kept later ∧ (run.shared calls).grows past later := by
  refine ⟨?_, fun i now closed => closed.stays same quiet more⟩
  rcases kept with waits | ⟨i, now, closed⟩
  · exact .inl (waits.stays same quiet)
  · exact .inr ⟨i, now, closed.stays same quiet more⟩

private theorem still_turn (kept : (run.shared calls).kept past)
    (same : SameRun run.id past.state s) (quiet : turn.writes = false) :
    (run.shared calls).kept (past.after turn s) ∧
      (run.shared calls).grows past (past.after turn s) := by
  refine still kept same ?_ (List.subset_append_left _ _)
  simp [Past.after, quiet]

variable [DecidableEq ι]

/-- The turn that closes the run, or comes too late. -/
private theorem closing_turn (kept : (run.shared calls).kept past) (dated' : now.Representable)
    (told : ⟨i, .clock, now⟩ ∈ past.own i) {applied : Bool}
    (w : dated idAt (run.closing (calls i) now) past.state (.answered (.ok applied)) s) :
    (applied = true ∧ run.Waits past ∧
      run.Closed calls i now (past.after ⟨i, run.closing (calls i) now, .answered (.ok true)⟩ s)) ∨
    (applied = false ∧ SameRun run.id past.state s ∧ ∃ j time, run.Closed calls j time past) := by
  obtain ⟨⟨doc, found, answer, left⟩, -⟩ := MemoryStore.update_answered w
  rcases kept with waits | ⟨j, time, closed⟩
  · cases found.symm.trans waits.stored
    rw [applyTo?_open] at answer left
    let turn : Turn ι := ⟨i, run.closing (calls i) now, .answered (.ok true)⟩
    have writes : turn.writes = true := rfl
    have wrote : (past.after turn s).turns.filter (·.writes) = [turn] := by
      simp [Past.after, waits.quiet, writes]
    exact .inl ⟨answer, waits, left, List.mem_append_left _ (Past.mem_own.mp told).1, dated', turn,
      rfl, wrote⟩
  · cases found.symm.trans closed.stored
    rw [applyTo?_closed] at answer left
    exact .inr ⟨answer, left.trans found.symm, j, time, closed⟩

/-- Calls keep what they rely on. -/
theorem shared_holds (run : OpenRun) (calls : ι → Close) (idAt : Nat → String) :
    (run.shared calls).Holds (dated idAt) (SameRun run.id) (run.policy calls) where
  drifts past s kept same := still kept same rfl (List.Subset.refl _)
  turn past i effect reply s kept permitted w := by
    cases quiet : (⟨i, effect, reply⟩ : Turn ι).writes with
    | false =>
      have same : s = past.state := MemoryStore.eq_of_quiet w.1 quiet
      subst same
      exact still_turn kept rfl quiet
    | true =>
      rcases permitted with rfl | rfl | ⟨now, rfl, dated', told⟩
      · cases quiet
      · cases quiet
      · rcases reply with (e | applied) | _ | crash
        · cases quiet
        · have wrote : applied = true := quiet
          subst wrote
          rcases closing_turn kept dated' told w with ⟨-, waits, closed⟩ | ⟨refused, -⟩
          · refine ⟨.inr ⟨i, now, closed⟩, fun j time earlier => ?_⟩
            exact absurd waits earlier.not_waits
          · cases refused
        · cases quiet
        · cases quiet

/-- A call has not written so far. -/
def Quiet (past : Past ι MemoryStore) (i : ι) : Prop := ∀ turn ∈ past.own i, turn.writes = false

/-- What a call that does not close the run stops with: the store failed it, or the run is closed. -/
def Halts (run : OpenRun) (calls : ι → Close) (i : ι) (stop : Stop LifecycleError)
    (past : Past ι MemoryStore) : Prop :=
  Quiet past i ∧ ((stop.IsOfStore ∧ ∃ turn ∈ past.own i, turn.fails = true) ∨
    ∃ j now, run.Closed calls j now past ∧
      stop = .failed (.alreadyTerminal run.id (calls j).status.name))

/-- What a call reads: the run as it waits, or as one has closed it. -/
def Reads (run : OpenRun) (calls : ι → Close) (past : Past ι MemoryStore) (e : ActionExecution)
    (later : Past ι MemoryStore) : Prop :=
  (run.Waits past ∧ e.status = run.e.status) ∨
    ∃ j now, run.Closed calls j now later ∧ e.status = (calls j).status

variable {effect : Effect} {reply : effect.Reply} {engine : Engine}

/-- A turn of a call that does not write, and those of the others behind it. -/
private theorem Quiet.next (quiet : Quiet past i)
    (silent : (⟨i, effect, reply⟩ : Turn ι).writes = false)
    (own : later.own i = past.own i ++ [⟨i, effect, reply⟩]) : Quiet later i := by
  intro turn mine
  rw [own, List.mem_append, List.mem_singleton] at mine
  rcases mine with before | rfl
  · exact quiet turn before
  · exact silent

private theorem halts_of_fails {stop : Stop LifecycleError} (ofStore : stop.IsOfStore)
    (quiet : Quiet past i) (fails : (⟨i, effect, reply⟩ : Turn ι).fails = true)
    (silent : (⟨i, effect, reply⟩ : Turn ι).writes = false)
    (own : later.own i = past.own i ++ [⟨i, effect, reply⟩]) : run.Halts calls i stop later :=
  ⟨quiet.next silent own, .inl
    ⟨ofStore, _, own ▸ List.mem_append_right _ (List.mem_singleton_self _), fails⟩⟩

variable (valid : ∀ i, ∀ r ∈ (calls i).results, r.Storable)
include valid

omit [DecidableEq ι] in
/-- What is stored can be read. -/
private theorem stored_reads (kept : (run.shared calls).kept past)
    (grows : (run.shared calls).grows past later) : ∃ doc e, past.state.run? run.id = some doc ∧
      doc.decodeAs ActionExecution.decode = .ok e ∧ run.Reads calls past e later := by
  rcases kept with waits | ⟨j, now, closed⟩
  · exact ⟨run.doc, _, waits.stored, run.shown.decode_reread run.storable, .inl ⟨waits, rfl⟩⟩
  · have storable : ((calls j).closed run.e now).Storable := by
      refine ⟨valid j, run.storable.startedAt, ?_⟩
      rintro _ ⟨⟩
      exact closed.dated
    have decoded := (run.shows_closedBy (calls j) now).decode_reread storable
    exact ⟨_, _, closed.stored, decoded, .inr ⟨j, now, grows j now closed, rfl⟩⟩

private theorem load_reads (quiet : Quiet past i) (kept : (run.shared calls).kept past) :
    Work.Meets ((run.shared calls).world (dated idAt) i) (run.policy calls i)
      (fun e later => run.Reads calls past e later ∧ Quiet later i ∧ (run.shared calls).kept later)
      (run.Halts calls i) (engine.load run.id) past := by
  refine Connection.meets_askThen (.inl rfl) (fun _ _ twins => False.elim twins)
    fun reply later w => ?_
  have own := Sharing.own_of_world w
  obtain ⟨s, w, -, grows, elsewhere⟩ := w
  rcases reply with (e | found) | _ | crash
  · exact halts_of_fails trivial quiet rfl rfl own
  · obtain ⟨rfl, -⟩ := MemoryStore.get_answered w
    have grown := (run.shared calls).trans _ _ _ grows elsewhere.grows
    obtain ⟨doc, e, stored, decoded, reads⟩ := stored_reads valid kept grown
    rw [stored]
    change Work.Meets _ _ _ _ (Work.ofExcept ((doc.decodeAs ActionExecution.decode).mapError _)) later
    rw [decoded]
    exact Work.meets_pure.mpr ⟨reads, quiet.next rfl own, elsewhere.kept⟩
  · exact halts_of_fails trivial quiet rfl rfl own
  · exact halts_of_fails trivial quiet rfl rfl own

omit valid in
private theorem now_told (quiet : Quiet past i) :
    Work.Meets ((run.shared calls).world (dated idAt) i) (run.policy calls i)
      (fun now later => now.Representable ∧ ⟨i, .clock, now⟩ ∈ later.own i ∧ Quiet later i ∧
        (run.shared calls).kept later)
      (run.Halts calls i) (Work.ofProgram Program.now) past := by
  refine Work.meets_ofProgram ?_
  unfold Program.now Program.perform Program.Meets
  refine ⟨.inr (.inl rfl), fun _ _ twins => False.elim twins, fun now later w => ?_⟩
  have own := Sharing.own_of_world w
  obtain ⟨s, ⟨-, dated'⟩, -, -, elsewhere⟩ := w
  refine ⟨dated', ?_, quiet.next rfl own, elsewhere.kept⟩
  rw [own]
  exact List.mem_append_right _ (List.mem_singleton_self _)

omit valid in
private theorem update_settles (quiet : Quiet past i) (kept : (run.shared calls).kept past)
    (dated' : now.Representable) (told : ⟨i, .clock, now⟩ ∈ past.own i) :
    Work.Meets ((run.shared calls).world (dated idAt) i) (run.policy calls i)
      (fun applied later => if applied then run.Closed calls i now later else
        Quiet later i ∧ (run.shared calls).kept later ∧ ∃ j time, run.Closed calls j time later)
      (run.Halts calls i) (engine.executions.update .actionExecutions run.id
        ((calls i).update run.e.status now)) past := by
  refine Connection.meets_ask (.inr (.inr ⟨now, rfl, dated', told⟩))
    (fun _ _ twins => False.elim twins) fun reply later w => ?_
  have own := Sharing.own_of_world w
  obtain ⟨s, w, -, grows, elsewhere⟩ := w
  rcases reply with (e | applied) | _ | crash
  · exact halts_of_fails trivial quiet rfl rfl own
  · rcases closing_turn kept dated' told w with ⟨rfl, -, closed⟩ | ⟨rfl, -, j, time, closed⟩
    · exact elsewhere.grows i now closed
    · have still := elsewhere.grows j time (grows j time closed)
      exact ⟨quiet.next rfl own, elsewhere.kept, j, time, still⟩
  · exact halts_of_fails trivial quiet rfl rfl own
  · exact halts_of_fails trivial quiet rfl rfl own

/-- A call closes the run, or it does not write. -/
theorem finish_settles (quiet : Quiet past i) (kept : (run.shared calls).kept past) :
    Work.Meets ((run.shared calls).world (dated idAt) i) (run.policy calls i)
      (fun status later => status = (calls i).status ∧ ∃ now, run.Closed calls i now later)
      (run.Halts calls i) (engine.finish run.id (calls i).results (calls i).stop) past := by
  refine (load_reads valid quiet kept).bind ?_
  rintro e read ⟨⟨waits, status⟩ | ⟨j, now, closed, status⟩, quiet, kept⟩
  · rw [status, run.isOpen]
    refine (now_told quiet).bind ?_
    rintro now timed ⟨dated', told, quiet, kept⟩
    refine (update_settles quiet kept dated' told).bind ?_
    rintro (_ | _) later settled
    · obtain ⟨quiet, kept, j, time, closed⟩ := settled
      refine (load_reads valid quiet kept).bind ?_
      rintro e last ⟨⟨waits, -⟩ | ⟨j, time, closed, status⟩, quiet, -⟩
      · exact absurd waits closed.not_waits
      · rw [status]
        exact Work.meets_fail.mpr ⟨quiet, .inr ⟨j, time, closed, rfl⟩⟩
    · exact Work.meets_pure.mpr ⟨rfl, now, settled⟩
  · rw [status, (calls j).isTerminal_status]
    exact Work.meets_fail.mpr ⟨quiet, .inr ⟨j, now, closed, rfl⟩⟩

end OpenRun

namespace Engine

/-- A run as it is when it has begun. -/
def begunExecution (action : Action) (occasion : Occasion) (now : Time.Instant) : ActionExecution :=
  { pendingExecution action occasion now with status := .running }

/-- Who opens a run alone relies on nobody else writing it. -/
private def alone (id : String) : Sharing Unit MemoryStore where
  kept _ := True
  grows before after := before.turns <+: after.turns ∧
    (before.turns = after.turns → SameRun id before.state after.state)
  refl past := ⟨List.prefix_refl _, fun _ => rfl⟩
  trans a b c first second := by
    refine ⟨first.1.trans second.1, fun same => ?_⟩
    have back : b.turns <+: a.turns := same ▸ second.1
    have turns : a.turns = b.turns := first.1.eq_of_length_le back.length_le
    exact (second.2 (turns.symm.trans same)).trans (first.2 turns)

private theorem alone_holds (id : String) (idAt : Nat → String) :
    (alone id).Holds (dated idAt) (SameRun id) fun _ => .free where
  turn past i effect reply s _ _ _ := by
    refine ⟨trivial, List.prefix_append _ _, fun same => ?_⟩
    simp [Past.after] at same
  drifts past s _ same := ⟨trivial, List.prefix_refl _, fun _ => same⟩

private theorem alone_still {id : String} {before after : Past Unit MemoryStore}
    (h : (alone id).Elsewhere () before after) :
    after.turns = before.turns ∧ SameRun id before.state after.state := by
  have turns : after.turns = before.turns := by simpa [Past.own] using h.own
  exact ⟨turns, h.grows.2 turns.symm⟩

variable {id : String} {idAt : Nat → String}

/-- What is stored of a run while it is opened. -/
private def Stored (id : String) (e : ActionExecution) (now : Time.Instant)
    (past : Past Unit MemoryStore) : Prop :=
  ⟨(), .clock, now⟩ ∈ past.turns ∧ now.Representable ∧ Holds MemoryStore.run? id e past.state

private theorem Stored.still {e : ActionExecution} {now : Time.Instant}
    {before after : Past Unit MemoryStore} (h : Stored id e now before)
    (elsewhere : (alone id).Elsewhere () before after) : Stored id e now after := by
  obtain ⟨turns, same⟩ := alone_still elsewhere
  obtain ⟨told, dated', held⟩ := h
  exact ⟨turns ▸ told, dated', held.of_eq same⟩

private theorem patch_begins (c : Connection LifecycleError) {e : ActionExecution} {now : Time.Instant}
    (status : ExecutionStatus) {past : Past Unit MemoryStore} (h : Stored id e now past) :
    Work.Meets ((alone id).world (dated idAt) ()) .free
      (fun _ later => Stored id { e with status := status } now later) (fun _ _ => True)
      (c.patch .actionExecutions id [("status", .string status.name)]) past := by
  refine Connection.meets_askThen trivial (fun _ _ twins => False.elim twins)
    fun reply later w => ?_
  obtain ⟨s, w, -, -, elsewhere⟩ := w
  rcases reply with (e | applied) | _ | crash
  · trivial
  · obtain ⟨told, dated', doc, stored, rfl, shown⟩ := h
    obtain ⟨⟨_, found, -, left⟩, -⟩ := MemoryStore.update_answered w
    cases found.symm.trans stored
    let u : DocumentUpdate := { set := [("status", .string status.name)] }
    let patched : Document := { doc with fields := u.applyFields doc.fields }
    exact Work.meets_pure.mpr (.still
      ⟨List.mem_append_left _ told, dated', patched, left, rfl, shown.patchStatus status⟩ elsewhere)
  · trivial
  · trivial

private theorem start_begins (engine : Engine) (action : Action) (occasion : Occasion)
    (past : Past Unit MemoryStore) :
    Work.Meets ((alone id).world (dated idAt) ()) .free
      (fun given later => given = id → ∃ now, Stored id (begunExecution action occasion now) now later)
      (fun _ _ => True) (engine.start action occasion) past := by
  have timed : Work.Meets ((alone id).world (dated idAt) ()) .free
      (fun now later => now.Representable ∧ ⟨(), .clock, now⟩ ∈ later.turns) (fun _ _ => True)
      (Work.ofProgram Program.now : Work LifecycleError Time.Instant) past := by
    refine Work.meets_ofProgram (Program.meets_ask.mpr ?_)
    rintro now later ⟨s, ⟨-, dated'⟩, -, -, elsewhere⟩
    obtain ⟨turns, -⟩ := alone_still elsewhere
    exact ⟨dated', turns ▸ List.mem_append_right _ (List.mem_singleton_self _)⟩
  refine timed.bind ?_
  rintro now timed ⟨dated', told⟩
  let pending := pendingExecution action occasion now
  obtain ⟨fields, encoded⟩ : ∃ fields, Document.fieldsOf pending.encode = .ok fields := ⟨_, rfl⟩
  rw [encoded]
  refine Connection.meets_askThen trivial (fun _ _ twins => False.elim twins)
    fun reply later w => ?_
  obtain ⟨s, w, -, -, elsewhere⟩ := w
  rcases reply with (e | given) | _ | crash
  · trivial
  · obtain ⟨⟨time, stored⟩, -⟩ := MemoryStore.insert_answered w
    by_cases same : given = id
    · subst same
      have inserted : Stored given pending now later :=
        .still ⟨List.mem_append_left _ told, dated', _, stored, rfl, .of_encode encoded⟩ elsewhere
      exact (patch_begins engine.executions .running inserted).bind
        fun _ last begun => Work.meets_pure.mpr fun _ => ⟨now, begun⟩
    · refine (Work.meets_any _ _).bind fun _ _ _ => ?_
      exact Work.meets_pure.mpr fun named => absurd named same
  · trivial
  · trivial

section

variable {ι : Type} {e : ActionExecution} {calls : ι → Close} {turns : List (Turn ι)}
  {store : MemoryStore}

/-- One of the calls has closed the run at a time that it was told, and nobody else wrote. -/
structure Won (id : String) (e : ActionExecution) (calls : ι → Close) (turns : List (Turn ι))
    (store : MemoryStore) (winner : ι) : Prop where
  wrote : ∃ turn : Turn ι, turn.who = winner ∧ turns.filter (·.writes) = [turn]
  stored : ∃ now, ⟨winner, .clock, now⟩ ∈ turns ∧
    Holds MemoryStore.run? id ((calls winner).closed e now) store

/-- What becomes of a run that several calls close, after any turns of theirs. -/
structure ClosesOnce [DecidableEq ι] (idAt : Nat → String) (id : String) (e : ActionExecution)
    (calls : ι → Close) (turns : List (Turn ι))
    (rest : ι → Program (Except (Stop LifecycleError) ExecutionStatus)) (store : MemoryStore) :
    Prop where
  single : ∀ i j status status', rest i = .done (.ok status) → rest j = .done (.ok status') → i = j
  decided : ∀ i result, rest i = .done result →
    (∃ stop, result = .error stop ∧ stop.IsOfStore ∧ ∃ turn ∈ turns, turn.who = i ∧ turn.fails = true) ∨
    ∃ winner, Won id e calls turns store winner ∧ result = if i = winner then
      .ok (calls winner).status else .error (.failed (.alreadyTerminal id (calls winner).status.name))
  succeeded : ∀ i status, rest i = .done (.ok status) →
    status = (calls i).status ∧ Won id e calls turns store i
  stopped : ∀ i stop, rest i = .done (.error stop) →
    ∀ turn ∈ turns, turn.who = i → turn.writes = false
  lasts : ∀ winner more last final, Won id e calls turns store winner →
    Interleaved (dated idAt) (SameRun id) rest store more last final →
    final.run? id = store.run? id ∧ more.filter (·.writes) = []

variable {run : OpenRun} {past : Past ι MemoryStore} {i j : ι} {now time : Time.Instant}

private theorem won_of_closed (h : run.Closed calls i now past) :
    Won run.id run.e calls past.turns past.state i :=
  ⟨h.wrote, now, h.told, _, h.stored, rfl, run.shows_closedBy (calls i) now⟩

private theorem Won.unique (h : Won id e calls turns store i) (h' : Won id e calls turns store j) :
    i = j := by
  obtain ⟨turn, rfl, wrote⟩ := h.wrote
  obtain ⟨turn', rfl, wrote'⟩ := h'.wrote
  cases wrote.symm.trans wrote'
  rfl

private theorem closed_of_won (past : Past ι MemoryStore) (kept : (run.shared calls).kept past)
    (h : Won run.id run.e calls past.turns past.state i) : ∃ now, run.Closed calls i now past := by
  rcases kept with waits | ⟨j, now, closed⟩
  · obtain ⟨turn, -, wrote⟩ := h.wrote
    cases wrote.symm.trans waits.quiet
  · cases h.unique (won_of_closed closed)
    exact ⟨now, closed⟩

variable [DecidableEq ι]

private theorem Won.not_quiet (h : Won id e calls past.turns past.state i) :
    ¬OpenRun.Quiet past i := fun quiet => by
  obtain ⟨turn, own, wrote⟩ := h.wrote
  have wrote' : turn ∈ past.turns.filter (·.writes) := wrote ▸ List.mem_singleton_self turn
  rw [List.mem_filter] at wrote'
  have silent := quiet turn (Past.mem_own.mpr ⟨wrote'.1, own⟩)
  rw [wrote'.2] at silent
  cases silent

/-- Of several calls that close a stored run, one does. -/
theorem closesOnce_of_stored (engine : Engine) (run : OpenRun)
    (valid : ∀ i, ∀ r ∈ (calls i).results, r.Storable)
    {rest : ι → Program (Except (Stop LifecycleError) ExecutionStatus)} {s : MemoryStore}
    (stored : s.run? run.id = some run.doc)
    (ran : Interleaved (dated idAt) (SameRun run.id)
      (fun i => (engine.finish run.id (calls i).results (calls i).stop).run) s turns rest store) :
    ClosesOnce idAt run.id run.e calls turns rest store := by
  let promised (i : ι) := Work.Promise
    (fun status later => status = (calls i).status ∧ ∃ now, run.Closed calls i now later)
    (run.Halts calls i)
  have holds := run.shared_holds calls idAt
  have start : (run.shared calls).Pending (dated idAt) (run.policy calls) promised
      (fun i => (engine.finish run.id (calls i).results (calls i).stop).run) ⟨[], s⟩ := by
    refine ⟨.inl ⟨stored, rfl⟩, fun i later elsewhere => ?_⟩
    have quiet : OpenRun.Quiet later i := fun turn mine => by
      rw [elsewhere.own] at mine
      cases mine
    exact OpenRun.finish_settles valid quiet elsewhere.kept
  obtain ⟨pending, -⟩ := ran.pending holds start
  have settled (i : ι) (result : Except (Stop LifecycleError) ExecutionStatus)
      (done : rest i = .done result) : promised i result ⟨turns, store⟩ := pending.ended done
  have succeeded (i : ι) (status : ExecutionStatus) (done : rest i = .done (.ok status)) :
      status = (calls i).status ∧ Won run.id run.e calls turns store i := by
    obtain ⟨same, now, closed⟩ := settled i _ done
    exact ⟨same, won_of_closed closed⟩
  constructor
  case single =>
    intro i j status status' done done'
    exact (succeeded i status done).2.unique (succeeded j status' done').2
  case succeeded => exact succeeded
  case decided =>
    intro i result done
    have promise := settled i result done
    cases result with
    | ok status =>
      obtain ⟨rfl, now, closed⟩ := promise
      exact .inr ⟨i, won_of_closed closed, (if_pos rfl).symm⟩
    | error stop =>
      obtain ⟨quiet, ⟨ofStore, turn, own, fails⟩ | ⟨j, now, closed, rfl⟩⟩ := promise
      · obtain ⟨took, who⟩ := Past.mem_own.mp own
        exact .inl ⟨stop, rfl, ofStore, turn, took, who, fails⟩
      · have other : i ≠ j := by
          rintro rfl
          exact (won_of_closed closed).not_quiet quiet
        exact .inr ⟨j, won_of_closed closed, (if_neg other).symm⟩
  case stopped =>
    intro i stop done turn took who
    obtain ⟨quiet, -⟩ := settled i _ done
    exact quiet turn (Past.mem_own.mpr ⟨took, who⟩)
  case lasts =>
    intro winner more last final won others
    obtain ⟨now, closed⟩ := closed_of_won ⟨turns, store⟩ pending.kept won
    have grown := (others.pending holds pending).2 winner now closed
    refine ⟨grown.stored.trans closed.stored.symm, ?_⟩
    obtain ⟨turn, -, wrote⟩ := closed.wrote
    obtain ⟨turn', -, wrote'⟩ := grown.wrote
    have split : [turn] ++ more.filter (·.writes) = [turn'] := by
      rw [← wrote, ← List.filter_append]
      exact wrote'
    exact (List.cons.inj split).2

end

/-- Of several calls that close a run after it was opened, one does; what is stored is what that one
was given, and the others learn of it. -/
theorem finish_closesOnce {ι : Type} [DecidableEq ι] (engine : Engine) (idAt : Nat → String)
    (action : Action) (occasion : Occasion) (calls : ι → Close)
    (valid : ∀ i, ∀ r ∈ (calls i).results, r.Storable) {s₀ s store : MemoryStore}
    {opening : List (Turn Unit)} {turns : List (Turn ι)}
    {opened : Unit → Program (Except (Stop LifecycleError) String)}
    {rest : ι → Program (Except (Stop LifecycleError) ExecutionStatus)}
    (started : Interleaved (dated idAt) (SameRun id) (fun _ => (engine.start action occasion).run) s₀
      opening opened s)
    (returned : opened () = .done (.ok id))
    (ran : Interleaved (dated idAt) (SameRun id)
      (fun i => (engine.finish id (calls i).results (calls i).stop).run) s turns rest store) :
    ∃ now, ⟨(), .clock, now⟩ ∈ opening ∧
      ClosesOnce idAt id (begunExecution action occasion now) calls turns rest store := by
  have start : (alone id).Pending (dated idAt) (fun _ => .free) _
      (fun _ => (engine.start action occasion).run) ⟨[], s₀⟩ :=
    ⟨trivial, fun _ later _ => start_begins engine action occasion later⟩
  obtain ⟨pending, -⟩ := started.pending (alone_holds id idAt) start
  obtain ⟨now, told, dated', doc, stored, rfl, shown⟩ := pending.ended returned rfl
  let run : OpenRun := ⟨doc, _, shown, .unfinished rfl rfl dated', rfl, rfl⟩
  exact ⟨now, told, closesOnce_of_stored engine run valid stored ran⟩

/-- An engine without tools. -/
def bareEngine : Engine where
  config := {}
  judge _ := .refused none
  secrets _ := none
  tools := ⟨[]⟩

/-- An action that does nothing. -/
def noSteps : Action where
  id := "a"
  workspaceId := "w"
  name := "No steps"
  slug := "no-steps"
  description := none
  trigger := ⟨.manual, none, none, none, none⟩
  conditions := []
  steps := []
  isActive := true
  isSystem := false
  createdBy := none

/-- One call is told that all went well, and the other one that something did not. -/
private def twoCalls : Bool → Close
  | true => ⟨[], none⟩
  | false => ⟨[], some "timed out"⟩

private def opens : Unit → Program (Except (Stop LifecycleError) String) :=
  fun _ => (bareEngine.start noSteps ⟨.manual, none, none⟩).run

private def closes (i : Bool) : Program (Except (Stop LifecycleError) ExecutionStatus) :=
  (bareEngine.finish "#" (twoCalls i).results (twoCalls i).stop).run

private def opened := Program.schedule (MemoryStore.calm Surroundings.marks) [(), (), ()] opens {}

/-- Both calls read the run before one of them writes. -/
private def raced := Program.schedule (MemoryStore.calm Surroundings.marks)
  [true, false, true, false, true, false, false] closes opened.2.2

/-- The call that comes too late is told what the other one made of the run. -/
theorem finish_closesOnce_late : ∃ id now turns rest store,
    rest true = .done (.ok .completed) ∧
    rest false = .done (.error (.failed (.alreadyTerminal id "completed"))) ∧
    ClosesOnce Surroundings.marks id (begunExecution noSteps ⟨.manual, none, none⟩ now) twoCalls turns
      rest store := by
  have started : Interleaved (dated Surroundings.marks) (SameRun "#") opens {} opened.1 opened.2.1
      opened.2.2 := Program.interleaved_schedule MemoryStore.dated_calm rfl
  have ran : Interleaved (dated Surroundings.marks) (SameRun "#") closes opened.2.2 raced.1 raced.2.1
      raced.2.2 := Program.interleaved_schedule MemoryStore.dated_calm rfl
  have returned : (opened.2.1 ()).value? = some (.ok "#") := by decide +kernel
  have first : (raced.2.1 true).value? = some (.ok .completed) := by decide +kernel
  have second : (raced.2.1 false).value? =
      some (.error (.failed (.alreadyTerminal "#" "completed"))) := by
    decide +kernel
  have valid (i : Bool) : ∀ r ∈ (twoCalls i).results, r.Storable := by
    cases i <;> exact nofun
  obtain ⟨now, -, once⟩ := finish_closesOnce bareEngine Surroundings.marks noSteps
    ⟨.manual, none, none⟩ twoCalls valid started (Program.value?_eq_some.mp returned) ran
  exact ⟨"#", now, raced.1, raced.2.1, raced.2.2, Program.value?_eq_some.mp first,
    Program.value?_eq_some.mp second, once⟩

end Engine
end Automation
