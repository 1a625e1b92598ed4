import Automation.Proofs.Engine.StoredRun
import Automation.Proofs.Store.Answers

/-!
A stored run on which several programs work at once: what one operation of the store does to it, be
it that the operation fails, and what the status of the run is in between.
-/
namespace Automation

open Json (Value Members)

namespace MemoryStore

variable {idAt : Nat → String} {store after : MemoryStore} {table : Table} {id : String}

/-- What is stored of a run. -/
def run? (store : MemoryStore) (id : String) : Option Document := store.get? .actionExecutions id

/-- Nobody wrote the run. -/
def SameRun (id : String) (store after : MemoryStore) : Prop := after.run? id = store.run? id

/-- The world of a store in memory whose clock tells times that can be written. -/
def dated (idAt : Nat → String) : World MemoryStore := fun effect store reply after =>
  world idAt effect store reply after ∧ match effect, reply with
    | .clock, time => time.Representable
    | .store _, _ | .exchange _ _, _ => True

/-- A store that does all it is asked, with a clock that stands still. -/
def calm (idAt : Nat → String) : Program.Environment MemoryStore
  | .store op, store =>
    let (answer, store) := store.perform ⟨idAt, ⟨0, 0⟩⟩ op
    (.answered answer, store)
  | .exchange _ _, store => (.unreachable, store)
  | .clock, store => (⟨0, 0⟩, store)

theorem dated_calm (effect : Effect) (store : MemoryStore) :
    dated idAt effect store (calm idAt effect store).1 (calm idAt effect store).2 := by
  cases effect with
  | store op => exact ⟨.inr ⟨⟨0, 0⟩, rfl, rfl⟩, trivial⟩
  | exchange request deadline => exact ⟨rfl, trivial⟩
  | clock =>
    have epoch : Time.Instant.Representable ⟨0, 0⟩ := ⟨by decide, .inl (by decide)⟩
    exact ⟨rfl, epoch⟩

theorem get_answered {found : Option Document}
    (w : dated idAt (.store (.get .actionExecutions id)) store (.answered (.ok found)) after) :
    found = store.run? id ∧ after = store := get_performed w.1

theorem insert_answered {fields : Members} {given : String}
    (w : dated idAt (.store (.insert .actionExecutions fields)) store (.answered (.ok given)) after) :
    (∃ time, after.run? given = some ⟨given, time, Document.withoutSystemFields fields⟩) ∧
      ∀ other ≠ given, after.run? other = store.run? other := by
  obtain ⟨now, told⟩ := performed w.1
  cases told
  refine ⟨store.get?_insert ⟨idAt, now⟩ .actionExecutions fields, fun other ne => ?_⟩
  have noId := Document.get?_withoutSystemFields_id fields
  simp only [noId] at ne ⊢
  exact get?_place_of_ne (Ne.symm ne)

theorem update_answered {u : DocumentUpdate} {applied : Bool}
    (w : dated idAt (.store (.update .actionExecutions id u)) store (.answered (.ok applied)) after) :
    (∃ doc, store.run? id = some doc ∧ applied = (u.applyTo? doc).isSome ∧
      after.run? id = some ((u.applyTo? doc).getD doc)) ∧
      ∀ other ≠ id, after.run? other = store.run? other := by
  obtain ⟨now, told⟩ := performed w.1
  cases found : store.get? .actionExecutions id with
  | none => simp [perform, MemoryStore.update, found] at told
  | some doc =>
    have named : doc.id = id := (mem_of_get? found).2
    cases changed : u.applyTo? doc with
    | none =>
      simp only [perform, MemoryStore.update, found, changed] at told
      cases told
      exact ⟨⟨doc, found, by rw [changed]; rfl, by rw [changed]; exact found⟩, fun _ _ => rfl⟩
    | some new =>
      have same : new.id = id := by rw [DocumentUpdate.eq_of_applyTo? changed, named]
      simp only [perform, MemoryStore.update, found, changed] at told
      cases told
      refine ⟨⟨doc, found, by rw [changed]; rfl, ?_⟩, fun other ne => ?_⟩
      · rw [changed, Option.getD_some, ← same]
        exact store.get?_place .actionExecutions new
      · exact get?_place_of_ne (same ▸ Ne.symm ne)

end MemoryStore

namespace Engine

/-- The run reports to have completed. -/
def Completes (program : Program (Except (Stop LifecycleError) ExecutionReport)) : Prop :=
  ∃ report, program = .done (.ok report) ∧ report.status = .completed

/-- What a run that has ended reports of itself. -/
def status? (program : Program (Except (Stop LifecycleError) ExecutionReport)) :
    Option ExecutionStatus := program.value?.bind fun result => result.toOption.map (·.status)

theorem completes_of_status {program : Program (Except (Stop LifecycleError) ExecutionReport)}
    (h : status? program = some .completed) : Completes program := by
  obtain ⟨result, ended, reported⟩ := Option.bind_eq_some_iff.mp h
  cases result with
  | error stop => cases reported
  | ok report => exact ⟨report, Program.value?_eq_some.mp ended, Option.some.inj reported⟩

end Engine
end Automation
