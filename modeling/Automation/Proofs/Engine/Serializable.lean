import Automation.Proofs.Engine.FieldRuns
import Automation.Proofs.Engine.OwnRuns

/-!
Runs at the same time of actions that change keys of records. If none of them writes a key that another
one looks at, each of them comes to what it comes to alone, and they leave the records that they leave
when they run one after another.
-/
namespace Automation

open Json (Value Members)
open MemoryStore (served)
open Program (Interleaved)

/-- All steps change keys, and no run writes a key that another one looks at. -/
structure Independent {ι : Type} (actions : ι → Action) (occasions : ι → Occasion) (V : RecordView) :
    Prop where
  changes : ∀ i, ∀ step ∈ (actions i).steps, step.type.ChangesField
  apart : ∀ i j, i ≠ j → ∀ w ∈ ((actions i).fieldPlan (occasions i) V).writes,
    w.place ∉ ((actions j).fieldPlan (occasions j) V).touches

namespace Engine

/-- Steps that change keys leave stored runs and actions alone. -/
private theorem runSequence_asks_of_changes {engine : Engine} {steps : List Step}
    (changes : ∀ step ∈ steps, step.type.ChangesField) (ctx : Context) :
    (engine.runSequence steps ctx).Asks (Effect.On Table.OfSteps) fun _ => True := by
  have now : Program.now.Asks (Effect.On Table.OfSteps) fun _ => True := Program.asks_now trivial
  induction steps generalizing ctx with
  | nil => trivial
  | cons step rest ih =>
    rw [List.forall_mem_cons] at changes
    have first : (engine.runStep step ctx).Asks (Effect.On Table.OfSteps) fun _ => True := by
      obtain ⟨id, type, name, config, thenSteps, elseSteps, steps⟩ := step
      unfold runStep
      cases parsed : Command.parse type id (Template.resolve ctx config) with
      | error e => trivial
      | ok command =>
        obtain ⟨change, recordId, rfl⟩ := changes.1.command parsed
        have writes : (engine.runPrimitive ctx id (.field change recordId)).Asks
            (Effect.On Table.OfSteps) fun _ => True := by
          refine sufficient_ofSteps.toOrdinary.mutating ?_ (fun _ => sufficient_ofSteps.enter)
            fun _ => sufficient_ofSteps.drop
          cases change <;> rfl
        refine Program.Meets.bind (Work.asks_iff.mp writes) fun result _ _ => ?_
        cases result <;> trivial
    unfold runSequence
    refine now.bind fun _ _ _ => first.bind fun outcome _ _ => ?_
    cases outcome with
    | crashed crash => trivial
    | failed e output => exact now.bind fun _ _ _ => trivial
    | completed output next =>
      exact now.bind fun _ _ _ => (ih changes.2 _).bind fun _ _ _ => trivial

variable {ι : Type}

/-- The runs of actions, each with its occasion. -/
def runs (engine : Engine) (actions : ι → Action) (occasions : ι → Occasion) (i : ι) :
    Program (Except (Stop LifecycleError) ExecutionReport) :=
  (engine.run (actions i) (occasions i)).run

section

variable [DecidableEq ι] {idAt : Nat → String} {engine : Engine} {actions : ι → Action}
  {occasions : ι → Occasion} {store after : MemoryStore} {turns : List (Turn ι)}
  {rest : ι → Program (Except (Stop LifecycleError) ExecutionReport)}

/-- Whatever turns are taken, all runs come to what they come to on their own. -/
private theorem runs_come (unique : ∀ m n, idAt m = idAt n → m = n)
    (independent : Independent actions occasions store.timelessRecords)
    (tidy : RecordView.Tidy (store.get? .records))
    (keyed : ((store.docs .actionExecutions).map (·.id)).Nodup)
    (fresh : ∀ n, store.issued ≤ n → ∀ doc ∈ store.docs .actionExecutions, doc.id ≠ idAt n)
    (ran : Interleaved (served idAt) (fun _ _ => False) (engine.runs actions occasions) store turns rest
      after) :
    let plan i := (actions i).fieldPlan (occasions i) store.timelessRecords
    (∀ i result, rest i = .done result → ∃ report : ExecutionReport, result = .ok report ∧
      report.stepResults.map (·.timeless) = (plan i).results) ∧
    ((∀ i, ∃ result, rest i = .done result) → ∀ order : List ι, order.Nodup → (∀ i, i ∈ order) →
      after.timelessRecords = store.timelessRecords.replay (order.flatMap fun i => (plan i).writes)) := by
  intro plan
  let ids := (store.docs .actionExecutions).map (·.id)
  let V := store.timelessRecords
  let writes i := (plan i).writes
  have own (i : ι) (place : String × String) (touched : place ∈ (plan i).touches) :
      OwnPlace writes i place := fun j other w known same =>
    independent.apart j i other w known (same ▸ touched)
  have begun : (plannedWrites V writes).Pending (served idAt) (plannedPolicy writes)
      (fun i => Work.Promise (fun report later =>
        report.stepResults.map (·.timeless) = (plan i).results ∧
          HasWritten V writes i (writes i) later) fun _ _ => True)
      (engine.runs actions occasions) ⟨[], store⟩ := by
    have start : Past.Replays V writes ⟨[], store⟩ :=
      ⟨tidy, rfl, fun turn known => absurd known List.not_mem_nil⟩
    refine ⟨start, fun i later elsewhere => ?_⟩
    have idle : later.written i = [] := by
      rw [Past.written, elsewhere.own]
      rfl
    exact run_planned (independent.changes i) ⟨elsewhere.kept, idle⟩ (own i) fun w known => known
  have opened : (ownRuns ι idAt ids).Pending (served idAt) ownRunsPolicy
      (fun _ => Work.Promise (fun _ _ => True) fun (_ : Stop LifecycleError) _ => False)
      (engine.runs actions occasions) ⟨[], store⟩ := by
    refine ⟨⟨(List.append_nil _).symm, keyed, fresh⟩, fun i later elsewhere => ?_⟩
    exact (run_served (runSequence_asks_of_changes (independent.changes i))
      (.nothing elsewhere.kept elsewhere.own)).mono (fun _ _ _ => trivial) fun _ _ stops => stops
  obtain ⟨planned, -⟩ := ran.pending plannedWrites_holds begun
  obtain ⟨kept, -⟩ := ran.pending (ownRuns_holds unique) opened
  have ended (i : ι) (result) (done : rest i = .done result) : ∃ report : ExecutionReport,
      result = .ok report ∧ report.stepResults.map (·.timeless) = (plan i).results ∧
        HasWritten V writes i (writes i) ⟨turns, after⟩ := by
    have post := planned.ended done
    have stays := kept.ended done
    cases result with
    | error stop => exact stays.elim
    | ok report => exact ⟨report, rfl, post⟩
  refine ⟨fun i result done => ?_, fun done order distinct all => ?_⟩
  · obtain ⟨report, same, results, -⟩ := ended i result done
    exact ⟨report, same, results⟩
  · refine planned.kept.view_inTurn (MemoryStore.tidy_timelessRecords tidy) ?_ ?_ distinct all
    · exact fun i w known => own i _ (FieldPlan.place_mem_touches known)
    · intro i
      obtain ⟨result, told⟩ := done i
      obtain ⟨_, _, _, h⟩ := ended i result told
      exact h.own

/-- Runs that change keys of records, none of them one that another run looks at, are serializable: in
whatever order they take their turns, each run that ends has the results that it has alone, times aside,
and when all have ended, the records are those that one run after the other leaves, in any order and but
for the times of their last changes. -/
theorem runs_serializable {τ : Type} (around : Surroundings τ) (reliable : around.Reliable)
    (unique : ∀ m n, around.idAt m = around.idAt n → m = n)
    (independent : Independent actions occasions store.timelessRecords)
    (tidy : RecordView.Tidy (store.get? .records))
    (keyed : ((store.docs .actionExecutions).map (·.id)).Nodup)
    (fresh : ∀ n, store.issued ≤ n → ∀ doc ∈ store.docs .actionExecutions, doc.id ≠ around.idAt n)
    (ran : Interleaved (served around.idAt) (fun _ _ => False) (engine.runs actions occasions) store turns
      rest after) (t : τ) :
    (∀ i result, rest i = .done result → ∃ report alone : ExecutionReport, result = .ok report ∧
      ((engine.runs actions occasions i).run around.environment (store, t)).1 = .ok alone ∧
      report.stepResults.map (·.timeless) = alone.stepResults.map (·.timeless)) ∧
    ((∀ i, ∃ result, rest i = .done result) → ∀ order : List ι, order.Nodup → (∀ i, i ∈ order) →
      let one_by_one := Program.inTurn around.environment (engine.runs actions occasions) order (store, t)
      after.timelessRecords = one_by_one.1.timelessRecords) := by
  have come {turns rest after} (ran : Interleaved (served around.idAt) (fun _ _ => False)
      (engine.runs actions occasions) store turns rest after) :=
    runs_come unique independent tidy keyed fresh ran
  obtain ⟨results, records⟩ := come ran
  have begin (drift : MemoryStore → MemoryStore → Prop) : Interleaved (served around.idAt) drift
    (engine.runs actions occasions) store [] (engine.runs actions occasions) (Prod.fst (store, t)) := .begin
  refine ⟨fun i result done => ?_, fun done order distinct all => ?_⟩
  · obtain ⟨report, same, told⟩ := results i result done
    obtain ⟨turns, alone⟩ := (begin _).finish reliable.fits i
    obtain ⟨report', same', told'⟩ := (come alone).1 i _ (Function.update_self ..)
    exact ⟨report, report', same, same', told.trans told'.symm⟩
  · obtain ⟨turns, last, inTurn, ended, -⟩ :=
      (begin _).inTurn reliable.fits distinct fun _ _ => rfl
    rw [records done order distinct all]
    exact ((come inTurn).2 (fun i => ended i (all i)) order distinct all).symm

end

section

private def changeStep (id : String) (type : StepType) (config : List (String × Value)) : Step :=
  ⟨id, type, none, .ofPairs config, [], [], []⟩

/-- One action sets the stage and keeps it under a name with a point, the other one removes the note and
writes the title in capitals. -/
private def twoActions : Fin 2 → Action
  | 0 => { noSteps with
      steps := [changeStep "set" .updateField [("field", .string "stage"), ("value", .string "won")],
        changeStep "keep" .copyField [("sourceField", .string "stage"),
          ("targetField", .string "last.stage")]] }
  | 1 => { noSteps with
      steps := [changeStep "forget" .clearField [("field", .string "note")],
        changeStep "raise" .transformField [("field", .string "title"), ("transform", .string "uppercase"),
          ("targetField", .string "heading")]] }

private def onRecord (_ : Fin 2) : Occasion where
  triggeredBy := .manual
  record := some ⟨"r", 0, none, []⟩
  actorId := none

private def deal : List (String × Value) := [("note", .string "call"), ("title", .string "deal")]

private def oneRecord : MemoryStore where
  records := [⟨"r", 0, .ofList [("workspaceId", .string "w"), ("data", .ofPairs deal)]⟩]

private theorem oneRecord_tidy : RecordView.Tidy (oneRecord.get? .records) := by
  intro id doc known
  have listed : doc ∈ oneRecord.records := (MemoryStore.mem_of_get? known).1
  rw [List.mem_singleton.mp listed]
  refine ⟨Members.sorted_ofList _, fun data read => ?_⟩
  have same : Document.objectData? (.ofList [("workspaceId", .string "w"), ("data", .ofPairs deal)]) =
      some (.ofList deal) := by decide +kernel
  cases same.symm.trans read
  exact Members.sorted_ofList _

private def stepByStep := Program.schedule (MemoryStore.calm Surroundings.marks)
  (List.replicate 20 (List.finRange 2)).flatten (bareEngine.runs twoActions onRecord) oneRecord

/-- Both runs change the record, turn by turn, and no change is lost. -/
theorem runs_serializable_two :
    (stepByStep.2.2.get? .records "r").bind (·.get? "data") = some (.ofPairs
      [("stage", .string "won"), ("last.stage", .string "won"), ("title", .string "deal"),
        ("heading", .string "DEAL")]) ∧
    (∀ i, ∃ report alone : ExecutionReport, stepByStep.2.1 i = .done (.ok report) ∧
      ((bareEngine.runs twoActions onRecord i).run Surroundings.still.environment
        (oneRecord, ())).1 = .ok alone ∧
      report.stepResults.map (·.timeless) = alone.stepResults.map (·.timeless)) ∧
    ∀ order ∈ [[0, 1], [1, 0]], stepByStep.2.2.timelessRecords =
      (Program.inTurn Surroundings.still.environment (bareEngine.runs twoActions onRecord) order
        (oneRecord, ())).1.timelessRecords := by
  have independent : Independent twoActions onRecord oneRecord.timelessRecords :=
    ⟨by decide +kernel, by decide +kernel⟩
  have ran : Interleaved (served Surroundings.marks) (fun _ _ => False)
      (bareEngine.runs twoActions onRecord) oneRecord stepByStep.1 stepByStep.2.1 stepByStep.2.2 :=
    Program.interleaved_schedule MemoryStore.served_calm rfl
  have ended : ∀ i, (stepByStep.2.1 i).value?.isSome := by decide +kernel
  have done (i : Fin 2) : ∃ result, stepByStep.2.1 i = .done result := by
    obtain ⟨result, told⟩ := Option.isSome_iff_exists.mp (ended i)
    exact ⟨result, Program.value?_eq_some.mp told⟩
  obtain ⟨results, records⟩ := runs_serializable .still Surroundings.reliable_still
    Surroundings.marks_unique independent oneRecord_tidy List.nodup_nil nofun ran ()
  refine ⟨by decide +kernel, fun i => ?_, fun order listed => ?_⟩
  · obtain ⟨result, told⟩ := done i
    obtain ⟨report, alone, rfl, same⟩ := results i result told
    exact ⟨report, alone, told, same⟩
  · have complete : order.Nodup ∧ ∀ i, i ∈ order := by
      revert order
      decide
    exact records done order complete.1 complete.2

end

end Engine
end Automation
