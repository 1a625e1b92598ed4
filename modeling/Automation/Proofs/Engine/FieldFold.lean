import Automation.Proofs.Engine.ClosingOnce
import Automation.Proofs.Engine.FieldRuns
import Automation.Proofs.Step.Spelling
import Mathlib.Data.List.Forall2
import Mathlib.Logic.Function.Basic

/-!
Steps that change keys of records are updates of maps. What a sequence of them makes of the data of the
records of a workspace is a fold over the steps, up to the first one that cannot be done, and nothing else
of the records changes but the time of their last change.
-/
namespace Automation

open Json (Value Members)
open Document (dataOf)

/-- What a step makes of the data of a record, and the values that it tells of. -/
structure DataStep where
  data : Members
  value : Option Value
  previous : Option Value

/-- What a command makes of data. A key that is not there counts as null. -/
def FieldCommand.onData (data : Members) : FieldCommand → Except StepError DataStep
  | .update field value =>
    .ok ⟨data.insert field value, some value, some ((data.get? field).getD .null)⟩
  | .clear field => .ok ⟨data.erase field, none, some ((data.get? field).getD .null)⟩
  | .copy source target =>
    let value := (data.get? source).getD .null
    .ok ⟨data.insert target value, some value, none⟩
  | .transform field name target amount decimals => do
    let value ← Transform.applyNamed name ((data.get? field).getD .null) amount decimals
    let key := (Command.nonBlank? target).getD field
    return ⟨data.insert key value, some value, some ((data.get? key).getD .null)⟩

/-- The record that a completed step tells of, and the values. -/
structure FieldReport where
  recordId : String
  value : Option Value
  previous : Option Value

/-- The command of a step that changes a key, and the record that it names. -/
def Step.fieldCommand? (step : Step) : Option (FieldCommand × Option String) :=
  match Command.parse step.type step.id step.config with
  | .ok (.primitive (.field command recordId)) => some (command, recordId)
  | _ => none

theorem Step.Spells.fieldCommand?_eq {step : Step} {command : FieldCommand} {recordId : Option String}
    (h : step.Spells command recordId) : step.fieldCommand? = some (command, recordId) := by
  rw [fieldCommand?, h.parse]

/-- What a command makes of the data of records by id: of which record, and what. It is nothing if there is
no such record or the transform fails. -/
def FieldCommand.onRecords? (command : FieldCommand) (id? : Option String)
    (data : String → Option Members) : Option (String × DataStep) := do
  let id ← id?
  let members ← data id
  let made ← (command.onData members).toOption
  return (id, made)

/-- The record is the one that is named, or else that of the run. -/
def Step.onRecords? (step : Step) (subject : Option String) (data : String → Option Members) :
    Option (String × DataStep) := do
  let (command, recordId) ← step.fieldCommand?
  command.onRecords? (Command.nonBlank? recordId <|> subject) data

/-- What is left when steps are done one after another: the data, what the steps tell, and whether one
could not be done, which is the last one then. -/
structure FieldFold where
  data : String → Option Members
  reports : List FieldReport
  stopped : Bool

def FieldFold.ofSteps (subject : Option String) :
    (String → Option Members) → List Step → FieldFold
  | data, [] => ⟨data, [], false⟩
  | data, step :: rest =>
    match step.onRecords? subject data with
    | none => ⟨data, [], true⟩
    | some (id, made) =>
      let others := ofSteps subject (Function.update data id (some made.data)) rest
      ⟨others.data, ⟨id, made.value, made.previous⟩ :: others.reports, others.stopped⟩

/-- The data of the records of a workspace. Data that is no object counts as none. -/
def MemoryStore.dataIn (store : MemoryStore) (workspaceId : String) (id : String) : Option Members :=
  ((store.get? .records id).filter (·.inWorkspace workspaceId)).map fun doc => dataOf doc.fields

/-- An output that tells what is reported, and of values nothing else. -/
structure FieldReport.ToldBy (report : FieldReport) (output : Value) : Prop where
  recordId : output.member? "recordId" = some (.string report.recordId)
  value : output.member? "value" = report.value
  previous : output.member? "previousValue" = report.previous

/-- A record with at most its data and the time of its last change replaced. -/
structure Document.SameBut (doc after : Document) : Prop where
  id : after.id = doc.id
  creationTime : after.creationTime = doc.creationTime
  fields : ∀ name, name ≠ "data" → name ≠ "updatedAt" →
    after.fields.get? name = doc.fields.get? name

/-- Of records, at most the data and the times of the last changes of some differ, and of other tables only
the audit log does. -/
structure MemoryStore.KeepsBut (changed : List String) (store after : MemoryStore) : Prop where
  records : List.Forall₂ (fun doc doc' => doc.SameBut doc' ∧ (doc.id ∉ changed → doc' = doc))
    (store.docs .records) (after.docs .records)
  others : ∀ table, table ≠ .records → table ≠ .auditLogs → after.docs table = store.docs table

/-- There is data just of the records that are found in the workspace. -/
theorem MemoryStore.dataIn_eq {ε : Type} (store : MemoryStore) (c : Connection ε)
    (workspaceId id : String) : store.dataIn workspaceId id =
      (store.requiredIn c workspaceId .records id).toOption.map fun doc => dataOf doc.fields := by
  rw [dataIn, requiredIn]
  cases store.get? .records id with
  | none => rfl
  | some doc =>
    by_cases own : doc.inWorkspace workspaceId
    · simp [own, Except.toOption]
    · simp [own, Except.toOption]

theorem MemoryStore.get?_of_requiredIn {ε : Type} {store : MemoryStore} {c : Connection ε}
    {workspaceId id : String} {doc : Document}
    (found : store.requiredIn c workspaceId .records id = .ok doc) :
    store.get? .records id = some doc ∧ doc.inWorkspace workspaceId := by
  rw [requiredIn] at found
  split at found
  · cases found
  · next stored =>
    split at found
    · next own =>
      cases found
      exact ⟨stored, own⟩
    · cases found

section Keeps

theorem Document.SameBut.refl (doc : Document) : doc.SameBut doc := ⟨rfl, rfl, fun _ _ _ => rfl⟩

theorem Document.SameBut.trans {doc mid after : Document} (first : doc.SameBut mid)
    (second : mid.SameBut after) : doc.SameBut after where
  id := second.id.trans first.id
  creationTime := second.creationTime.trans first.creationTime
  fields name data stamp := (second.fields name data stamp).trans (first.fields name data stamp)

theorem Document.SameBut.inWorkspace {doc after : Document} (h : doc.SameBut after)
    (workspaceId : String) : after.inWorkspace workspaceId = doc.inWorkspace workspaceId := by
  have plain : Text.splitOnce '.' "workspaceId" = none := by decide +kernel
  simp only [Document.inWorkspace, Document.workspaceId?, Document.getText?, Document.get?, plain,
    h.fields "workspaceId" (by decide) (by decide)]

private theorem forall₂_place {R : Document → Document → Prop} (refl : ∀ doc, R doc doc)
    {old new : Document} {docs : List Document} (found : docs.find? (·.id == new.id) = some old)
    (h : R old new) : List.Forall₂ R docs (MemoryStore.place new docs) := by
  induction docs with
  | nil => cases found
  | cons doc rest ih =>
    rw [MemoryStore.place]
    by_cases here : doc.id = new.id
    · rw [List.find?_cons_of_pos (by simpa using here)] at found
      cases found
      rw [if_pos here]
      exact .cons h (List.forall₂_same.mpr fun doc _ => refl doc)
    · rw [List.find?_cons_of_neg (by simpa using here)] at found
      rw [if_neg here]
      exact .cons (refl doc) (ih found)

private theorem forall₂_trans {R S T : Document → Document → Prop}
    (through : ∀ doc mid after, R doc mid → S mid after → T doc after) {docs mids afters : List Document}
    (first : List.Forall₂ R docs mids) (second : List.Forall₂ S mids afters) :
    List.Forall₂ T docs afters := by
  induction first generalizing afters with
  | nil =>
    cases second
    exact .nil
  | cons h _ ih =>
    cases second with
    | cons h' rest => exact .cons (through _ _ _ h h') (ih rest)

namespace MemoryStore.KeepsBut

theorem refl (store : MemoryStore) : KeepsBut [] store store where
  records := List.forall₂_same.mpr fun doc _ => ⟨.refl doc, fun _ => rfl⟩
  others _ _ _ := rfl

theorem trans {changed changed' : List String} {store mid after : MemoryStore}
    (first : KeepsBut changed store mid) (second : KeepsBut changed' mid after) :
    KeepsBut (changed ++ changed') store after where
  records := forall₂_trans (fun doc mid after h h' => ⟨h.1.trans h'.1, fun outside => by
    rw [List.mem_append, not_or] at outside
    have same := h.2 outside.1
    rw [h'.2 (same ▸ outside.2), same]⟩) first.records second.records
  others table other log := (second.others table other log).trans (first.others table other log)

end MemoryStore.KeepsBut

/-- Where a record is replaced, its data is that of the new one. -/
theorem MemoryStore.dataIn_place {store after : MemoryStore} {workspaceId id : String}
    {record new : Document} (stored : store.get? .records id = some record) (named : record.id = id)
    (records : after.docs .records = place new (store.docs .records)) (same : record.SameBut new)
    (own : record.inWorkspace workspaceId) : after.dataIn workspaceId =
      Function.update (store.dataIn workspaceId) id (some (dataOf new.fields)) := by
  have placed (other : String) : after.get? .records other =
      (store.setDocs .records (place new (store.docs .records))).get? .records other := by
    rw [get?, get?, records, docs_setDocs_self]
  have called : new.id = id := same.id.trans named
  funext other
  by_cases here : other = id
  · subst here
    have found : after.get? .records other = some new := by
      rw [placed, ← called, get?_place]
    rw [Function.update_self, dataIn, found, Option.filter_some, same.inWorkspace, if_pos own]
    rfl
  · rw [Function.update_of_ne here, dataIn, placed, get?_place_of_ne (called ▸ Ne.symm here), dataIn]

end Keeps

namespace Engine

variable {τ : Type} {around : Surroundings τ} {engine : Engine} {ctx : Context} {store : MemoryStore}
  {t : τ}

section Change

/-- What a change makes of data. -/
def DataChange.onData (c : DataChange) (data : Members) : DataStep where
  data := match c.value with
    | some value => data.insert c.change.field value
    | none => data.erase c.change.field
  value := List.lookup "value" c.output
  previous := List.lookup "previousValue" c.output

/-- The change that a command makes of a record is what it makes of its data. -/
theorem onData_eq (command : FieldCommand) (record : Document) :
    command.onData (dataOf record.fields) =
      (FieldCommand.change record command).map (·.onData (dataOf record.fields)) := by
  cases command with
  | update field value =>
    simp only [FieldCommand.onData, FieldCommand.change, DataChange.setting, fieldValue_eq]
    rfl
  | clear field =>
    simp only [FieldCommand.onData, FieldCommand.change, fieldValue_eq]
    rfl
  | copy source target =>
    simp only [FieldCommand.onData, FieldCommand.change, DataChange.setting, fieldValue_eq]
    rfl
  | transform field name target amount decimals =>
    simp only [FieldCommand.onData, FieldCommand.change, DataChange.setting, fieldValue_eq]
    cases Transform.applyNamed name (((dataOf record.fields).get? field).getD .null) amount decimals with
    | error e => rfl
    | ok value => rfl

/-- A step tells the record and what is told of the change, each under its own name. -/
theorem lookup_output {command : FieldCommand} {record : Document} {c : DataChange}
    (made : FieldCommand.change record command = .ok c) (id key : String) :
    (Value.ofPairs (("recordId", .string id) :: c.output)).member? key =
      List.lookup key (("recordId", .string id) :: c.output) := by
  refine Members.member?_ofPairs ?_
  cases command with
  | update field value =>
    cases made
    simp [DataChange.setting]
  | clear field =>
    cases made
    simp
  | copy source target =>
    cases made
    simp [DataChange.setting]
  | transform field name target amount decimals =>
    simp only [FieldCommand.change] at made
    cases value : Transform.applyNamed name (fieldValue record field) amount decimals with
    | error e =>
      rw [value] at made
      cases made
    | ok value' =>
      rw [value] at made
      cases made
      simp [DataChange.setting]

theorem onRecords?_of {command : FieldCommand} {data : String → Option Members} {id : String}
    {members : Members} (held : data id = some members) :
    command.onRecords? (some id) data = (command.onData members).toOption.map (id, ·) := by
  simp only [FieldCommand.onRecords?, Option.bind_eq_bind, Option.bind_some, held]
  cases (command.onData members).toOption <;> rfl

/-- What is made of the data of records is a change of one that is found. -/
theorem exists_change {ε : Type} (c : Connection ε) {command : FieldCommand} {id? : Option String}
    {workspaceId id : String} {made : DataStep}
    (done : command.onRecords? id? (store.dataIn workspaceId) = some (id, made)) :
    id? = some id ∧ ∃ record change, store.requiredIn c workspaceId .records id = .ok record ∧
      FieldCommand.change record command = .ok change ∧ change.onData (dataOf record.fields) = made := by
  obtain ⟨id', target, done⟩ := Option.bind_eq_some_iff.mp done
  obtain ⟨members, held, done⟩ := Option.bind_eq_some_iff.mp done
  obtain ⟨made', read, done⟩ := Option.bind_eq_some_iff.mp done
  cases done
  rw [store.dataIn_eq c] at held
  cases found : store.requiredIn c workspaceId .records id with
  | error e =>
    rw [found] at held
    cases held
  | ok record =>
    rw [found] at held
    cases held
    rw [onData_eq] at read
    cases changed : FieldCommand.change record command with
    | error e =>
      rw [changed] at read
      cases read
    | ok change =>
      rw [changed] at read
      cases read
      exact ⟨target, record, change, rfl, changed, rfl⟩

theorem sameBut_update (record : Document) (c : DataChange) (now : Time.Instant) :
    record.SameBut { record with fields := (c.update now).applyFields record.fields } where
  id := rfl
  creationTime := rfl
  fields name data stamp := by
    rw [c.applyFields_update, Members.get?_insert_of_ne _ _ stamp.symm, Document.get?_putData data]

theorem dataOf_update (record : Document) (c : DataChange) (now : Time.Instant) :
    dataOf ((c.update now).applyFields record.fields) = (c.onData (dataOf record.fields)).data := by
  have other (fields : Members) (stamp : Value) :
      dataOf (fields.insert "updatedAt" stamp) = dataOf fields := by
    rw [dataOf, Members.get?_insert_of_ne _ _ (by decide), dataOf]
  rw [c.applyFields_update, other, Document.dataOf_putData]
  rfl

end Change

section Outcome

private def outcomeOf (ctx : Context) : Except (Stop StepError) Value → StepOutcome
  | .ok output => .completed output ctx
  | .error stop => StepOutcome.ofStop stop

private theorem run_fieldOutcome {environment : Program.Environment (MemoryStore × τ)}
    {stepId : String} {command : FieldCommand} {recordId : Option String}
    {result : Except (Stop StepError) Value} {s after : MemoryStore × τ}
    (ran : (engine.changeField ctx stepId command recordId).run.run environment s = (result, after)) :
    (engine.primitiveOutcome ctx stepId (.field command recordId)).run environment s =
      (outcomeOf ctx result, after) := by
  rw [primitiveOutcome, Program.run_bind, runPrimitive, ran]
  cases result <;> rfl

/-- What a step that changes a key comes to is told by its command, if it has one. -/
private theorem runStep_fieldCommand (engine : Engine) {step : Step} (changes : step.type.ChangesField)
    (literal : Template.isLiteral step.config) (ctx : Context) :
    (∃ e, engine.runStep step ctx = pure (.failed e none) ∧ step.fieldCommand? = none) ∨
      ∃ command recordId, step.fieldCommand? = some (command, recordId) ∧
        engine.runStep step ctx =
          engine.primitiveOutcome ctx step.id (.field command recordId) := by
  have same : Template.resolve ctx step.config = step.config := Template.resolve_literal ctx _ literal
  cases parsed : Command.parse step.type step.id step.config with
  | error e =>
    refine .inl ⟨e, ?_, by rw [Step.fieldCommand?, parsed]⟩
    obtain ⟨id, type, name, config, thenSteps, elseSteps, steps⟩ := step
    unfold runStep
    rw [same, parsed]
  | ok command =>
    obtain ⟨command, recordId, rfl⟩ := changes.command parsed
    exact .inr ⟨command, recordId, by rw [Step.fieldCommand?, parsed],
      runStep_primitive (by rw [same, parsed])⟩

end Outcome

section Run

variable (faultless : ∀ op t, (around.fault op t).1 = none)

include faultless

/-- Telling of a change adds to the audit log. -/
private theorem run_audit (engine : Engine) (ctx : Context) (store : MemoryStore) (t : τ)
    (stepId : String) (entry : AuditEntry) : ∃ after t',
    (engine.audit ctx stepId entry).run.run around.environment (store, t) = (.ok (), after, t') ∧
      ∀ table, table ≠ .auditLogs → after.docs table = store.docs table := by
  let entry := { entry with
    actorId := ctx.actorId
    metadata := some (.ofPairs [("executionId", .ofText? ctx.executionId),
      ("stepId", .string stepId)]) }
  suffices written : ∃ result after t',
      (engine.writeAudit entry).run.run around.environment (store, t) = (result, after, t') ∧
        (∀ crash, result ≠ .error (.crashed crash)) ∧
        ∀ table, table ≠ .auditLogs → after.docs table = store.docs table by
    obtain ⟨result, after, t', ran, calm, same⟩ := written
    refine ⟨after, t', ?_, same⟩
    refine (Work.run_ignoring ?_).trans ?_
    · rw [ran]
      exact calm
    · rw [ran]
  rw [writeAudit]
  cases encoded : Document.fieldsOf entry.encode with
  | error e => exact ⟨_, store, t, rfl, nofun, fun _ _ => rfl⟩
  | ok fields =>
    obtain ⟨now, t', asked⟩ :=
      Surroundings.environment_calm (faultless (.insert .auditLogs fields) t) store
    refine ⟨_, _, t', (Work.run_next (Work.run_ofExcept rfl)).trans
      (Work.run_next (Connection.run_answered asked)), nofun, fun table other => ?_⟩
    exact MemoryStore.docs_perform other.symm

/-- What a step does to a record that is there. -/
private theorem run_writeField (engine : Engine) (ctx : Context) (t : τ) {id : String}
    {record : Document} (c : DataChange) (now : Time.Instant)
    (found : store.get? .records id = some record) (stepId : String) (entry : AuditEntry)
    (output : Value) :
    ∃ after t', (do
        let _ ← engine.records.update .records record.id (c.update now)
        engine.audit ctx stepId entry
        return output).run.run around.environment (store, t) = (.ok output, after, t') ∧
      after.docs .records = MemoryStore.place
        { record with fields := (c.update now).applyFields record.fields } (store.docs .records) ∧
      ∀ table, table ≠ .records → table ≠ .auditLogs → after.docs table = store.docs table := by
  obtain rfl : record.id = id := (MemoryStore.mem_of_get? found).2
  let changed : Document := { record with fields := (c.update now).applyFields record.fields }
  let mid := store.setDocs .records (MemoryStore.place changed (store.docs .records))
  obtain ⟨stamp, t₁, asked⟩ := Surroundings.environment_calm
    (faultless (.update .records record.id (c.update now)) t) store
  have updated : store.perform ⟨around.idAt, stamp⟩ (.update .records record.id (c.update now)) =
      (.ok true, mid) := by
    simp only [MemoryStore.perform, MemoryStore.update, found, c.applyTo?_update, mid, changed]
  rw [updated] at asked
  obtain ⟨after, t', told, same⟩ := run_audit faultless engine ctx mid t₁ stepId entry
  refine ⟨after, t', (Work.run_next (Connection.run_answered asked)).trans (Work.run_next told), ?_, ?_⟩
  · rw [same .records (by decide), MemoryStore.docs_setDocs_self]
  · intro table other log
    rw [same table log, MemoryStore.docs_setDocs_of_ne _ _ other]

variable {command : FieldCommand} {recordId : Option String} {id : String} {made : DataStep}

/-- A change of a key is refused where nothing is made of the data. -/
private theorem changeField_refused (engine : Engine)
    (nothing : command.onRecords? (Command.nonBlank? recordId <|> ctx.recordId?)
      (store.dataIn ctx.workspaceId) = none) (stepId : String) :
    ∃ e t', (engine.changeField ctx stepId command recordId).run.run around.environment (store, t) =
      (.error (.failed e), store, t') := by
  rw [changeField]
  cases target : Command.nonBlank? recordId <|> ctx.recordId? with
  | none =>
    rw [targetRecord, targetId, target]
    exact ⟨_, t, rfl⟩
  | some id =>
    obtain ⟨t', looked⟩ := engine.run_targetRecord store (faultless (.get .records id) t) target
    have held := store.dataIn_eq engine.records ctx.workspaceId id
    cases found : store.requiredIn engine.records ctx.workspaceId .records id with
    | error e =>
      rw [found] at looked
      exact ⟨e, t', Work.run_stop looked⟩
    | ok record =>
      rw [found] at looked held
      have refused : (command.onData (dataOf record.fields)).toOption = none := by
        rw [target] at nothing
        exact Option.map_eq_none_iff.mp ((onRecords?_of held).symm.trans nothing)
      rw [onData_eq] at refused
      cases changed : FieldCommand.change record command with
      | ok c =>
        rw [changed] at refused
        cases refused
      | error e =>
        refine ⟨e, t', (Work.run_next looked).trans ?_⟩
        rw [changed]
        rfl

/-- A change of a key is one of the data of its record. -/
private theorem changeField_done (engine : Engine)
    (done : command.onRecords? (Command.nonBlank? recordId <|> ctx.recordId?)
      (store.dataIn ctx.workspaceId) = some (id, made)) (stepId : String) :
    ∃ output after t',
      (engine.changeField ctx stepId command recordId).run.run around.environment (store, t) =
        (.ok output, after, t') ∧
      FieldReport.ToldBy ⟨id, made.value, made.previous⟩ output ∧
      after.dataIn ctx.workspaceId =
        Function.update (store.dataIn ctx.workspaceId) id (some made.data) ∧
      store.KeepsBut [id] after := by
  obtain ⟨target, record, c, found, changed, rfl⟩ := exists_change engine.records done
  obtain ⟨t₁, looked⟩ := engine.run_targetRecord store (faultless (.get .records id) t) target
  rw [found] at looked
  obtain ⟨stored, own⟩ := MemoryStore.get?_of_requiredIn found
  have named : record.id = id := (MemoryStore.mem_of_get? stored).2
  let now := (around.clock t₁).1
  let output : Value := .ofPairs (("recordId", .string record.id) :: c.output)
  obtain ⟨after, t', ran, records, others⟩ := run_writeField faultless engine ctx
    (around.clock t₁).2 c now stored stepId
    { workspaceId := ctx.workspaceId, entityType := "record", entityId := record.id
      action := "record_updated", changes := [c.change] } output
  refine ⟨output, after, t', ?_, ?_, ?_, ?_⟩
  · rw [changeField]
    exact (Work.run_next looked).trans ((Work.run_next (Work.run_ofExcept changed)).trans
      ((Work.run_next (Work.run_ofProgram _)).trans ran))
  · constructor <;> rw [lookup_output changed]
    · rw [named]
      rfl
    · rfl
    · rfl
  · rw [MemoryStore.dataIn_place stored named records (sameBut_update record c now) own,
      dataOf_update]
  · refine ⟨?_, others⟩
    rw [records]
    refine forall₂_place (fun doc => ⟨.refl doc, fun _ => rfl⟩) (named ▸ stored) ?_
    exact ⟨sameBut_update record c now, fun outside => absurd named (by simpa using outside)⟩

variable {step : Step} (changes : step.type.ChangesField) (literal : Template.isLiteral step.config)

include changes literal

/-- A step of which nothing is made fails and changes nothing. -/
private theorem runStep_refused (engine : Engine) (t : τ)
    (nothing : step.onRecords? ctx.recordId? (store.dataIn ctx.workspaceId) = none) :
    ∃ e t', (engine.runStep step ctx).run around.environment (store, t) =
      (.failed e none, store, t') := by
  rcases runStep_fieldCommand engine changes literal ctx with
    ⟨e, ran, -⟩ | ⟨command, recordId, read, ran⟩
  · exact ⟨e, t, by rw [ran]; rfl⟩
  · rw [Step.onRecords?, read] at nothing
    obtain ⟨e, t', stopped⟩ := changeField_refused faultless engine nothing step.id
    exact ⟨e, t', by rw [ran]; exact run_fieldOutcome stopped⟩

/-- Any other step is completed, and does to the data what is made of it. -/
private theorem runStep_done (engine : Engine) (t : τ) {id : String} {made : DataStep}
    (done : step.onRecords? ctx.recordId? (store.dataIn ctx.workspaceId) = some (id, made)) :
    ∃ output after t', (engine.runStep step ctx).run around.environment (store, t) =
        (.completed output ctx, after, t') ∧
      FieldReport.ToldBy ⟨id, made.value, made.previous⟩ output ∧
      after.dataIn ctx.workspaceId =
        Function.update (store.dataIn ctx.workspaceId) id (some made.data) ∧
      store.KeepsBut [id] after := by
  rcases runStep_fieldCommand engine changes literal ctx with
    ⟨e, -, unread⟩ | ⟨command, recordId, read, ran⟩
  · rw [Step.onRecords?, unread] at done
    cases done
  · rw [Step.onRecords?, read] at done
    obtain ⟨output, after, t', changed, told, data, keeps⟩ :=
      changeField_done faultless engine done step.id
    exact ⟨output, after, t', by rw [ran]; exact run_fieldOutcome changed, told, data, keeps⟩

end Run

section Sequence

variable {step : Step} {e : StepError} {after : MemoryStore} {t' : τ}

private theorem runSequence_cons_failed (rest : List Step) {output : Option Value}
    (ran : (engine.runStep step ctx).run around.environment (store, (around.clock t).2) =
      (.failed e output, after, t')) :
    ∃ r ending t'', r.isFailed = true ∧
      (engine.runSequence (step :: rest) ctx).run around.environment (store, t) =
        (⟨[r], ending⟩, after, t'') := by
  refine ⟨.failed step (around.clock t).1 (around.clock t').1 e.message output,
    if e.isFatal then .aborted e else .finished ctx, (around.clock t').2, rfl, ?_⟩
  rw [runSequence]
  change Program.run _ ((engine.runStep step ctx) >>= _) (store, (around.clock t).2) = _
  rw [Program.run_bind, ran]
  rfl

private theorem runSequence_cons_completed (rest : List Step) {output : Value} {next : Context}
    (ran : (engine.runStep step ctx).run around.environment (store, (around.clock t).2) =
      (.completed output next, after, t')) :
    ∃ r t'', r.isFailed = false ∧ r.output = some output ∧
      let others := (engine.runSequence rest (next.withOutput step.id output)).run around.environment
        (after, t'')
      (engine.runSequence (step :: rest) ctx).run around.environment (store, t) =
        (⟨r :: others.1.results, others.1.ending⟩, others.2) := by
  refine ⟨.completed step (around.clock t).1 (around.clock t').1 output, (around.clock t').2, rfl, rfl,
    ?_⟩
  intro others
  rw [runSequence]
  change Program.run _ ((engine.runStep step ctx) >>= _) (store, (around.clock t).2) = _
  rw [Program.run_bind, ran]
  change Program.run _ (engine.runSequence rest (next.withOutput step.id output) >>= _)
    (after, (around.clock t').2) = _
  rw [Program.run_bind]
  rfl

end Sequence

/-- A run of steps that change keys is their fold. -/
private theorem exists_runSequence (engine : Engine) (faultless : ∀ op t, (around.fault op t).1 = none)
    (steps : List Step) (changes : ∀ step ∈ steps, step.type.ChangesField)
    (literal : ∀ step ∈ steps, Template.isLiteral step.config) (ctx : Context) (store : MemoryStore)
    (t : τ) :
    let fold := FieldFold.ofSteps ctx.recordId? (store.dataIn ctx.workspaceId) steps
    ∃ completed failed ending after t',
      (engine.runSequence steps ctx).run around.environment (store, t) =
        (⟨completed ++ failed, ending⟩, after, t') ∧
      after.dataIn ctx.workspaceId = fold.data ∧
      List.Forall₂ (fun r report => r.isFailed = false ∧ ∃ output ∈ r.output, report.ToldBy output)
        completed fold.reports ∧
      (if fold.stopped then ∃ r, failed = [r] ∧ r.isFailed = true else failed = []) ∧
      store.KeepsBut (fold.reports.map (·.recordId)) after := by
  induction steps generalizing ctx store t with
  | nil => exact ⟨[], [], .finished ctx, store, t, by rw [runSequence]; rfl, rfl, .nil, rfl, .refl store⟩
  | cons step rest ih =>
    rw [List.forall_mem_cons] at changes literal
    rw [FieldFold.ofSteps]
    cases made : step.onRecords? ctx.recordId? (store.dataIn ctx.workspaceId) with
    | none =>
      obtain ⟨e, t', ran⟩ := runStep_refused faultless changes.1 literal.1 engine (around.clock t).2
        made
      obtain ⟨r, ending, t'', failed, stopped⟩ := runSequence_cons_failed rest ran
      exact ⟨[], [r], ending, store, t'', stopped, rfl, .nil, ⟨r, rfl, failed⟩, .refl store⟩
    | some made' =>
      obtain ⟨id, made'⟩ := made'
      obtain ⟨output, mid, t', ran, told, data, keeps⟩ := runStep_done faultless changes.1 literal.1
        engine (around.clock t).2 made
      obtain ⟨r, t'', calm, outputs, next⟩ := runSequence_cons_completed rest ran
      -- The context of the later steps differs in the outputs only, which no literal config reads.
      obtain ⟨completed, failed, ending, after, t₂, others, folded, reports, last, keeps'⟩ :=
        ih changes.2 literal.2 (ctx.withOutput step.id output) mid t''
      have same : FieldFold.ofSteps (ctx.withOutput step.id output).recordId?
          (mid.dataIn (ctx.withOutput step.id output).workspaceId) rest =
          FieldFold.ofSteps ctx.recordId?
            (Function.update (store.dataIn ctx.workspaceId) id (some made'.data)) rest :=
        congrArg (FieldFold.ofSteps ctx.recordId? · rest) data
      rw [same] at folded reports last keeps'
      rw [others] at next
      exact ⟨r :: completed, failed, ending, after, t₂, next, folded,
        .cons ⟨calm, output, outputs, told⟩ reports, last, keeps.trans keeps'⟩

/-- In a store without faults, steps that change keys leave the data of the records as their fold has it.
The completed steps tell what the fold reports, one after another, a further step fails just where the fold
stops, and nothing else of the records changes. A step that fails, wherever it is run, changes nothing. The
commands that are folded are those that the configs of the steps spell. -/
theorem runSequence_folds (engine : Engine) (around : Surroundings τ)
    (faultless : ∀ op t, (around.fault op t).1 = none) (steps : List Step)
    (changes : ∀ step ∈ steps, step.type.ChangesField)
    (literal : ∀ step ∈ steps, Template.isLiteral step.config) (ctx : Context) (store : MemoryStore)
    (t : τ) :
    let run := (engine.runSequence steps ctx).run around.environment (store, t)
    let fold := FieldFold.ofSteps ctx.recordId? (store.dataIn ctx.workspaceId) steps
    run.2.1.dataIn ctx.workspaceId = fold.data ∧
    (∃ completed failed, run.1.results = completed ++ failed ∧
      List.Forall₂ (fun r report => r.isFailed = false ∧ ∃ output ∈ r.output, report.ToldBy output)
        completed fold.reports ∧
      (if fold.stopped then ∃ r, failed = [r] ∧ r.isFailed = true else failed = [])) ∧
    store.KeepsBut (fold.reports.map (·.recordId)) run.2.1 ∧
    (∀ step ∈ steps, ∀ ctx store t e output,
      ((engine.runStep step ctx).run around.environment (store, t)).1 = .failed e output →
        ((engine.runStep step ctx).run around.environment (store, t)).2.1 = store) ∧
    ∀ step ∈ steps, ∀ command recordId, step.Spells command recordId →
      step.fieldCommand? = some (command, recordId) := by
  intro run fold
  obtain ⟨completed, failed, ending, after, t', ran, data, reports, last, keeps⟩ :=
    exists_runSequence engine faultless steps changes literal ctx store t
  have run_eq : run = (⟨completed ++ failed, ending⟩, after, t') := ran
  rw [run_eq]
  refine ⟨data, ⟨completed, failed, rfl, reports, last⟩, keeps, ?_,
    fun step _ command recordId spells => spells.fieldCommand?_eq⟩
  intro step mem ctx store t e output refused
  cases made : step.onRecords? ctx.recordId? (store.dataIn ctx.workspaceId) with
  | none =>
    obtain ⟨e', t', ran⟩ := runStep_refused faultless (changes step mem)
      (literal step mem) engine t made
    rw [ran]
  | some made' =>
    obtain ⟨output', after, t', ran, -⟩ := runStep_done faultless (changes step mem)
      (literal step mem) engine t made
    rw [ran] at refused
    cases refused

section

private def pat : Document :=
  ⟨"a", 0, [("data", .object [("", .string "pat")]), ("workspaceId", .string "w")]⟩

/-- Two contacts of `w`, the data of the second of which is no object, and one of another workspace. -/
private def contacts : MemoryStore where
  records := [pat, ⟨"b", 0, [("data", .string "none"), ("workspaceId", .string "w")]⟩,
    ⟨"c", 0, [("data", .object []), ("workspaceId", .string "v")]⟩]

private def aboutPat : Context := .initial "w" none (some (RecordSnapshot.ofDocument pat)) none

private def onField (id : String) (type : StepType) (config : Members) : Step :=
  ⟨id, type, none, .object config, [], [], []⟩

/-- The value without a name becomes that of a name that holds a dot, in capitals. The fifth step names a
record of another workspace. -/
private def capitalise : List Step :=
  [onField "1" .copyField [("sourceField", .string ""), ("targetField", .string "x.y")],
    onField "2" .transformField [("field", .string "x.y"), ("targetField", .string " "),
      ("transform", .string "uppercase")],
    onField "3" .clearField [("field", .string "")],
    onField "4" .updateField [("field", .string "x"), ("recordId", .string "b"), ("value", .bool true)],
    onField "5" .clearField [("field", .string "x"), ("recordId", .string "c")],
    onField "6" .clearField [("field", .string "x.y")]]

/-- The first four steps are done, and the last one never starts. -/
theorem runSequence_folds_capitalise :
    let run := (bareEngine.runSequence capitalise aboutPat).run Surroundings.still.environment
      (contacts, ())
    run.2.1.dataIn "w" "a" = some [("x.y", .string "PAT")] ∧
    run.2.1.dataIn "w" "b" = some [("x", .bool true)] ∧
    (∃ completed failed, run.1.results = completed ++ [failed] ∧ completed.length = 4 ∧
      failed.isFailed = true) ∧
    contacts.KeepsBut ["a", "a", "a", "b"] run.2.1 := by
  let fold := FieldFold.ofSteps aboutPat.recordId? (contacts.dataIn "w") capitalise
  have stopped : fold.stopped = true := by decide +kernel
  have told : fold.reports.map (·.recordId) = ["a", "a", "a", "b"] := by decide +kernel
  obtain ⟨data, ⟨completed, failed, results, reports, last⟩, keeps, -⟩ :=
    runSequence_folds bareEngine Surroundings.still (fun _ _ => rfl) capitalise (by decide)
      (by decide +kernel) aboutPat contacts ()
  change (if fold.stopped then _ else _) at last
  rw [if_pos stopped] at last
  obtain ⟨r, rfl, refused⟩ := last
  have counted : completed.length = 4 := by
    rw [reports.length_eq, ← List.length_map (·.recordId)]
    exact congrArg List.length told
  change contacts.KeepsBut (fold.reports.map (·.recordId)) _ at keeps
  rw [told] at keeps
  refine ⟨?_, ?_, ⟨completed, r, results, counted, refused⟩, keeps⟩
  · exact (congrFun data "a").trans (by decide +kernel)
  · exact (congrFun data "b").trans (by decide +kernel)

end

end Engine
end Automation
