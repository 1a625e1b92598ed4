import Automation.Engine.Lifecycle
import Automation.Proofs.Decode.Reads
import Automation.Proofs.Json.Canonical
import Automation.Proofs.Store.Update
import Automation.Proofs.Time.Rfc3339

/-!
Runs as they are stored: what is read from a document is the run that was written to it.
-/
namespace Automation

open Decode (except_mapError_ok)
open Json (Value Members)

theorem Time.Instant.decode_encode {t : Time.Instant} (h : t.Representable) :
    Time.Instant.decode (.ofValue t.encode) = .ok t := by
  simp only [Time.Instant.decode, Time.Instant.encode, Decode.Tree.ofValue, Decode.located,
    Time.parseLenient_toText h]
  rfl

theorem ExecutionStatus.decode_name (status : ExecutionStatus) :
    ExecutionStatus.decode (.ofValue (.string status.name)) = .ok status := by
  cases status <;> rfl

theorem TriggeredBy.decode_name (by' : TriggeredBy) :
    TriggeredBy.decode (.ofValue (.string by'.name)) = .ok by' := by
  cases by' <;> rfl

theorem StepStatus.decode_name (status : StepStatus) :
    StepStatus.decode (.ofValue (.string status.name)) = .ok status := by
  cases status <;> rfl

namespace StepResult

/-- The result can be written out and read again. -/
structure Storable (r : StepResult) : Prop where
  output : ∀ v ∈ r.output, v.Canonical
  startedAt : r.startedAt.Representable
  completedAt : r.completedAt.Representable

/-- The result as it is read: an output that is null counts as none. -/
def reread (r : StepResult) : StepResult := { r with output := r.output.filter (!·.isNull) }

/-- Nothing is lost when the result is written out. -/
structure Lossless (r : StepResult) : Prop where
  output : ∀ v ∈ r.output, v.isNull = false ∧ v.Canonical
  startedAt : r.startedAt.Representable
  completedAt : r.completedAt.Representable

theorem Lossless.storable {r : StepResult} (h : r.Lossless) : r.Storable :=
  ⟨fun v hv => (h.output v hv).2, h.startedAt, h.completedAt⟩

theorem Lossless.reread_eq {r : StepResult} (h : r.Lossless) : r.reread = r := by
  have same : r.output.filter (!·.isNull) = r.output := by
    cases there : r.output with
    | none => rfl
    | some v => simp [Option.filter, (h.output v there).1]
  rw [reread, same]

private theorem reads_output {find : String → Option Value} {name : String} {output : Option Value}
    (found : find name = output) (canonical : ∀ v ∈ output, v.Canonical) :
    (Decode.Record.maybe name Decode.value).Reads find (output.filter (!·.isNull)) := by
  cases output with
  | none => exact Decode.Record.reads_maybe (e := id) found nofun
  | some v =>
    refine Decode.Record.reads_withDefault found ?_
    rw [Decode.optional, Decode.isNull_ofValue, Decode.value_ofValue v (canonical v rfl)]
    cases null : v.isNull <;> simp [null, Except.map, Option.filter]

theorem decode_encode {r : StepResult} (h : r.Storable) :
    StepResult.decode (.ofValue r.encode) = .ok r.reread := by
  have found (name : String) := Members.get?_present name r.members (by simp [members])
  refine Decode.Record.Reads.decode ?_ (Members.sorted_ofList _).nodup
  refine ((((((Decode.Record.Reads.map ?_).seq ?_).seq ?_).seq ?_).seq ?_).seq ?_).seq ?_
  · exact Decode.Record.reads_required (found "stepId") rfl
  · exact Decode.Record.reads_required (found "stepType") rfl
  · exact Decode.Record.reads_required (found "status") (StepStatus.decode_name _)
  · exact Decode.Record.reads_required (found "startedAt") (Time.Instant.decode_encode h.startedAt)
  · exact Decode.Record.reads_required (found "completedAt")
      (Time.Instant.decode_encode h.completedAt)
  · exact reads_output (found "output") h.output
  · exact Decode.Record.reads_maybe (found "error") fun _ _ => ⟨rfl, rfl⟩

theorem decode_encodeAll {results : List StepResult} (h : ∀ r ∈ results, r.Storable) :
    Decode.list StepResult.decode (.ofValue (encodeAll results)) = .ok (results.map reread) :=
  Decode.list_ofValue fun r hr => decode_encode (h r hr)

theorem map_reread {results : List StepResult} (h : ∀ r ∈ results, r.Lossless) :
    results.map reread = results :=
  (List.map_congr_left fun r hr => (h r hr).reread_eq).trans (List.map_id _)

end StepResult

namespace ActionExecution

/-- The members of a run but for its id, which the store keeps. -/
def members (e : ActionExecution) : List (String × Option Value) :=
  [("actionId", some (.string e.actionId)), ("workspaceId", some (.string e.workspaceId)),
    ("status", some (.string e.status.name)), ("triggeredBy", some (.string e.triggeredBy.name)),
    ("triggerRecordId", e.triggerRecordId.map .string),
    ("stepResults", some (StepResult.encodeAll e.stepResults)),
    ("initiatorId", e.initiatorId.map .string), ("startedAt", some e.startedAt.encode),
    ("completedAt", e.completedAt.map (·.encode)), ("error", e.error.map .string)]

def names : List String := ["actionId", "workspaceId", "status", "triggeredBy", "triggerRecordId",
  "stepResults", "initiatorId", "startedAt", "completedAt", "error"]

/-- The run can be written out and read again. -/
structure Storable (e : ActionExecution) : Prop where
  stepResults : ∀ r ∈ e.stepResults, r.Storable
  startedAt : e.startedAt.Representable
  completedAt : ∀ t ∈ e.completedAt, t.Representable

/-- A run without results that has not ended can be stored if its beginning can. -/
theorem Storable.unfinished {e : ActionExecution} (bare : e.stepResults = [])
    (unended : e.completedAt = none) (dated : e.startedAt.Representable) : e.Storable where
  stepResults := by simp [bare]
  startedAt := dated
  completedAt := by simp [unended]

/-- The run as it is read. -/
def reread (e : ActionExecution) : ActionExecution :=
  { e with stepResults := e.stepResults.map (·.reread) }

/-- Nothing is lost when the run is written out. -/
structure Lossless (e : ActionExecution) : Prop where
  stepResults : ∀ r ∈ e.stepResults, r.Lossless
  startedAt : e.startedAt.Representable
  completedAt : ∀ t ∈ e.completedAt, t.Representable

theorem Lossless.storable {e : ActionExecution} (h : e.Lossless) : e.Storable :=
  ⟨fun r hr => (h.stepResults r hr).storable, h.startedAt, h.completedAt⟩

end ActionExecution

/-- The document has the members of the run. -/
structure Document.Shows (doc : Document) (e : ActionExecution) : Prop where
  sorted : doc.fields.Sorted
  found : ∀ name ∈ ActionExecution.names, doc.fields.get? name = (e.members.lookup name).join

namespace Document.Shows

open Decode.Record

variable {doc : Document} {e e' : ActionExecution}

private theorem own_names : ∀ name ∈ ActionExecution.names,
    idField ≠ name ∧ creationTimeField ≠ name := by
  decide

/-- The run that a document shows is read from it, with the id of the document. -/
theorem decode_reread (h : doc.Shows e) (storable : e.Storable) :
    doc.decodeAs ActionExecution.decode = .ok { e.reread with id := doc.id } := by
  have found (name : String) (member : name ∈ ActionExecution.names) :
      doc.members.get? name = (e.members.lookup name).join :=
    (get?_members (own_names name member)).trans (h.found name member)
  refine decodeAs_of_reads h.sorted ?_
  refine ((((((((((Reads.map ?_).seq ?_).seq ?_).seq ?_).seq ?_).seq ?_).seq ?_).seq ?_).seq ?_).seq
    ?_).seq ?_
  · exact reads_withDefault doc.get?_members_id rfl
  · exact reads_required (found "actionId" (by decide)) rfl
  · exact reads_required (found "workspaceId" (by decide)) rfl
  · exact reads_required (found "status" (by decide)) (ExecutionStatus.decode_name _)
  · exact reads_required (found "triggeredBy" (by decide)) (TriggeredBy.decode_name _)
  · exact reads_maybe (found "triggerRecordId" (by decide)) fun _ _ => ⟨rfl, rfl⟩
  · exact reads_withDefault (found "stepResults" (by decide))
      (StepResult.decode_encodeAll storable.stepResults)
  · exact reads_maybe (found "initiatorId" (by decide)) fun _ _ => ⟨rfl, rfl⟩
  · exact reads_required (found "startedAt" (by decide))
      (Time.Instant.decode_encode storable.startedAt)
  · exact reads_maybe (found "completedAt" (by decide))
      fun t ht => ⟨rfl, Time.Instant.decode_encode (storable.completedAt t ht)⟩
  · exact reads_maybe (found "error" (by decide)) fun _ _ => ⟨rfl, rfl⟩

theorem decode (h : doc.Shows e) (lossless : e.Lossless) :
    doc.decodeAs ActionExecution.decode = .ok { e with id := doc.id } := by
  rw [h.decode_reread lossless.storable, ActionExecution.reread,
    StepResult.map_reread lossless.stepResults]

/-- The fields that a run is stored with show the run. -/
theorem of_encode {fields : Members} {id : String} {time : Int}
    (ok : fieldsOf e.encode = .ok fields) : Document.Shows ⟨id, time, withoutSystemFields fields⟩ e := by
  have distinct : (((idField, some (.string e.id)) :: e.members).map (·.1)).Nodup := by
    simp [idField, ActionExecution.members]
  obtain ⟨written, stored, sorted, found⟩ := fieldsOf_ofPresent distinct
  cases Except.ok.inj (stored.symm.trans ok)
  refine ⟨sorted_withoutSystemFields sorted, fun name member => ?_⟩
  have own := own_names name member
  rw [get?_withoutSystemFields own, found name own]

/-- An update that sets fields of a document, which then shows another run. -/
private theorem update (h : doc.Shows e) {u : DocumentUpdate} (none : u.unset = [])
    (sorted : u.set.Sorted) (plain : ∀ m ∈ u.set, DocumentUpdate.IsField m.1)
    (changed : ∀ name ∈ ActionExecution.names,
      (u.set.get? name).or (e.members.lookup name).join = (e'.members.lookup name).join) :
    Document.Shows { doc with fields := u.applyFields doc.fields } e' := by
  have merged : u.applyFields doc.fields = doc.fields.merge u.set :=
    DocumentUpdate.applyFields_of_isField none plain
  refine ⟨?_, fun name member => ?_⟩
  · rw [merged]
    exact Members.sorted_merge h.sorted
  · rw [merged, Members.get?_merge sorted.nodup, h.found name member, changed name member]

private theorem isField_written : ∀ name ∈ ["status", "stepResults", "completedAt", "error"],
    DocumentUpdate.IsField name := by
  unfold DocumentUpdate.IsField
  decide +kernel

theorem patchStatus (h : doc.Shows e) (status : ExecutionStatus) :
    let u : DocumentUpdate := { set := [("status", .string status.name)] }
    Document.Shows { doc with fields := u.applyFields doc.fields } { e with status := status } := by
  refine h.update rfl (List.pairwise_singleton ..) ?_ ?_
  · exact List.forall_mem_singleton.mpr (isField_written "status" (by decide))
  · simp only [ActionExecution.names, List.forall_mem_cons]
    exact ⟨rfl, rfl, rfl, rfl, rfl, rfl, rfl, rfl, rfl, rfl, nofun⟩

/-- The update that closes a run writes all that is new about it; an error that is there stays unless
there is another one. -/
theorem closeAgain (h : doc.Shows e) (before status : ExecutionStatus) (results : List StepResult)
    (error : Option String) (now : Time.Instant) : Document.Shows
      { doc with fields := (Engine.closing before status results error now).applyFields doc.fields }
      { e with status := status, stepResults := results, completedAt := some now,
               error := error <|> e.error } := by
  refine h.update rfl (Members.sorted_ofList _) (fun m hm => isField_written m.1 ?_) ?_
  · rcases List.mem_append.mp (Members.mem_ofList hm) with hm | hm
    · have name := List.mem_map_of_mem (f := (·.1)) hm
      simp only [List.map_cons, List.map_nil, List.mem_cons, List.not_mem_nil, or_false] at name ⊢
      tauto
    · cases error with
      | none => cases hm
      | some text => simp_all
  · intro name member
    rw [Engine.closing, Members.get?_ofList (by cases error <;> simp)]
    revert name
    simp only [ActionExecution.names, List.forall_mem_cons]
    cases error with
    | some text => exact ⟨rfl, rfl, rfl, rfl, rfl, rfl, rfl, rfl, rfl, rfl, nofun⟩
    | none => exact ⟨rfl, rfl, rfl, rfl, rfl, rfl, rfl, rfl, rfl, rfl, nofun⟩

/-- A run without an error is closed with the error that is written. -/
theorem close (h : doc.Shows e) (open' : e.error = none) (status : ExecutionStatus)
    (results : List StepResult) (error : Option String) (now : Time.Instant) : Document.Shows
      { doc with fields := (Engine.closing e.status status results error now).applyFields doc.fields }
      { e with status := status, stepResults := results, completedAt := some now, error := error } := by
  have closed := h.closeAgain e.status status results error now
  have same : (error <|> e.error) = error := by
    rw [open']
    cases error <;> rfl
  rwa [same] at closed

/-- A run is closed only with the status that it was read with. -/
theorem isExpected_closing {stored before status : ExecutionStatus} {results : List StepResult}
    {error : Option String} {now : Time.Instant}
    (shown : doc.fields.get? "status" = some (.string stored.name)) :
    (Engine.closing before status results error now).isExpected doc = decide (stored = before) := by
  have whole : doc.get? "status" = doc.fields.get? "status" := by
    have plain : Text.splitOnce '.' "status" = none := (isField_written "status" (by decide)).1
    rw [Document.get?, plain]
  have same : (stored.name == before.name) = decide (stored = before) := by
    cases stored <;> cases before <;> decide
  simp [Engine.closing, DocumentUpdate.isExpected, agrees, whole, shown, Value.same, same]

/-- As long as nobody writes the document, a run may be closed. -/
theorem isExpected (h : doc.Shows e) {status : ExecutionStatus} {results : List StepResult}
    {error : Option String} {now : Time.Instant} :
    (Engine.closing e.status status results error now).isExpected doc = true := by
  rw [isExpected_closing (h.found "status" (by decide)), decide_eq_true rfl]

end Document.Shows
end Automation
