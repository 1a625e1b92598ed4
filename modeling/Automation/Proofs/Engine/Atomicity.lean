import Automation.Proofs.Engine.FieldChange
import Automation.Proofs.Engine.ListIntegrity
import Automation.Proofs.Store.Answers

/-!
A step that changes the store does so with its last operation that may fail. So a step that fails has
changed nothing, and one that completes has changed one document; but a record is deleted after its
entries, and some of them may be gone when that fails.
-/
namespace Automation

open Json (Value)

/-- The document that steps of the type change: its table, and how. A deletion changes more than one. -/
def StepType.edit? : StepType → Option (Table × Edit)
  | .updateField | .clearField | .copyField | .transformField | .archiveRecord =>
    some (.records, .updated)
  | .createRecord => some (.records, .inserted)
  | .addToList => some (.listEntries, .inserted)
  | .removeFromList => some (.listEntries, .deleted)
  | .updateListEntry => some (.listEntries, .updated)
  | .deleteRecord | .sendWebhook | .condition | .loop | .callTool | .unknown _ => none

/-- The record that the step is to delete. -/
def Step.deletes? (step : Step) (ctx : Context) : Option String :=
  match Command.parse step.type step.id (Template.resolve ctx step.config) with
  | .ok (.primitive (.deleteRecord recordId)) => (Engine.targetId ctx recordId).toOption
  | _ => none

namespace MemoryStore

/-- The record that an output names is a member of the list that it names. -/
def enlists (store : MemoryStore) (output : Value) : Bool :=
  store.entries.any fun entry => entry.2 = (output.member? "listId", output.member? "recordId")

/-- One document of a table was changed, and nothing else but the audit log. -/
structure Edited (table : Table) (edit : Edit) (store after : MemoryStore) : Prop where
  edit : edit.Makes (store.docs table) (after.docs table)
  others : ∀ other, other ≠ table → other ≠ .auditLogs → after.docs other = store.docs other

/-- The record and all entries that name it are gone, and nothing else is changed but the audit log. -/
structure Removed (recordId : String) (store after : MemoryStore) : Prop where
  stored : store.Has recordId
  record : after.docs .records = (store.docs .records).filter (·.id ≠ recordId)
  entries : after.docs .listEntries =
    (store.docs .listEntries).filter (·.get? "recordId" ≠ some (.string recordId))
  others : ∀ table, table ≠ .records → table ≠ .listEntries → table ≠ .auditLogs →
    after.docs table = store.docs table

/-- Nothing is changed but that entries of the record may be missing. -/
structure Stripped (recordId : Option String) (store after : MemoryStore) : Prop where
  others : ∀ table, table ≠ .listEntries → after.docs table = store.docs table
  fewer : (after.docs .listEntries).Sublist (store.docs .listEntries)
  own : ∀ entry ∈ store.docs .listEntries, entry ∉ after.docs .listEntries →
    ∃ id, recordId = some id ∧ entry.get? "recordId" = some (.string id)

theorem Stripped.refl (recordId : Option String) (store : MemoryStore) :
    Stripped recordId store store where
  others _ _ := rfl
  fewer := .refl _
  own _ known gone := absurd known gone

end MemoryStore

/-- The crashes that the store may come to. -/
def Surroundings.Crashes {τ : Type} (around : Surroundings τ) (c : Crash) : Prop :=
  ∃ op t, (around.fault op t).1 = some (.crashed c)

/-- What is replied to whoever is surrounded so. -/
def Surroundings.replies {τ : Type} (around : Surroundings τ) : World MemoryStore
  | .store op, s, reply, after => MemoryStore.world around.idAt (.store op) s reply after ∧
      ∀ c, reply = .crashed c → around.Crashes c
  | .exchange request deadline, s, reply, after =>
    MemoryStore.world around.idAt (.exchange request deadline) s reply after
  | .clock, s, now, after => MemoryStore.world around.idAt .clock s now after

namespace Engine

open MemoryStore

variable {τ : Type} {around : Surroundings τ} {idAt : Nat → String} {engine : Engine} {ctx : Context}
  {step : Step} {p : Primitive} {s after : MemoryStore} {entries : List Document} {op : StoreOp}
  {entry : op.Answer → AuditEntry} {output : op.Answer → Value} {table : Table} {edit : Edit}

private theorem reading_replies :
    Reading around.idAt around.Crashes around.replies .free where
  reads _ _ _ := trivial
  sighted _ _ _ _ := nofun
  truthful effect s reply after w := by
    cases effect with
    | store op => exact w.1
    | exchange request deadline => exact w
    | clock => exact w
  crashes op s c after w := w.2 c rfl

private theorem replies_environment (effect : Effect) (s : MemoryStore × τ) :
    around.replies effect s.1 (around.environment effect s).1 (around.environment effect s).2.1 := by
  have w := world_environment around effect s
  cases effect with
  | exchange request deadline => exact w
  | clock => exact w
  | store op =>
    refine ⟨w, ?_⟩
    intro c told
    refine ⟨op, s.2, ?_⟩
    obtain ⟨store, t⟩ := s
    simp only [Surroundings.environment, Surroundings.perform] at told
    cases faulty : around.fault op t with
    | mk fault t =>
      rw [faulty] at told
      cases fault with
      | none => cases told
      | some fault =>
        cases fault with
        | crashed crash =>
          cases told
          rfl
        | failed e => cases told
        | stalled => cases told

/-- Whenever the operation is answered it makes the edit. -/
def Does : Edit → StoreOp → Prop
  | .inserted, .insert _ _ => True
  | .updated, .update _ _ u => u.expect = []
  | .deleted, .delete _ _ => True
  | _, _ => False

private theorem makes_of_does (does : Does edit op) {answer : op.Answer} (unissued : s.Unissued idAt)
    (w : world idAt (.store op) s (.answered (.ok answer)) after) :
    edit.Makes (s.docs op.table) (after.docs op.table) := by
  cases op with
  | get table id => cases edit <;> cases does
  | query table q => cases edit <;> cases does
  | insert table fields =>
    cases edit with
    | inserted => exact inserted_of_world unissued w
    | _ => cases does
  | update table id u =>
    cases edit with
    | updated => exact updated_of_world does w
    | _ => cases does
  | delete table id =>
    cases edit with
    | deleted => exact deleted_of_world w
    | _ => cases does

/-- Whatever a step does, unless it deletes a record, it does with one operation. -/
private theorem does_of_intended (intended : Intended ctx s p (.act entries op entry output))
    (edits : p.type.edit? = some (table, edit)) : entries = [] ∧ op.table = table ∧ Does edit op := by
  cases intended with
  | @change command recordId record c now target changes =>
    have type : (Primitive.field command recordId).type.edit? = some (.records, .updated) := by
      cases command <;> rfl
    cases type.symm.trans edits
    exact ⟨rfl, rfl, c.expect_update now⟩
  | create =>
    cases edits
    exact ⟨rfl, rfl, trivial⟩
  | delete => cases edits
  | archive =>
    cases edits
    exact ⟨rfl, rfl, rfl⟩
  | enter =>
    cases edits
    exact ⟨rfl, rfl, trivial⟩
  | leave =>
    cases edits
    exact ⟨rfl, rfl, trivial⟩
  | amend =>
    cases edits
    exact ⟨rfl, rfl, rfl⟩

private theorem member?_output (m : Membership) (entryId : String) {more : List (String × Value)}
    (distinct : (("listId" :: "recordId" :: "entryId" :: more.map (·.1))).Nodup) :
    (m.output entryId more).member? "listId" = some (.string m.listId) ∧
      (m.output entryId more).member? "recordId" = some (.string m.recordId) := by
  unfold Membership.output
  rw [Json.Members.member?_ofPairs (by simpa using distinct),
    Json.Members.member?_ofPairs (by simpa using distinct)]
  exact ⟨rfl, rfl⟩

private theorem enlists_iff {m : Membership} {entryId : String} {more : List (String × Value)}
    (distinct : (("listId" :: "recordId" :: "entryId" :: more.map (·.1))).Nodup) :
    s.enlists (m.output entryId more) = true ↔ ∃ entry ∈ s.docs .listEntries,
      (Query.byText [("listId", m.listId), ("recordId", m.recordId)]).accepts entry = true := by
  obtain ⟨list, record⟩ := member?_output m entryId distinct
  simp only [enlists, MemoryStore.entries, list, record, List.any_map, List.any_eq_true, Query.accepts_byText,
    Function.comp_apply, decide_eq_true_eq, Document.joined, Prod.mk.injEq, List.forall_mem_cons,
    List.not_mem_nil, false_imp_iff, implies_true, and_true]

private theorem head?_query {q : Query} :
    (s.query table { q with limit := some 1 }).head? = ((s.docs table).filter q.accepts).head? := by
  change (((s.docs table).filter q.accepts).take 1).head? = _
  rw [List.head?_take]
  rfl

/-- The output tells whether the record was a member. -/
private theorem enlists_of_membership {listId : String} {recordId : Option String} {m : Membership}
    {entryId : String} {more : List (String × Value)}
    (distinct : (("listId" :: "recordId" :: "entryId" :: more.map (·.1))).Nodup)
    (found : IsMembership ctx s listId recordId m) :
    s.enlists (m.output entryId more) = m.entry.isSome := by
  rw [Bool.eq_iff_iff, enlists_iff distinct, found.entry, head?_query]
  simp

/-- Who tells of something changes the audit log only. -/
private theorem docs_of_told {fields : Json.Members} {reply : StoreReply String}
    (told : around.replies (.store (.insert .auditLogs fields)) s reply after) (table : Table)
    (apart : table ≠ .auditLogs) : after.docs table = s.docs table :=
  docs_of_world told.1 (Ne.symm apart)

private theorem table_of_edit {type : StepType} (edits : type.edit? = some (table, edit)) :
    table ≠ .auditLogs := by
  cases type <;> cases edits <;> exact nofun

/-- There is nothing to do but to add a record to a list that it is a member of already. -/
theorem enlists_of_carried {world : World MemoryStore} {stepId : String} {intent : Intent} {v : Value}
    (intended : Intended ctx s p intent) (carried : Carried world ctx stepId s intent v after) :
    (p.type = .addToList ∧ s.enlists v = true) ↔ intent = .rest v := by
  cases carried with
  | rest =>
    cases intended with
    | stay found is =>
      refine ⟨fun _ => rfl, fun _ => ⟨rfl, ?_⟩⟩
      rw [enlists_of_membership (by simp) found, is]
      rfl
  | act clears does encoded told =>
    refine ⟨?_, nofun⟩
    rintro ⟨adds, enlisted⟩
    cases intended with
    | enter found isnt there =>
      rw [enlists_of_membership (by simp) found, isnt] at enlisted
      cases enlisted
    | @change command => cases command <;> cases adds
    | _ => cases adds

/-- A step that completes, and does not delete a record, has changed one document, unless it had nothing
to do. -/
private theorem edited_of_carried {stepId : String} {intent : Intent} {v : Value}
    (unissued : s.Unissued around.idAt) (intended : Intended ctx s p intent)
    (edits : p.type.edit? = some (table, edit))
    (carried : Carried around.replies ctx stepId s intent v after) :
    if p.type = .addToList ∧ s.enlists v = true then after = s else Edited table edit s after := by
  have idle := enlists_of_carried intended carried
  cases carried with
  | rest =>
    rw [if_pos (idle.mpr rfl)]
  | act clears does encoded told =>
    rw [if_neg fun member => nomatch idle.mp member]
    obtain ⟨rfl, here, makes⟩ := does_of_intended intended edits
    cases clears
    refine ⟨?_, ?_⟩
    · rw [docs_of_told told table (table_of_edit edits), ← here]
      exact makes_of_does makes unissued does.1
    · intro other ne notLog
      rw [docs_of_told told other notLog]
      exact docs_of_world does.1 fun same => ne (same.symm.trans here)

/-- Entries that are deleted are gone, and all else is left. -/
private theorem docs_of_cleared (cleared : Cleared around.replies entries s after)
    (keyed : ((s.docs .listEntries).map (·.id)).Nodup) :
    (∀ other, other ≠ .listEntries → after.docs other = s.docs other) ∧
      after.docs .listEntries = (s.docs .listEntries).filter fun d => d.id ∉ entries.map (·.id) := by
  induction cleared with
  | nil => simp
  | @cons entry rest s next after gone more ih =>
    have removed : next.docs .listEntries = (s.docs .listEntries).filter (·.id != entry.id) := by
      rw [(delete_performed gone.1).2, docs_setDocs_self, eraseP_eq_filter keyed]
    rw [removed] at ih
    obtain ⟨others, left⟩ := ih (keyed.sublist (List.filter_sublist.map _))
    refine ⟨?_, ?_⟩
    · intro other apart
      rw [others other apart, docs_of_world gone.1 (Ne.symm apart)]
    · rw [left, List.filter_filter]
      refine List.filter_congr fun d _ => ?_
      by_cases same : d.id = entry.id <;> simp [same]

/-- The entries that name a record are found by it. -/
private theorem mem_naming {recordId : String} {d : Document} :
    d ∈ s.query .listEntries (.byText [("recordId", recordId)]) ↔
      d ∈ s.docs .listEntries ∧ d.get? "recordId" = some (.string recordId) := by
  change d ∈ (s.docs .listEntries).filter _ ↔ _
  simp [Query.accepts_byText]

private theorem removed_of_carried {stepId : String} {intent : Intent} {v : Value} {recordId : Option String}
    (keyed : s.Keyed) (intended : Intended ctx s (.deleteRecord recordId) intent)
    (carried : Carried around.replies ctx stepId s intent v after) :
    ∃ id, targetId ctx recordId = .ok id ∧ v.member? "recordId" = some (.string id) ∧
      Removed id s after := by
  cases intended with
  | @delete _ record target =>
  cases carried with
  | act clears does encoded told =>
  obtain ⟨others, left⟩ := docs_of_cleared clears (keyed .listEntries)
  obtain ⟨-, dropped⟩ := delete_performed does.1
  refine ⟨record.id, target.named, ?_, ?_⟩
  · rw [Json.Members.member?_ofPairs (by simp)]
    rfl
  refine ⟨Option.isSome_iff_exists.mpr ⟨record, target.stored⟩, ?_, ?_, ?_⟩
  · rw [docs_of_told told .records nofun, dropped, docs_setDocs_self, others .records nofun,
      eraseP_eq_filter (keyed .records)]
    refine List.filter_congr fun d _ => ?_
    by_cases same : d.id = record.id <;> simp [same]
  · rw [docs_of_told told .listEntries nofun, dropped, docs_setDocs .listEntries, if_neg nofun, left]
    refine List.filter_congr fun d known => decide_eq_decide.mpr (not_congr ?_)
    constructor
    · intro listed
      obtain ⟨entry, found, same⟩ := List.mem_map.mp listed
      obtain ⟨here, names⟩ := mem_naming.mp found
      exact List.inj_on_of_nodup_map (keyed .listEntries) here known same ▸ names
    · intro names
      exact List.mem_map_of_mem (mem_naming.mpr ⟨known, names⟩)
  · intro other notRecords notEntries notLog
    rw [docs_of_told told other notLog, dropped, docs_setDocs_of_ne _ _ notRecords,
      others other notEntries]

private theorem stripped_of_abandoned {recordId : Option String} (keyed : s.Keyed)
    (abandoned : Abandoned around.replies ctx s (.deleteRecord recordId) after) :
    Stripped (targetId ctx recordId).toOption s after := by
  cases abandoned with
  | early => exact .refl _ s
  | @late entries done op entry output _ intended part cleared =>
  cases intended with
  | @delete _ record target =>
  obtain ⟨others, left⟩ := docs_of_cleared cleared (keyed .listEntries)
  refine ⟨others, left ▸ List.filter_sublist, ?_⟩
  intro entry known gone
  rw [left, List.mem_filter, decide_eq_true_eq, not_and, not_not] at gone
  obtain ⟨other, removed, same⟩ := List.mem_map.mp (gone known)
  obtain ⟨here, names⟩ := mem_naming.mp (part.subset removed)
  obtain rfl := List.inj_on_of_nodup_map (keyed .listEntries) here known same
  exact ⟨record.id, by rw [target.named]; rfl, names⟩

private theorem eq_of_abandoned (edits : p.type.edit? = some (table, edit))
    (abandoned : Abandoned around.replies ctx s p after) : after = s := by
  cases abandoned with
  | early => rfl
  | late intended part cleared =>
    obtain ⟨rfl, -⟩ := does_of_intended intended edits
    obtain rfl := List.prefix_nil.mp part
    cases cleared
    rfl

private theorem delete_of_type (deletes : p.type = .deleteRecord) :
    ∃ recordId, p = .deleteRecord recordId := by
  cases p with
  | deleteRecord recordId => exact ⟨recordId, rfl⟩
  | field command recordId => cases command <;> cases deletes
  | list command listId recordId data => cases command <;> cases deletes
  | _ => cases deletes

private theorem edited_of_comes {outcome : StepOutcome} (unissued : s.Unissued around.idAt)
    (edits : step.type.edit? = some (table, edit)) :
    Comes around.replies around.Crashes step ctx s outcome after → match outcome with
      | .completed output _ => if step.type = .addToList ∧ s.enlists output = true
          then after = s else Edited table edit s after
      | .failed _ _ => after = s
      | .crashed c => around.Crashes c := by
  intro comes
  cases outcome with
  | crashed c => exact comes
  | failed e output =>
    rcases comes with same | ⟨p, parsed, abandoned⟩
    · exact same
    · exact eq_of_abandoned (Command.type_of_parse parsed ▸ edits) abandoned
  | completed output next =>
    obtain ⟨-, p, intent, parsed, intended, carried⟩ := comes
    have type : p.type = step.type := Command.type_of_parse parsed
    rw [← type] at edits
    dsimp only
    rw [← type]
    exact edited_of_carried unissued intended edits carried

private theorem removed_of_comes {outcome : StepOutcome} (keyed : s.Keyed)
    (deletes : step.type = .deleteRecord) :
    Comes around.replies around.Crashes step ctx s outcome after → match outcome with
      | .completed output _ => ∃ recordId, step.deletes? ctx = some recordId ∧
          output.member? "recordId" = some (.string recordId) ∧ Removed recordId s after
      | .failed _ _ => Stripped (step.deletes? ctx) s after
      | .crashed c => around.Crashes c := by
  have named {recordId : Option String}
      (parsed : Command.parse step.type step.id (Template.resolve ctx step.config) =
        .ok (.primitive (.deleteRecord recordId))) :
      step.deletes? ctx = (targetId ctx recordId).toOption := by
    rw [Step.deletes?, parsed]
  intro comes
  cases outcome with
  | crashed c => exact comes
  | failed e output =>
    rcases comes with same | ⟨p, parsed, abandoned⟩
    · obtain rfl : after = s := same
      exact .refl _ after
    · obtain ⟨recordId, rfl⟩ := delete_of_type ((Command.type_of_parse parsed).trans deletes)
      exact named parsed ▸ stripped_of_abandoned keyed abandoned
  | completed output next =>
    obtain ⟨-, p, intent, parsed, intended, carried⟩ := comes
    obtain ⟨recordId, rfl⟩ := delete_of_type ((Command.type_of_parse parsed).trans deletes)
    obtain ⟨id, target, told, removed⟩ := removed_of_carried keyed intended carried
    exact ⟨id, by rw [named parsed, target]; rfl, told, removed⟩

/-- A step that is to change one document and fails leaves all tables as they were; if it completes, that
document is changed, and nothing else but the audit log, except that a record that is a member of a list
already is not added to it. A record whose deletion fails is left, and so is all else but entries of that
record; if it completes, the record and all entries that name it are gone. -/
theorem runStep_atomic {τ : Type} (engine : Engine) (around : Surroundings τ) (step : Step) (ctx : Context)
    {store : MemoryStore} (t : τ) (keyed : store.Keyed) (unissued : store.Unissued around.idAt) :
    let ran := (engine.runStep step ctx).run around.environment (store, t)
    (∀ table edit, step.type.edit? = some (table, edit) → match ran.1 with
      | .completed output _ => if step.type = .addToList ∧ store.enlists output = true
          then ran.2.1 = store else Edited table edit store ran.2.1
      | .failed _ _ => ran.2.1 = store
      | .crashed c => around.Crashes c) ∧
    (step.type = .deleteRecord → match ran.1 with
      | .completed output _ => ∃ recordId, step.deletes? ctx = some recordId ∧
          output.member? "recordId" = some (.string recordId) ∧ Removed recordId store ran.2.1
      | .failed _ _ => Stripped (step.deletes? ctx) store ran.2.1
      | .crashed c => around.Crashes c) := by
  have comes (mutates : step.type.mutates = true) :
      Comes around.replies around.Crashes step ctx store
        ((engine.runStep step ctx).run around.environment (store, t)).1
        ((engine.runStep step ctx).run around.environment (store, t)).2.1 :=
    (runStep_comes reading_replies mutates).run (s := (store, t)) Prod.fst replies_environment
  refine ⟨?_, ?_⟩
  · intro table edit edits
    refine edited_of_comes unissued edits (comes ?_)
    cases type : step.type <;> rw [type] at edits <;> first | rfl | cases edits
  · intro deletes
    exact removed_of_comes keyed deletes (comes (deletes ▸ rfl))

section

private def aboutRecord : Context := .initial "w" none (some ⟨"r", 0, none, []⟩) none

theorem keyed_enrolled : enrolled.Keyed := by
  intro table
  cases table <;> decide +kernel

theorem unissued_enrolled : enrolled.Unissued Surroundings.marks := by
  intro n _ table doc known
  have plain : ∀ doc ∈ enrolled.docs table, doc.id.toList.head? ≠ some '#' := by
    cases table <;> decide +kernel
  exact Surroundings.marks_new n (plain doc known)

private def isFailed : StepOutcome → Bool
  | .failed _ _ => true
  | .completed _ _ | .crashed _ => false

/-- A deletion that is interrupted leaves the record, and the entry that could not be deleted. -/
theorem runStep_atomic_interrupted :
    let ran := (bareEngine.runStep deletion aboutRecord).run stuck.environment (enrolled, ())
    Stripped (some "r") enrolled ran.2.1 ∧ ran.2.1.listEntries.map (·.id) = ["f", "g"] := by
  have target : deletion.deletes? aboutRecord = some "r" := by decide +kernel
  have atomic := (runStep_atomic bareEngine stuck deletion aboutRecord () keyed_enrolled
    unissued_enrolled).2 rfl
  have failed : isFailed ((bareEngine.runStep deletion aboutRecord).run stuck.environment
      (enrolled, ())).1 = true := by decide +kernel
  refine ⟨?_, by decide +kernel⟩
  rw [target] at atomic
  cases outcome : ((bareEngine.runStep deletion aboutRecord).run stuck.environment (enrolled, ())).1 with
  | failed e output =>
    rw [outcome] at atomic
    exact atomic
  | completed output next =>
    rw [outcome] at failed
    cases failed
  | crashed crash =>
    rw [outcome] at failed
    cases failed

end

end Engine
end Automation
