import Automation.Proofs.Engine.FieldChange
import Automation.Proofs.Store.Answers

/-!
Values that are written under single keys of the data of records. Writes of different keys may change
places, and what a key holds does not depend on those of other keys.
-/
namespace Automation

open Json (Value Members)

namespace Document

/-- The data of a record, if it is an object. -/
def objectData? (fields : Members) : Option Members := (fields.get? "data").bind (·.asObject?)

/-- The data that a change of a key leaves. -/
def changedData (key : String) : Option Value → Option Members → Option Members
  | some value, data => some (Members.insert key value (data.getD []))
  | none, data => data.map (Members.erase key)

variable {key other : String} {value value' : Option Value} {fields : Members}

theorem putData_eq (key : String) (value : Option Value) (fields : Members) :
    putData key value fields = (changedData key value (objectData? fields)).elim fields fun data =>
      fields.insert "data" (.object data) := by
  cases value with
  | some value => rfl
  | none =>
    unfold putData objectData?
    dsimp only
    cases fields.get? "data" with
    | none => rfl
    | some data => cases data <;> rfl

theorem objectData?_putData (key : String) (value : Option Value) (fields : Members) :
    objectData? (putData key value fields) = changedData key value (objectData? fields) := by
  rw [putData_eq]
  cases changed : changedData key value (objectData? fields) with
  | some data => simp [objectData?, Value.asObject?]
  | none =>
    cases value with
    | some value => cases changed
    | none => exact Option.map_eq_none_iff.mp changed

private theorem changedData_comm {data : Option Members} (apart : key ≠ other)
    (sorted : ∀ members ∈ data, members.Sorted) :
    changedData key value (changedData other value' data) =
      changedData other value' (changedData key value data) := by
  have start : (data.getD []).Sorted := by
    cases data with
    | none => exact List.Pairwise.nil
    | some members => exact sorted members rfl
  cases value with
  | some value =>
    cases value' with
    | some value' => exact congrArg some (Members.insert_comm apart start)
    | none =>
      cases data with
      | none => simp [changedData, Members.erase, Members.insert, apart]
      | some members => exact congrArg some (Members.erase_insert apart.symm start).symm
  | none =>
    cases value' with
    | some value' =>
      cases data with
      | none => simp [changedData, Members.erase, Members.insert, apart.symm]
      | some members => exact congrArg some (Members.erase_insert apart start)
    | none =>
      cases data with
      | none => rfl
      | some members => exact congrArg some (List.filter_comm ..)

private theorem putData_putData (key other : String) (value value' : Option Value) (fields : Members) :
    putData key value (putData other value' fields) =
      (changedData key value (changedData other value' (objectData? fields))).elim fields fun data =>
        fields.insert "data" (.object data) := by
  rw [putData_eq, objectData?_putData, putData_eq]
  cases changed : changedData other value' (objectData? fields) with
  | none => rfl
  | some first =>
    cases value with
    | some value => exact Members.insert_insert_self
    | none => exact Members.insert_insert_self

/-- What is put under two keys may be put in either order. -/
theorem putData_comm (apart : key ≠ other) (sorted : ∀ data ∈ objectData? fields, data.Sorted) :
    putData key value (putData other value' fields) = putData other value' (putData key value fields) := by
  rw [putData_putData, putData_putData, changedData_comm apart sorted]

theorem sorted_putData (h : fields.Sorted) : (putData key value fields).Sorted := by
  rw [putData_eq]
  cases changedData key value (objectData? fields) with
  | none => exact h
  | some data => exact Members.sorted_insert h

theorem get?_putData {name : String} (other : name ≠ "data") :
    (putData key value fields).get? name = fields.get? name := by
  rw [putData_eq]
  cases changedData key value (objectData? fields) with
  | none => rfl
  | some data => exact Members.get?_insert_of_ne _ _ other.symm

theorem erase_putData (h : fields.Sorted) :
    Members.erase "updatedAt" (putData key value fields) =
      putData key value (Members.erase "updatedAt" fields) := by
  have same : objectData? (Members.erase "updatedAt" fields) = objectData? fields := by
    rw [objectData?, Members.get?_erase_of_ne _ (by decide), objectData?]
  rw [putData_eq, putData_eq, same]
  cases changedData key value (objectData? fields) with
  | none => rfl
  | some data => exact Members.erase_insert (by decide) h

/-- Members are in key order, those of the data too. -/
structure Tidy (doc : Document) : Prop where
  fields : doc.fields.Sorted
  data : ∀ data ∈ objectData? doc.fields, data.Sorted

/-- All of a document but the time of its last change. -/
def timeless (doc : Document) : Document :=
  { doc with fields := Members.erase "updatedAt" doc.fields }

variable {doc : Document}

theorem Tidy.put (h : doc.Tidy) : (doc.put key value).Tidy where
  fields := sorted_putData h.fields
  data data known := by
    rw [Document.put, objectData?_putData] at known
    cases value with
    | some value =>
      cases known
      cases old : objectData? doc.fields with
      | none => exact Members.sorted_insert List.Pairwise.nil
      | some members => exact Members.sorted_insert (h.data members old)
    | none =>
      obtain ⟨members, old, rfl⟩ := Option.map_eq_some_iff.mp known
      exact Members.sorted_erase (h.data members old)

theorem objectData?_timeless (doc : Document) :
    objectData? doc.timeless.fields = objectData? doc.fields := by
  rw [timeless, objectData?, Members.get?_erase_of_ne _ (by decide), objectData?]

theorem Tidy.timeless (h : doc.Tidy) : doc.timeless.Tidy where
  fields := Members.sorted_erase h.fields
  data data known := h.data data (objectData?_timeless doc ▸ known)

theorem put_comm (h : doc.Tidy) (apart : key ≠ other) :
    (doc.put other value').put key value = (doc.put key value).put other value' :=
  congrArg (fun fields => { doc with fields }) (putData_comm apart h.data)

@[simp] theorem id_put : (doc.put key value).id = doc.id := rfl

@[simp] theorem id_timeless : doc.timeless.id = doc.id := rfl

@[simp] theorem workspaceId?_put : (doc.put key value).workspaceId? = doc.workspaceId? := by
  have plain : Text.splitOnce '.' "workspaceId" = none := by decide +kernel
  simp only [workspaceId?, getText?, get?, plain, put, get?_putData (by decide : "workspaceId" ≠ "data")]

@[simp] theorem workspaceId?_timeless : doc.timeless.workspaceId? = doc.workspaceId? := by
  have plain : Text.splitOnce '.' "workspaceId" = none := by decide +kernel
  simp only [workspaceId?, getText?, get?, plain, timeless]
  rw [Members.get?_erase_of_ne _ (by decide)]

end Document

namespace Engine

@[simp] theorem fieldValue_timeless {doc : Document} {field : String} :
    fieldValue doc.timeless field = fieldValue doc field := by
  rw [fieldValue_eq, fieldValue_eq, Document.dataOf, Document.dataOf, Document.timeless,
    Members.get?_erase_of_ne _ (by decide)]

/-- A change writes its key, and the time of the change. -/
theorem DataChange.timeless_update (c : DataChange) (now : Time.Instant) {doc : Document}
    (h : doc.fields.Sorted) :
    Document.timeless { doc with fields := (c.update now).applyFields doc.fields } =
      doc.timeless.put c.change.field c.value := by
  unfold Document.timeless Document.put
  rw [c.applyFields_update, Members.erase_insert_self, Document.erase_putData h]

theorem DataChange.tidy_update (c : DataChange) (now : Time.Instant) {doc : Document} (h : doc.Tidy) :
    Document.Tidy { doc with fields := (c.update now).applyFields doc.fields } := by
  have put : (doc.put c.change.field c.value).Tidy := h.put
  have same (fields : Members) (value : Value) :
      Document.objectData? (fields.insert "updatedAt" value) = Document.objectData? fields := by
    rw [Document.objectData?, Members.get?_insert_of_ne _ _ (by decide), Document.objectData?]
  rw [c.applyFields_update]
  exact ⟨Members.sorted_insert put.fields, fun data known => put.data data (same .. ▸ known)⟩

end Engine

/-- A value for a key of the data of a record; without a value the key is removed. -/
structure RecordWrite where
  id : String
  key : String
  value : Option Value
  deriving DecidableEq

def RecordWrite.place (w : RecordWrite) : String × String := (w.id, w.key)

/-- Records by id. -/
abbrev RecordView := String → Option Document

namespace RecordView

def write (V : RecordView) (w : RecordWrite) : RecordView := fun id =>
  if id = w.id then (V id).map (·.put w.key w.value) else V id

/-- What is left when writes are made one after another. -/
def replay (V : RecordView) (writes : List RecordWrite) : RecordView := writes.foldl write V

/-- What is found of a record by those who look at one key of its data. -/
def seen (V : RecordView) (place : String × String) : Option (String × Option String × Value) :=
  (V place.1).map fun doc => (doc.id, doc.workspaceId?, Engine.fieldValue doc place.2)

def Tidy (V : RecordView) : Prop := ∀ id, ∀ doc ∈ V id, doc.Tidy

variable {V V' : RecordView} {w w' : RecordWrite} {writes writes' : List RecordWrite}
  {place : String × String}

theorem replay_append (V : RecordView) (writes more : List RecordWrite) :
    V.replay (writes ++ more) = (V.replay writes).replay more := List.foldl_append

theorem Tidy.write (h : V.Tidy) : (V.write w).Tidy := by
  intro id doc known
  unfold RecordView.write at known
  split at known
  · obtain ⟨old, there, rfl⟩ := Option.map_eq_some_iff.mp known
    exact (h id old there).put
  · exact h id doc known

/-- Writes neither add records nor remove any. -/
theorem isSome_replay (V : RecordView) (writes : List RecordWrite) (id : String) :
    (V.replay writes id).isSome = (V id).isSome := by
  induction writes generalizing V with
  | nil => rfl
  | cons w rest ih =>
    refine (ih (V.write w)).trans ?_
    unfold write
    split <;> simp

/-- Writes of different keys may change places. -/
theorem write_comm (h : V.Tidy) (apart : w.place ≠ w'.place) :
    (V.write w).write w' = (V.write w').write w := by
  funext id
  unfold write
  by_cases here : id = w.id
  · by_cases here' : id = w'.id
    · have apart : w'.key ≠ w.key := fun same => apart (Prod.ext (here.symm.trans here') same.symm)
      cases there : V id with
      | none => simp only [if_pos here, if_pos here', Option.map_none]
      | some doc =>
        simp only [if_pos here, if_pos here', Option.map_some]
        exact congrArg some (Document.put_comm (h id doc there) apart)
    · simp only [if_pos here, if_neg here']
  · simp only [if_neg here]

private theorem replay_cons_comm (h : V.Tidy) (apart : ∀ other ∈ writes, other.place ≠ w.place) :
    V.replay (w :: writes) = V.replay (writes ++ [w]) := by
  induction writes generalizing V with
  | nil => rfl
  | cons first rest ih =>
    rw [List.forall_mem_cons] at apart
    change ((V.write w).write first).replay rest = (V.write first).replay (rest ++ [w])
    rw [← write_comm h apart.1, ← ih h.write apart.2]
    rfl

/-- The order of writes matters only among those of the same key. -/
theorem replay_congr (h : V.Tidy)
    (same : ∀ place, writes.filter (·.place = place) = writes'.filter (·.place = place)) :
    V.replay writes = V.replay writes' := by
  induction writes generalizing V writes' with
  | nil =>
    have none : writes' = [] := by
      refine List.eq_nil_iff_forall_not_mem.mpr fun w known => ?_
      have known : w ∈ writes'.filter (·.place = w.place) := List.mem_filter.mpr ⟨known, by simp⟩
      rw [← same] at known
      cases known
    rw [none]
  | cons w rest ih =>
    have first := (same w.place).symm
    rw [List.filter_cons_of_pos (by simp), List.filter_eq_cons_iff] at first
    obtain ⟨before, after, rfl, others, -, left⟩ := first
    have apart : ∀ other ∈ before, other.place ≠ w.place := by simpa using others
    have moved : V.replay (before ++ w :: after) = (V.write w).replay (before ++ after) := by
      rw [List.append_cons, replay_append, ← replay_cons_comm h apart, ← replay_append]
      rfl
    rw [moved]
    refine ih h.write fun place => ?_
    by_cases here : w.place = place
    · subst here
      rw [List.filter_append, List.filter_eq_nil_iff.mpr others, left, List.nil_append]
    · simpa [here] using same place

private theorem seen_write_self (V : RecordView) (w : RecordWrite) : (V.write w).seen w.place =
    (V.seen w.place).map fun (id, workspace, _) => (id, workspace, w.value.getD .null) := by
  unfold seen write RecordWrite.place
  simp only [if_true, Option.map_map]
  congr 1
  funext doc
  simp

private theorem seen_write_of_ne (V : RecordView) (apart : w.place ≠ place) :
    (V.write w).seen place = V.seen place := by
  unfold seen write
  split
  · next here =>
    have apart : w.key ≠ place.2 := fun same => apart (Prod.ext here.symm same)
    rw [Option.map_map]
    congr 1
    funext doc
    simp [apart]
  · rfl

private theorem seen_replay_filter (same : V.seen place = V'.seen place) :
    (V.replay writes).seen place = (V'.replay (writes.filter (·.place = place))).seen place := by
  induction writes generalizing V V' with
  | nil => exact same
  | cons w rest ih =>
    by_cases here : w.place = place
    · subst here
      rw [List.filter_cons_of_pos (by simp)]
      exact ih (by rw [seen_write_self, seen_write_self, same])
    · rw [List.filter_cons_of_neg (by simpa using here)]
      exact ih ((seen_write_of_ne V here).trans same)

/-- What is seen of a key depends on the writes of this key only. -/
theorem seen_replay (V : RecordView)
    (own : writes.filter (·.place = place) = writes'.filter (·.place = place)) :
    (V.replay writes).seen place = (V.replay writes').seen place := by
  rw [seen_replay_filter rfl, own, ← seen_replay_filter rfl]

end RecordView
end Automation
