import Automation.Proofs.Decode.Reads
import Automation.Proofs.Json.Members
import Automation.Store.Update

/-!
An update changes no field but those that its paths begin with.
-/
namespace Automation

namespace Document

theorem get?_withoutSystemFields {members : Json.Members} {name : String}
    (own : idField ≠ name ∧ creationTimeField ≠ name) :
    (withoutSystemFields members).get? name = members.get? name := by
  rw [withoutSystemFields, Json.Members.get?_erase_of_ne _ own.2, Json.Members.get?_erase_of_ne _ own.1]

theorem get?_withoutSystemFields_id (members : Json.Members) :
    (withoutSystemFields members).get? idField = none := by
  rw [withoutSystemFields, Json.Members.get?_erase]
  simp

@[simp] theorem withoutSystemFields_idem (members : Json.Members) :
    withoutSystemFields (withoutSystemFields members) = withoutSystemFields members := by
  simp only [withoutSystemFields, Json.Members.erase, List.filter_filter]
  congr 1
  funext member
  cases member.1 != idField <;> cases member.1 != creationTimeField <;> rfl

theorem sorted_withoutSystemFields {members : Json.Members} (h : members.Sorted) :
    (withoutSystemFields members).Sorted :=
  Json.Members.sorted_erase (Json.Members.sorted_erase h)

end Document

/-- The field a path begins with. -/
def DocumentUpdate.fieldOf (path : String) : String := ((Text.splitOnce '.' path).map (·.1)).getD path

theorem Text.cutFirst_append {sep : Char} {before after : List Char} (h : sep ∉ before) :
    cutFirst sep (before ++ sep :: after) = some (before, after) := by
  induction before with
  | nil => simp [cutFirst]
  | cons c rest ih =>
    rw [List.mem_cons, not_or] at h
    simp [cutFirst, Ne.symm h.1, ih h.2]

namespace DocumentUpdate

/-- All behind the first point is the key, points in it included. -/
theorem splitOnce_data (key : String) :
    Text.splitOnce '.' ("data." ++ key) = some ("data", key) := by
  have parts : ("data." ++ key).toList = ['d', 'a', 't', 'a'] ++ '.' :: key.toList := by simp
  rw [Text.splitOnce, parts, Text.cutFirst_append (by decide)]
  simp

theorem fieldOf_data (key : String) : fieldOf ("data." ++ key) = "data" := by
  rw [fieldOf, splitOnce_data]
  rfl

/-- The fields that an update may change. -/
def fields (u : DocumentUpdate) : List String := (u.set.map (·.1) ++ u.unset).map fieldOf

private theorem get?_setPath {fields : Json.Members} {path name : String} {value : Json.Value}
    (h : fieldOf path ≠ name) : (setPath fields path value).get? name = fields.get? name := by
  unfold setPath
  unfold fieldOf at h
  split
  · next cut =>
    rw [cut] at h
    exact Json.Members.get?_insert_of_ne _ _ h
  · next cut =>
    rw [cut] at h
    split
    · rfl
    · exact Json.Members.get?_insert_of_ne _ _ h

private theorem get?_unsetPath {fields : Json.Members} {path name : String}
    (h : fieldOf path ≠ name) : (unsetPath fields path).get? name = fields.get? name := by
  unfold unsetPath
  unfold fieldOf at h
  split
  · next cut =>
    rw [cut] at h
    split
    · exact Json.Members.get?_insert_of_ne _ _ h
    · rfl
  · next cut =>
    rw [cut] at h
    exact Json.Members.get?_erase_of_ne _ h

theorem get?_applyFields {u : DocumentUpdate} {fields : Json.Members} {name : String}
    (h : name ∉ u.fields) : (u.applyFields fields).get? name = fields.get? name := by
  rw [DocumentUpdate.fields, List.map_append, List.mem_append, not_or] at h
  have unset : (u.unset.foldl unsetPath fields).get? name = fields.get? name := by
    have h := h.2
    generalize u.unset = paths at h ⊢
    induction paths generalizing fields with
    | nil => rfl
    | cons path rest ih =>
      rw [List.map_cons, List.mem_cons, not_or] at h
      rw [List.foldl_cons, ih h.2, get?_unsetPath (Ne.symm h.1)]
  rw [← unset]
  unfold applyFields
  have h := h.1
  generalize u.unset.foldl unsetPath fields = fields at h ⊢
  generalize u.set = pairs at h ⊢
  induction pairs generalizing fields with
  | nil => rfl
  | cons pair rest ih =>
    rw [List.map_cons, List.map_cons, List.mem_cons, not_or] at h
    rw [List.foldl_cons, ih _ h.2, get?_setPath (Ne.symm h.1)]

/-- A path that is a field of the document's own. -/
def IsField (path : String) : Prop :=
  Text.splitOnce '.' path = none ∧ path ≠ idField ∧ path ≠ creationTimeField

theorem eq_of_applyTo? {u : DocumentUpdate} {doc new : Document} (h : u.applyTo? doc = some new) :
    new = { doc with fields := u.applyFields doc.fields } := by
  unfold applyTo? at h
  split at h
  · exact (Option.some.inj h).symm
  · cases h

theorem applyFields_of_isField {u : DocumentUpdate} {fields : Json.Members} (none : u.unset = [])
    (plain : ∀ m ∈ u.set, IsField m.1) : u.applyFields fields = fields.merge u.set := by
  rw [applyFields, none, List.foldl_nil, Json.Members.merge]
  generalize u.set = pairs at plain
  induction pairs generalizing fields with
  | nil => rfl
  | cons m rest ih =>
    obtain ⟨path, value⟩ := m
    rw [List.forall_mem_cons] at plain
    obtain ⟨whole, notId, notTime⟩ := plain.1
    have own : ¬(path = idField ∨ path = creationTimeField) := not_or.mpr ⟨notId, notTime⟩
    have put : setPath fields path value = fields.insert path value := by
      dsimp only at whole
      simp only [setPath, whole, if_neg own]
    simp only [List.foldl_cons]
    rw [put, ih plain.2]

end DocumentUpdate

theorem Document.agrees_text {doc : Document} {path text : String} :
    doc.agrees path (.string text) = true ↔ doc.get? path = some (.string text) := by
  unfold agrees
  cases doc.get? path with
  | none => simp
  | some value => cases value <;> simp [Json.Value.same]

/-- A query by text finds the documents that have the texts. -/
theorem Query.accepts_byText {pairs : List (String × String)} {doc : Document} :
    (byText pairs).accepts doc = true ↔
      ∀ pair ∈ pairs, doc.get? pair.1 = some (.string pair.2) := by
  simp [accepts, byText, Document.agrees_text]

end Automation

/-!
Documents as they are read: what was written is found under its name, and a record is read from what is
found.
-/
namespace Automation.Document

open Json (Value Members)

/-- The members that are read from a document, those of the store among them. -/
def members (doc : Document) : Members :=
  (doc.fields.insert idField (.string doc.id)).insert creationTimeField (.ofInt doc.creationTime)

theorem get?_members_id (doc : Document) : doc.members.get? idField = some (.string doc.id) := by
  rw [members, Members.get?_insert_of_ne _ _ (by decide), Members.get?_insert_self]

theorem get?_members {doc : Document} {name : String}
    (own : idField ≠ name ∧ creationTimeField ≠ name) :
    doc.members.get? name = doc.fields.get? name := by
  rw [members, Members.get?_insert_of_ne _ _ own.2, Members.get?_insert_of_ne _ _ own.1]

/-- A document is read as the record that its members make up. -/
theorem decodeAs_of_reads {α : Type} {record : Decode.Record α} {kind : String} {a : α} {doc : Document}
    (sorted : doc.fields.Sorted) (reads : record.Reads doc.members.get? a) :
    doc.decodeAs (record.decode kind) = .ok a := by
  refine Decode.except_mapError_ok.mpr (reads.decode (Members.Sorted.nodup ?_))
  exact Members.sorted_insert (Members.sorted_insert sorted)

/-- The id that an object brings along is not one of its other members. -/
theorem lookup_cons_id {id : Option Value} {pairs : List (String × Option Value)} {name : String}
    (own : idField ≠ name) : ((idField, id) :: pairs).lookup name = pairs.lookup name := by
  rw [List.lookup_cons, beq_eq_false_iff_ne.mpr own.symm]

/-- The fields that are stored of an object with an id and members that may be absent. -/
theorem fieldsOf_ofPresent {id : Option Value} {pairs : List (String × Option Value)}
    (distinct : (((idField, id) :: pairs).map (·.1)).Nodup) :
    ∃ fields, fieldsOf (.ofPresent ((idField, id) :: pairs)) = .ok fields ∧ fields.Sorted ∧
      ∀ name, idField ≠ name ∧ creationTimeField ≠ name →
        fields.get? name = (pairs.lookup name).join := by
  refine ⟨_, rfl, sorted_withoutSystemFields (Members.sorted_ofList _), fun name own => ?_⟩
  rw [get?_withoutSystemFields own, Members.get?_present name _ distinct, lookup_cons_id own.1]

end Automation.Document
