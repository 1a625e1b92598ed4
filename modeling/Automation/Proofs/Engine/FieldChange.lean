import Automation.Engine.FieldStep
import Automation.Proofs.Store.Update

/-!
What a change of a key makes of the fields of a record: the value of the key and the time of the change
are written, and all other keys of the data stay.
-/
namespace Automation

open Json (Value Members)

namespace Document

/-- The data of a record; what is no object counts as none. -/
def dataOf (fields : Members) : Members := ((fields.get? "data").bind (·.asObject?)).getD []

/-- Fields with a key of their data set, or without it. Data that is no object becomes one only when a
key is set. -/
def putData (key : String) : Option Value → Members → Members
  | some value, fields => fields.insert "data" (.object (Members.insert key value (dataOf fields)))
  | none, fields => match fields.get? "data" with
    | some (.object members) => fields.insert "data" (.object (Members.erase key members))
    | _ => fields

/-- The document with a key of its data set, or without it. -/
def put (key : String) (value : Option Value) (doc : Document) : Document :=
  { doc with fields := putData key value doc.fields }

theorem dataOf_putData (key : String) (value : Option Value) (fields : Members) :
    dataOf (putData key value fields) = match value with
      | some value => Members.insert key value (dataOf fields)
      | none => Members.erase key (dataOf fields) := by
  cases value with
  | some value => simp [putData, dataOf, Value.asObject?]
  | none =>
    unfold putData dataOf
    dsimp only
    split
    · next members found => simp [found, Value.asObject?]
    · next other =>
      have none : (fields.get? "data").bind (·.asObject?) = none := by
        cases data : fields.get? "data" with
        | none => rfl
        | some value =>
          cases value with
          | object members => exact absurd data (other members)
          | _ => rfl
      rw [none]
      rfl

end Document

open Document (dataOf putData)

namespace Engine

theorem fieldValue_eq (record : Document) (field : String) :
    fieldValue record field = ((dataOf record.fields).get? field).getD .null := by
  have plain : Text.splitOnce '.' "data" = none := by decide +kernel
  rw [fieldValue, Document.get?, plain, dataOf]
  cases record.fields.get? "data" with
  | none => rfl
  | some value => cases value <;> rfl

@[simp] theorem fieldValue_put {doc : Document} {key field : String} {value : Option Value} :
    fieldValue (doc.put key value) field =
      if key = field then value.getD .null else fieldValue doc field := by
  rw [fieldValue_eq, fieldValue_eq, Document.put, Document.dataOf_putData]
  cases value with
  | some value =>
    rw [Members.get?_insert]
    split <;> rfl
  | none =>
    rw [Members.get?_erase]
    split <;> rfl

private theorem data_before_updatedAt (key : String) : "data." ++ key < "updatedAt" := by
  have path : ("data." ++ key).toList = 'd' :: ('a' :: 't' :: 'a' :: '.' :: key.toList) := by simp
  have stamp : "updatedAt".toList = 'u' :: ['p', 'd', 'a', 't', 'e', 'd', 'A', 't'] := by
    decide +kernel
  change ("data." ++ key).toList < "updatedAt".toList
  rw [path, stamp]
  exact List.Lex.rel (by decide)

/-- A change writes the key and the time, the key first. -/
theorem DataChange.update_eq (c : DataChange) (now : Time.Instant) : c.update now =
    let stamp := ("updatedAt", Value.ofInt now.toMilliseconds)
    match c.value with
    | some value => { set := [("data." ++ c.change.field, value), stamp] }
    | none => { set := [stamp], unset := ["data." ++ c.change.field] } := by
  unfold DataChange.update
  cases c.value with
  | none => rfl
  | some value =>
    have first := data_before_updatedAt c.change.field
    dsimp only
    rw [Members.insert, if_neg (Ne.symm (String.ne_of_lt first)), if_pos first]

/-- The fields that a change leaves. -/
theorem DataChange.applyFields_update (c : DataChange) (now : Time.Instant) (fields : Members) :
    (c.update now).applyFields fields =
      (putData c.change.field c.value fields).insert "updatedAt" (.ofInt now.toMilliseconds) := by
  have cut : Text.splitOnce '.' ("data." ++ c.change.field) = some ("data", c.change.field) :=
    DocumentUpdate.splitOnce_data c.change.field
  have stamp : Text.splitOnce '.' "updatedAt" = none := by decide +kernel
  have own : ¬("updatedAt" = idField ∨ "updatedAt" = creationTimeField) := by decide
  rw [c.update_eq]
  cases c.value with
  | some value =>
    simp only [DocumentUpdate.applyFields, List.foldl_nil, List.foldl_cons,
      DocumentUpdate.setPath, cut, stamp, if_neg own]
    rfl
  | none =>
    simp only [DocumentUpdate.applyFields, List.foldl_nil, List.foldl_cons,
      DocumentUpdate.setPath, DocumentUpdate.unsetPath, cut, stamp, if_neg own]
    rfl

theorem DataChange.expect_update (c : DataChange) (now : Time.Instant) : (c.update now).expect = [] := by
  unfold DataChange.update
  split <;> rfl

/-- A changed key has its new value, and every other key the one it had. -/
theorem DataChange.fieldValue_update (c : DataChange) (now : Time.Instant) (record : Document)
    (field : String) :
    fieldValue { record with fields := (c.update now).applyFields record.fields } field =
      if c.change.field = field then c.value.getD .null else fieldValue record field := by
  rw [← fieldValue_put, fieldValue_eq, fieldValue_eq, dataOf, c.applyFields_update,
    Members.get?_insert_of_ne _ _ (by decide)]
  rfl

end Engine
end Automation
