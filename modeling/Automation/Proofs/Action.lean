import Automation.Action
import Automation.Proofs.Step.Stored
import Automation.Proofs.Store.Surroundings
import Automation.Proofs.Store.Update

/-!
Actions as they are stored: an action that was read from JSON is read again from what it is written as.
-/
namespace Automation

open Decode
open Decode.Record
open Json (Value Members)

theorem TriggerType.decode_name (type : TriggerType) :
    TriggerType.decode (.ofValue (.string type.name)) = .ok type := by
  cases type <;> rfl

theorem Operator.decode_name (op : Operator) :
    Operator.decode (.ofValue (.string op.name)) = .ok op := by
  cases op <;> rfl

theorem Logic.decode_name (logic : Logic) :
    Logic.decode (.ofValue (.string logic.name)) = .ok logic := by
  cases logic <;> rfl

namespace TriggerSpec

private def members (t : TriggerSpec) : List (String × Option Value) :=
  [("type", some (.string t.type.name)), ("objectTypeId", t.objectTypeId.map .string),
    ("listId", t.listId.map .string),
    ("watchedFields", t.watchedFields.map fun fields => .array (fields.map .string)),
    ("schedule", t.schedule.map .string)]

theorem decode_encode (t : TriggerSpec) : TriggerSpec.decode (.ofValue t.encode) = .ok t := by
  have found (name : String) := Members.get?_present name t.members (by simp [members])
  refine Reads.decode ?_ (Members.sorted_ofList _).nodup
  refine ((((Reads.map ?_).seq ?_).seq ?_).seq ?_).seq ?_
  · exact reads_required (found "type") (TriggerType.decode_name _)
  · exact reads_maybe (found "objectTypeId") fun _ _ => ⟨rfl, rfl⟩
  · exact reads_maybe (found "listId") fun _ _ => ⟨rfl, rfl⟩
  · exact reads_maybe (found "watchedFields") fun _ _ => ⟨rfl, list_ofValue_self fun _ _ => rfl⟩
  · exact reads_maybe (found "schedule") fun _ _ => ⟨rfl, rfl⟩

end TriggerSpec

namespace Condition

/-- Nothing is lost when the condition is written out. A value that is null would be read as none. -/
def Lossless (c : Condition) : Prop := ∀ v ∈ c.value, v.isNull = false ∧ v.Canonical

private def members (c : Condition) : List (String × Option Value) :=
  [("field", some (.string c.field)), ("operator", some (.string c.operator.name)),
    ("value", c.value), ("logic", c.logic.map fun logic => .string logic.name)]

theorem Lossless.decode_encode {c : Condition} (h : c.Lossless) :
    Condition.decode (.ofValue c.encode) = .ok c := by
  have found (name : String) := Members.get?_present name c.members (by simp [members])
  refine Reads.decode ?_ (Members.sorted_ofList _).nodup
  refine (((Reads.map ?_).seq ?_).seq ?_).seq ?_
  · exact reads_required (found "field") rfl
  · exact reads_required (found "operator") (Operator.decode_name _)
  · refine reads_maybe (e := id) ?_ fun v hv => ⟨(h v hv).1, value_ofValue v (h v hv).2⟩
    rw [Option.map_id]
    exact found "value"
  · exact reads_maybe (found "logic") fun _ _ => ⟨rfl, Logic.decode_name _⟩

/-- In JSON a value that is there is not null. -/
private theorem ensuresOn_value : (Decode.optional Decode.value).EnsuresOn Tree.IsJson fun found =>
    ∀ v ∈ found, v.isNull = false ∧ v.Canonical := by
  rintro tree ⟨v, rfl⟩ found ok
  unfold Decode.optional at ok
  rw [isNull_ofValue] at ok
  split at ok
  · cases ok
    simp
  · next there =>
    obtain ⟨read, valued, rfl⟩ := except_map_ok.mp ok
    have canonical := ensures_value _ read valued
    have present : read.isNull = false := (isNull_of_value valued).trans (eq_false_of_ne_true there)
    rintro _ ⟨⟩
    exact ⟨present, canonical⟩

theorem ensuresOn_decode : Condition.decode.EnsuresOn Tree.IsJson Lossless := by
  refine Record.ensuresOn_decode Tree.closed_isJson ?_ _
  refine ensuresOn_seq (ensuresOn_seq (ensuresOn_seq (ensuresOn_map (ensuresOn_required_true _) ?_)
    (ensuresOn_required_true _)) (ensuresOn_withDefault ensuresOn_value _ ?_))
    (ensuresOn_withDefault_true _)
  · intro _ _ _ _ _ lossless _ _
    exact lossless
  · simp

end Condition

namespace Action

/-- Nothing is lost when the action is written out. -/
structure Lossless (a : Action) : Prop where
  conditions : ∀ c ∈ a.conditions, c.Lossless
  steps : ∀ step ∈ a.steps, step.Lossless

theorem ensuresOn_decode : Action.decode.EnsuresOn Tree.IsJson Lossless := by
  have conditions : (withDefault "conditions" [] (list Condition.decode)).EnsuresOn Tree.IsJson
      fun conditions => ∀ c ∈ conditions, c.Lossless :=
    ensuresOn_withDefault (ensuresOn_list Tree.closed_isJson Condition.ensuresOn_decode) _ (by simp)
  have steps : (withDefault "steps" [] Step.decodeList).EnsuresOn Tree.IsJson
      fun steps => ∀ step ∈ steps, step.Lossless :=
    ensuresOn_withDefault Step.ensures_decodeList.on _ (by simp)
  have any {α : Type} {decode : Decoder α} (name : String) :
      (required name decode).EnsuresOn Tree.IsJson fun _ => True := ensuresOn_required_true name
  have free {α : Type} {decode : Decoder α} {default : α} (name : String) :
      (withDefault name default decode).EnsuresOn Tree.IsJson fun _ => True :=
    ensuresOn_withDefault_true name
  refine Record.ensuresOn_decode Tree.closed_isJson ?_ _
  refine ensuresOn_seq (ensuresOn_seq (ensuresOn_seq (ensuresOn_seq (ensuresOn_seq (ensuresOn_seq
    (ensuresOn_seq (ensuresOn_seq (ensuresOn_seq (ensuresOn_seq (ensuresOn_map (free _) ?_)
      (any _)) (any _)) (any _)) (free _)) (any _)) conditions) steps) (free _)) (free _)) (free _)
  intro _ _ _ _ _ _ _ _ _ _ _ _ _ conditions _ steps _ _ _ _ _ _
  exact ⟨conditions, steps⟩

/-- The members of an action but for its id, which the store keeps. -/
private def members (a : Action) : List (String × Option Value) :=
  [("workspaceId", some (.string a.workspaceId)), ("name", some (.string a.name)),
    ("slug", some (.string a.slug)), ("description", a.description.map .string),
    ("trigger", some a.trigger.encode), ("conditions", some (.array (a.conditions.map Condition.encode))),
    ("steps", some (.array (Step.encodeAll a.steps))), ("isActive", some (.bool a.isActive)),
    ("isSystem", some (.bool a.isSystem)), ("createdBy", a.createdBy.map .string)]

private def names : List String := ["workspaceId", "name", "slug", "description", "trigger",
  "conditions", "steps", "isActive", "isSystem", "createdBy"]

private theorem Lossless.reads {a : Action} (h : a.Lossless) {find : String → Option Value} {id : String}
    (own : find "_id" = some (.string id))
    (found : ∀ name ∈ names, find name = (a.members.lookup name).join) :
    Action.record.Reads find { a with id } := by
  refine ((((((((((Reads.map ?_).seq ?_).seq ?_).seq ?_).seq ?_).seq ?_).seq ?_).seq ?_).seq ?_).seq
    ?_).seq ?_
  · exact reads_withDefault own rfl
  · exact reads_required (found "workspaceId" (by decide)) rfl
  · exact reads_required (found "name" (by decide)) rfl
  · exact reads_required (found "slug" (by decide)) rfl
  · exact reads_maybe (found "description" (by decide)) fun _ _ => ⟨rfl, rfl⟩
  · exact reads_required (found "trigger" (by decide)) a.trigger.decode_encode
  · exact reads_withDefault (found "conditions" (by decide))
      (list_ofValue_self fun c hc => (h.conditions c hc).decode_encode)
  · exact reads_withDefault (found "steps" (by decide)) (Step.decodeList_encodeAll h.steps)
  · exact reads_withDefault (found "isActive" (by decide)) rfl
  · exact reads_withDefault (found "isSystem" (by decide)) rfl
  · exact reads_maybe (found "createdBy" (by decide)) fun _ _ => ⟨rfl, rfl⟩

private theorem own_names : ∀ name ∈ names, idField ≠ name ∧ creationTimeField ≠ name := by
  decide

private theorem distinct_members (a : Action) :
    (((idField, some (.string a.id)) :: a.members).map (·.1)).Nodup := by
  simp [idField, members]

/-- A lossless action is read as it was written. -/
theorem Lossless.decode_encode {a : Action} (h : a.Lossless) :
    Action.decode (.ofValue a.encode) = .ok a := by
  have found (name : String) := Members.get?_present name _ a.distinct_members
  refine (h.reads (found "_id") fun name known => ?_).decode (Members.sorted_ofList _).nodup
  have own := own_names name known
  exact (found name).trans (congrArg Option.join (Document.lookup_cons_id own.1))

/-- A lossless action is stored with fields that are read as the action, with the id of the document. -/
theorem Lossless.stored {a : Action} (h : a.Lossless) : ∃ fields,
    Document.fieldsOf a.encode = .ok fields ∧ Document.withoutSystemFields fields = fields ∧
      ∀ id creationTime,
        Document.decodeAs Action.decode ⟨id, creationTime, fields⟩ = .ok { a with id } := by
  obtain ⟨fields, stored, sorted, found⟩ := Document.fieldsOf_ofPresent a.distinct_members
  refine ⟨fields, stored, ?_, fun id creationTime => ?_⟩
  · cases stored
    exact Document.withoutSystemFields_idem _
  · refine Document.decodeAs_of_reads sorted (h.reads (Document.get?_members_id _) ?_)
    intro name known
    have own := own_names name known
    rw [Document.get?_members own, found name own]

/-- What an action that was read from a value is written as. -/
def rewritten (v : Value) : Except Decode.Error Value := (Action.decode (.ofValue v)).map encode

/-- An action that was read from any JSON survives storage: it is read again from a document with its id
and the fields that it is stored with, and from wherever a store puts them, but for the id that the store
gives; and it is written again as it was written before. -/
theorem survives_storage {v : Value} {a : Action} (read : Action.decode (.ofValue v) = .ok a) :
    ∃ fields, Document.fieldsOf a.encode = .ok fields ∧
      (∀ creationTime, Document.decodeAs Action.decode ⟨a.id, creationTime, fields⟩ = .ok a) ∧
      (∀ (store : MemoryStore) (stamp : Stamp),
        let added := store.insert stamp .actions fields
        ∃ doc, added.2.get? .actions added.1 = some doc ∧
          doc.decodeAs Action.decode = .ok { a with id := added.1 }) ∧
      Action.decode (.ofValue a.encode) = .ok a ∧ rewritten a.encode = .ok a.encode := by
  have lossless := ensuresOn_decode _ ⟨v, rfl⟩ a read
  obtain ⟨fields, stored, own, reads⟩ := lossless.stored
  have again := lossless.decode_encode
  refine ⟨fields, stored, reads a.id, fun store stamp => ?_, again, ?_⟩
  · obtain ⟨time, found⟩ := store.get?_insert stamp .actions fields
    refine ⟨_, found, ?_⟩
    rw [own]
    exact reads _ time
  · rw [rewritten, again]
    rfl

section

/-- A step of a type that nobody knows, inside a loop whose other parts are empty or null. -/
private def nestedJson : Value := .object [("_id", .string "a"), ("name", .string "Tidy up"),
  ("slug", .string "tidy-up"),
  ("conditions", .array [.object [("field", .string "stage"), ("operator", .string "in"),
    ("value", .null), ("logic", .string "or")]]),
  ("description", .null),
  ("steps", .array [.object [("id", .string "each"), ("type", .string "loop"),
    ("config", .object [("maxIterations", .ofNat 3)]), ("thenSteps", .array []),
    ("steps", .array [.array [.string "x", .string "teleport", .null]])]]),
  ("trigger", .object [("type", .string "onListAdd"), ("watchedFields", .array [])]),
  ("workspaceId", .string "w")]

private def nestedAction : Action where
  id := "a"
  workspaceId := "w"
  name := "Tidy up"
  slug := "tidy-up"
  description := none
  trigger := ⟨.onListAdd, none, none, some [], none⟩
  conditions := [⟨"stage", .isIn, none, some .any⟩]
  steps := [⟨"each", .loop, none, .object [("maxIterations", .ofNat 3)], [], [],
    [⟨"x", .unknown "teleport", none, .null, [], [], []⟩]⟩]
  isActive := true
  isSystem := false
  createdBy := none

theorem survives_storage_nested : Action.decode (.ofValue nestedJson) = .ok nestedAction ∧
    ∃ fields, Document.fieldsOf nestedAction.encode = .ok fields ∧ ∀ creationTime,
      Document.decodeAs Action.decode ⟨"a", creationTime, fields⟩ = .ok nestedAction := by
  have read : Action.decode (.ofValue nestedJson) = .ok nestedAction := by rfl
  obtain ⟨fields, stored, reads, -⟩ := survives_storage read
  exact ⟨read, fields, stored, reads⟩

end

end Action
end Automation
