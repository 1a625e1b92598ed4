import Automation.Condition.Evaluation
import Automation.Proofs.Json.Path
import Automation.Proofs.Text.Blank
import Automation.Template

/-!
Placeholders, conditions and filters read the same value at the same path, however deep it lies. They part
only at paths that go on below the id or the creation time of a record: nothing is there, but a placeholder
has the id or the time itself.
-/
namespace Automation

open Json (Value Members Named)

/-- The path goes on below a field that the store keeps. -/
def BelowSystemField (path : String) : Prop :=
  ∃ name key, (name = idField ∨ name = creationTimeField) ∧ Text.splitOnce '.' path = some (name, key)

namespace RecordSnapshot

/-- The members of the record as conditions see it. -/
def members (r : RecordSnapshot) : Members :=
  (r.data.insert idField (.string r.id)).insert creationTimeField (.ofInt r.creationTime)

theorem toValue_eq (r : RecordSnapshot) : r.toValue = .object r.members := rfl

/-- The id and the creation time hide data of their names. -/
theorem get?_members (r : RecordSnapshot) (name : String) :
    r.members.get? name = if name = idField then some (.string r.id)
      else if name = creationTimeField then some (.ofInt r.creationTime) else r.data.get? name := by
  rw [members, Members.get?_insert, Members.get?_insert]
  by_cases id : name = idField
  · subst id
    rfl
  · rw [if_neg id, if_neg (Ne.symm id)]
    simp only [@eq_comm _ name]

end RecordSnapshot

namespace Template

variable {path root rest first : String} {r : RecordSnapshot} {ctx : Context}

theorem cutPath_of_splitOnce (cut : Text.splitOnce '.' path = some (first, rest)) :
    cutPath path = (first, rest) := by
  rw [cutPath, cut, Option.getD_some]

theorem cutPath_of_unsplit (uncut : Text.splitOnce '.' path = none) : cutPath path = (path, "") := by
  rw [cutPath, uncut, Option.getD_none]

theorem recordPath?_eq_lookup? (named : Named path) (above : ¬BelowSystemField path) :
    recordPath? r path = r.toValue.lookup? path := by
  rw [r.toValue_eq, recordPath?]
  cases cut : Text.splitOnce '.' path with
  | none =>
    rw [cutPath_of_unsplit cut, Value.lookup?_object_of_unsplit named cut, r.get?_members]
    simp only [if_neg named.ne_empty, Value.lookup?_empty, Option.bind_fun_some]
  | some parts =>
    obtain ⟨first, rest⟩ := parts
    have notId : first ≠ idField := fun same => above ⟨first, rest, .inl same, cut⟩
    have notTime : first ≠ creationTimeField := fun same => above ⟨first, rest, .inr same, cut⟩
    rw [cutPath_of_splitOnce cut, Value.lookup?_object_of_splitOnce named cut, r.get?_members]
    simp only [if_neg (named.head cut), if_neg notId, if_neg notTime]

/-- A placeholder does not look further than a field that the store keeps, where there is nothing. -/
theorem recordPath?_below (named : Named path) (system : first = idField ∨ first = creationTimeField)
    (cut : Text.splitOnce '.' path = some (first, rest)) :
    recordPath? r path = r.toValue.lookup? first ∧ r.toValue.lookup? path = none := by
  rw [r.toValue_eq, recordPath?, cutPath_of_splitOnce cut, Value.lookup?_object_of_splitOnce named cut]
  rcases system with rfl | rfl
  · have whole : (Value.object r.members).lookup? idField = r.members.get? idField :=
      Value.lookup?_object_of_unsplit (by decide) (by decide) _
    rw [whole, r.get?_members, if_pos rfl, Option.bind_some]
    exact ⟨rfl, Value.lookup?_eq_none (named.tail cut) fun _ => rfl⟩
  · have whole : (Value.object r.members).lookup? creationTimeField = r.members.get? creationTimeField :=
      Value.lookup?_object_of_unsplit (by decide) (by decide) _
    rw [whole, r.get?_members, if_neg (by decide), if_pos rfl, Option.bind_some]
    exact ⟨rfl, Value.lookup?_eq_none (named.tail cut) fun _ => rfl⟩

/-- The first segment of a path is the root, whatever blanks there are further on. -/
theorem cutPath_trim (word : Text.trimStart root.toList = root.toList) (filled : root ≠ "")
    (whole : '.' ∉ root.toList) (filled' : rest ≠ "") (ends : Text.trimEnd rest.toList = rest.toList) :
    cutPath (Text.trim (root ++ "." ++ rest)) = (root, rest) := by
  have trimmed : Text.trim (root ++ "." ++ rest) = root ++ "." ++ rest := by
    rw [Text.trim, String.toList_append, String.toList_append, List.append_assoc, Text.trimChars,
      Text.trimStart_append_of_kept (by simpa using filled) word, ← List.append_assoc,
      Text.trimEnd_append_of_kept (by simpa using filled') ends, ← String.toList_append,
      ← String.toList_append, String.ofList_toList]
  rw [trimmed]
  exact cutPath_of_splitOnce (Text.splitOnce_append whole)

/-- Where the blanks at the end of a path are, none are behind a root in front of it. -/
private theorem trimEnd_behind (trimmed : Text.trim path = path) :
    Text.trimEnd path.toList = path.toList := by
  refine Text.trimEnd_of_trimChars ?_
  rw [← String.toList_ofList (l := Text.trimChars path.toList)]
  exact congrArg String.toList trimmed

/-- The record of a run is read from along what is behind the root. -/
private theorem resolvePath?_record (named : Named path) (trimmed : Text.trim path = path) :
    resolvePath? ctx ("record." ++ path) = ctx.record.bind (recordPath? · path) := by
  have root : cutPath (Text.trim ("record" ++ "." ++ path)) = ("record", path) :=
    cutPath_trim (by decide) (by decide) (by decide) named.ne_empty (trimEnd_behind trimmed)
  rw [resolvePath?, show "record." ++ path = "record" ++ "." ++ path from rfl, root]
  cases ctx.record <;> rfl

private theorem resolvePath?_previous (named : Named path) (trimmed : Text.trim path = path) :
    resolvePath? ctx ("previous." ++ path) = ctx.previous.bind (·.lookup? path) := by
  have root : cutPath (Text.trim ("previous" ++ "." ++ path)) = ("previous", path) :=
    cutPath_trim (by decide) (by decide) (by decide) named.ne_empty (trimEnd_behind trimmed)
  rw [resolvePath?, show "previous." ++ path = "previous" ++ "." ++ path from rfl, root]
  rfl

theorem resolvePath?_loopItem (named : Named path) (trimmed : Text.trim path = path) :
    resolvePath? ctx ("loopItem." ++ path) = ctx.loopItem.bind (·.lookup? path) := by
  have root : cutPath (Text.trim ("loopItem" ++ "." ++ path)) = ("loopItem", path) :=
    cutPath_trim (by decide) (by decide) (by decide) named.ne_empty (trimEnd_behind trimmed)
  rw [resolvePath?, show "loopItem." ++ path = "loopItem" ++ "." ++ path from rfl, root]
  rfl

/-- Outputs are found under the ids of steps, which have no points in them. -/
theorem resolvePath?_variables {stepId : String} (named : Named path) (trimmed : Text.trim path = path)
    (whole : '.' ∉ stepId.toList) :
    resolvePath? ctx ("variables." ++ (stepId ++ "." ++ path)) =
      if stepId = "" then none else (ctx.stepOutputs.get? stepId).bind (·.lookup? path) := by
  have ends : Text.trimEnd (stepId ++ "." ++ path).toList = (stepId ++ "." ++ path).toList := by
    rw [String.toList_append]
    exact Text.trimEnd_append_of_kept (by simpa using named.ne_empty) (trimEnd_behind trimmed)
  have root : cutPath (Text.trim ("variables" ++ "." ++ (stepId ++ "." ++ path))) =
      ("variables", stepId ++ "." ++ path) :=
    cutPath_trim (by decide) (by decide) (by decide) (by simp) ends
  have step : cutPath (stepId ++ "." ++ path) = (stepId, path) :=
    cutPath_of_splitOnce (Text.splitOnce_append whole)
  rw [resolvePath?, show "variables." ++ (stepId ++ "." ++ path) =
    "variables" ++ "." ++ (stepId ++ "." ++ path) from rfl, root]
  simp only [String.reduceEq, if_false, if_true]
  rw [variablePath?, step]

/-- Filters read a document as if its fields were a value. -/
private theorem get?_eq_lookup? {doc : Document} (named : Named path) :
    doc.get? path = (Value.object doc.fields).lookup? path := by
  unfold Document.get?
  cases cut : Text.splitOnce '.' path with
  | none => rw [Value.lookup?_object_of_unsplit named cut]
  | some parts => rw [Value.lookup?_object_of_splitOnce named cut]

/-- Placeholders, conditions and filters read the same value at a path whose segments have names and which
has no blanks around it: in the record of a run unless the path goes on below its id or creation time, in
the output of the step before, in the item of a loop, in the output of a step with a name, and in the fields
of a document. Below the id and the creation time of a record there is nothing, but a placeholder has the id
or the time itself. -/
theorem readers_agree (named : Named path) (trimmed : Text.trim path = path) :
    (∀ ctx r, ctx.record = some r → ¬BelowSystemField path →
      resolvePath? ctx ("record." ++ path) = r.toValue.lookup? path ∧
      ∀ operator value logic, Condition.holds ⟨path, operator, value, logic⟩ r.toValue =
        Condition.holdsFor operator (resolvePath? ctx ("record." ++ path)) value) ∧
    (∀ ctx r name key, ctx.record = some r → name = idField ∨ name = creationTimeField →
      Text.splitOnce '.' path = some (name, key) →
      resolvePath? ctx ("record." ++ path) = r.toValue.lookup? name ∧ r.toValue.lookup? path = none) ∧
    (∀ ctx, resolvePath? ctx ("previous." ++ path) = ctx.previous.bind (·.lookup? path)) ∧
    (∀ ctx, resolvePath? ctx ("loopItem." ++ path) = ctx.loopItem.bind (·.lookup? path)) ∧
    (∀ ctx stepId, '.' ∉ stepId.toList → resolvePath? ctx ("variables." ++ (stepId ++ "." ++ path)) =
      if stepId = "" then none else (ctx.stepOutputs.get? stepId).bind (·.lookup? path)) ∧
    ∀ doc : Document, doc.get? path = (Value.object doc.fields).lookup? path ∧
      ∀ value, doc.agrees path value = ((Value.object doc.fields).lookup? path).any (·.same value) := by
  refine ⟨?_, ?_, ?_, ?_, ?_, ?_⟩
  · intro ctx r known above
    have same : resolvePath? ctx ("record." ++ path) = r.toValue.lookup? path := by
      rw [resolvePath?_record named trimmed, known]
      exact recordPath?_eq_lookup? named above
    exact ⟨same, fun operator value logic => by rw [same]; rfl⟩
  · intro ctx r name key known system cut
    rw [resolvePath?_record named trimmed, known]
    exact recordPath?_below named system cut
  · intro ctx
    exact resolvePath?_previous named trimmed
  · intro ctx
    exact resolvePath?_loopItem named trimmed
  · intro ctx stepId whole
    exact resolvePath?_variables named trimmed whole
  · intro doc
    have same : doc.get? path = (Value.object doc.fields).lookup? path := get?_eq_lookup? named
    exact ⟨same, fun value => by rw [Document.agrees, same]⟩

/-- Its data has the names of the fields that the store keeps. -/
private def namesake : RecordSnapshot where
  id := "r"
  creationTime := 5
  objectTypeId := none
  data := [("_id", .string "other"), ("deal", .ofPairs [("_id", .array [.string "first", .string "second"])])]

/-- Deep in the data a name of a field of the store means nothing special. -/
theorem readers_agree_deep :
    resolvePath? (.initial "w" none (some namesake) none) "record.deal._id.1" = some (.string "second") ∧
    (Condition.mk "deal._id.1" .equals (some (.string "second")) none).holds namesake.toValue = true := by
  have above : ¬BelowSystemField "deal._id.1" := by
    rintro ⟨name, key, system, cut⟩
    have first : Text.splitOnce '.' "deal._id.1" = some ("deal", "_id.1") := by decide
    cases first.symm.trans cut
    exact absurd system (by decide)
  have named : Named "deal._id.1" := by decide
  obtain ⟨same, holds⟩ := (readers_agree named (by decide)).1
    (.initial "w" none (some namesake) none) namesake rfl above
  have there : namesake.toValue.lookup? "deal._id.1" = some (.string "second") := by decide
  refine ⟨same.trans there, ?_⟩
  rw [holds, same, there]
  decide

/-- A placeholder takes a path below the id of the record for the id, where a condition finds nothing. -/
theorem recordPath?_belowId :
    resolvePath? (.initial "w" none (some namesake) none) "record._id.x" = some (.string "r") ∧
    namesake.toValue.lookup? "_id.x" = none ∧
    (Condition.mk "_id.x" .isEmpty none none).holds namesake.toValue = true := by decide

end Template
end Automation
