import Automation.Engine.FieldStep
import Automation.Engine.ListStep
import Automation.Engine.RecordStep
import Automation.Proofs.Store.Isolation

/-!
The fields that steps write when they change a document. None of them ties it to its workspace, to a
list or to a record.
-/
namespace Automation

/-- What ties a document to its workspace, a list and a record is not changed. -/
def DocumentUpdate.SparesLinks (u : DocumentUpdate) : Prop :=
  ∀ name ∈ Document.linkFields, name ∉ u.fields

namespace Engine

private theorem fieldOf_updatedAt : DocumentUpdate.fieldOf "updatedAt" = "updatedAt" := by
  decide +kernel

private theorem not_link {name : String} (h : name = "data" ∨ name = "updatedAt") :
    name ∉ Document.linkFields := by
  rcases h with rfl | rfl <;> decide

/-- A change of a key writes the data and the time of the change. -/
theorem DataChange.sparesLinks (c : DataChange) (now : Time.Instant) : (c.update now).SparesLinks := by
  suffices h : ∀ name ∈ (c.update now).fields, name = "data" ∨ name = "updatedAt" from
    fun name link changed => not_link (h name changed) link
  intro name changed
  unfold DataChange.update at changed
  split at changed
  · simp only [DocumentUpdate.fields, List.append_nil, List.mem_map] at changed
    obtain ⟨path, ⟨m, hm, rfl⟩, rfl⟩ := changed
    rcases Json.Members.mem_insert hm with rfl | hm
    · exact .inl (DocumentUpdate.fieldOf_data _)
    · cases List.mem_singleton.mp hm
      exact .inr fieldOf_updatedAt
  · simp only [DocumentUpdate.fields, List.map_cons, List.map_nil, List.cons_append,
      List.nil_append, List.mem_cons, List.not_mem_nil, or_false, fieldOf_updatedAt,
      DocumentUpdate.fieldOf_data] at changed
    exact changed.symm

private theorem mem_entrySet {data set : Json.Members} {m : String × Json.Value}
    (h : m ∈ data.foldl (fun set (key, value) => set.insert ("data." ++ key) value) set) :
    (∃ key, m.1 = "data." ++ key) ∨ m ∈ set := by
  induction data generalizing set with
  | nil => exact .inr h
  | cons pair rest ih =>
    rcases ih h with named | known
    · exact .inl named
    · rcases Json.Members.mem_insert known with rfl | known
      · exact .inl ⟨pair.1, rfl⟩
      · exact .inr known

/-- A change of an entry writes its data and the time of the change. -/
theorem entryUpdate_sparesLinks (data : Json.Members) (now : Time.Instant) :
    (entryUpdate data now).SparesLinks := by
  suffices h : ∀ name ∈ (entryUpdate data now).fields, name = "data" ∨ name = "updatedAt" from
    fun name link changed => not_link (h name changed) link
  intro name changed
  simp only [entryUpdate, DocumentUpdate.fields, List.append_nil, List.mem_map] at changed
  obtain ⟨path, ⟨m, hm, rfl⟩, rfl⟩ := changed
  rcases mem_entrySet hm with ⟨key, named⟩ | stamp
  · exact .inl (named ▸ DocumentUpdate.fieldOf_data key)
  · cases List.mem_singleton.mp stamp
    exact .inr fieldOf_updatedAt

/-- Who archives a record writes that it is archived and when. -/
theorem archive_sparesLinks (now : Time.Instant) : DocumentUpdate.SparesLinks
    { set := .ofList [("archived", .bool true), ("archivedAt", .ofInt now.toMilliseconds)] } := by
  intro name link changed
  have kept : ∀ path ∈ ["archived", "archivedAt"],
    DocumentUpdate.fieldOf path ∉ Document.linkFields := by decide +kernel
  simp only [DocumentUpdate.fields, List.append_nil, List.mem_map] at changed
  obtain ⟨path, ⟨m, hm, rfl⟩, rfl⟩ := changed
  have listed := List.mem_map_of_mem (f := (·.1)) (Json.Members.mem_ofList hm)
  exact kept m.1 (by simpa using listed) link

end Engine
end Automation
