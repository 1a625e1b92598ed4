import Automation.Proofs.Engine.WrittenFields
import Automation.Proofs.Store.Answers

/-!
The entries of lists as one step of a store leaves them. Whatever neither makes an entry nor changes what
it joins leaves fewer of them at most, and a record is there until it is deleted.
-/
namespace Automation

open Json (Value)

/-- The list and the record that an entry joins. -/
def Document.joined (doc : Document) : Option Value × Option Value :=
  (doc.get? "listId", doc.get? "recordId")

/-- Effects that neither make an entry, nor change what one joins, nor delete a record. -/
def Effect.Mild : Effect → Prop
  | .store (.insert table _) => table ≠ .listEntries
  | .store (.update table _ u) => table = .listEntries → u.SparesLinks
  | .store (.delete table _) => table ≠ .records
  | .store (.get _ _) | .store (.query _ _) | .exchange _ _ | .clock => True

/-- Effects on other tables are mild. -/
theorem Effect.Mild.of_on {effect : Effect}
    (h : Effect.On (fun table => table ≠ .listEntries ∧ table ≠ .records) effect) : effect.Mild := by
  cases effect with
  | exchange request deadline => trivial
  | clock => trivial
  | store op =>
    cases op with
    | get table id => trivial
    | query table q => trivial
    | insert table fields => exact h.1
    | update table id u => exact fun same => absurd same h.1
    | delete table id => exact h.2

private theorem Document.get?_link {doc : Document} {name : String} (h : name ∈ linkFields) :
    doc.get? name = doc.fields.get? name := by
  have plain : ∀ name ∈ linkFields, Text.splitOnce '.' name = none := by decide +kernel
  rw [get?, plain name h]

theorem Document.joined_eq (doc : Document) :
    doc.joined = (doc.fields.get? "listId", doc.fields.get? "recordId") := by
  rw [joined, get?_link (by decide), get?_link (by decide)]

private theorem Document.joined_update {doc : Document} {u : DocumentUpdate} (spares : u.SparesLinks) :
    joined { doc with fields := u.applyFields doc.fields } = doc.joined := by
  rw [joined_eq, joined_eq, DocumentUpdate.get?_applyFields (spares _ (by decide)),
    DocumentUpdate.get?_applyFields (spares _ (by decide))]

namespace MemoryStore

variable {idAt : Nat → String} {store after : MemoryStore}

theorem place_perm (doc : Document) (docs : List Document) :
    (place doc docs).Perm (doc :: docs.eraseP (·.id == doc.id)) := by
  induction docs with
  | nil => exact .refl _
  | cons d rest ih =>
    by_cases same : d.id = doc.id
    · simp [place, same]
    · simp only [place, same, if_false, beq_iff_eq, not_false_eq_true, List.eraseP_cons_of_neg]
      exact (ih.cons d).trans (.swap doc d _)

/-- What an operation may leave of a store. -/
inductive Leaves (store : MemoryStore) : StoreOp → MemoryStore → Prop
  | untouched {op : StoreOp} : Leaves store op store
  | put {table : Table} {fields : Json.Members} {doc : Document} {after : MemoryStore}
      (own : doc.fields = Document.withoutSystemFields fields)
      (here : after.docs table = place doc (store.docs table))
      (others : ∀ other, other ≠ table → after.docs other = store.docs other) :
      Leaves store (.insert table fields) after
  | changed {table : Table} {id : String} {u : DocumentUpdate} {doc : Document}
      (found : store.get? table id = some doc) :
      Leaves store (.update table id u) (store.setDocs table
        (place { doc with fields := u.applyFields doc.fields } (store.docs table)))
  | removed {table : Table} {id : String} :
      Leaves store (.delete table id) (store.setDocs table ((store.docs table).eraseP (·.id == id)))

theorem leaves_of_world {op : StoreOp} {reply : StoreReply op.Answer}
    (w : world idAt (.store op) store reply after) : store.Leaves op after := by
  obtain ⟨rfl, -⟩ | ⟨now, -, rfl⟩ := w
  · exact .untouched
  cases op with
  | get table id => exact .untouched
  | query table q => exact .untouched
  | insert table fields =>
    have noId := Document.get?_withoutSystemFields_id fields
    refine @Leaves.put store table fields
      (store.newDocument ⟨idAt, now⟩ (Document.withoutSystemFields fields)).1 _ ?_ ?_
      fun other apart => docs_perform (Ne.symm apart)
    · simp only [newDocument, noId, Document.withoutSystemFields_idem]
    · simp only [perform, MemoryStore.insert, add, newDocument, noId, docs_setDocs_self]
      cases table <;> rfl
  | update table id u =>
    simp only [perform, MemoryStore.update]
    cases found : store.get? table id with
    | none => exact .untouched
    | some doc =>
      dsimp only
      cases changed : u.applyTo? doc with
      | none => exact .untouched
      | some new =>
        obtain rfl := DocumentUpdate.eq_of_applyTo? changed
        exact .changed found
  | delete table id =>
    simp only [perform, MemoryStore.delete]
    cases store.get? table id with
    | none => exact .untouched
    | some doc => exact .removed

/-- The entries with what they join. -/
def entries (store : MemoryStore) : List (String × Option Value × Option Value) :=
  (store.docs .listEntries).map fun entry => (entry.id, entry.joined)

private theorem entries_of_docs (same : after.docs .listEntries = store.docs .listEntries) :
    after.entries = store.entries := congrArg (List.map _) same

/-- What is mild adds no entry. -/
theorem entries_sublist {effect : Effect} {reply : effect.Reply} (w : world idAt effect store reply after)
    (mild : effect.Mild) : after.entries.Sublist store.entries := by
  by_cases aside : Effect.On (· ≠ .listEntries) effect
  · rw [entries_of_docs (docs_of_world w aside)]
  cases effect with
  | exchange request deadline => exact absurd trivial aside
  | clock => exact absurd trivial aside
  | store op =>
    have here : op.table = .listEntries := not_not.mp aside
    cases leaves_of_world w with
    | untouched => exact .refl _
    | put => exact absurd here mild
    | @changed table id u doc found =>
      obtain rfl : table = .listEntries := here
      have named : doc.id = id := (mem_of_get? found).2
      subst named
      rw [entries, docs_setDocs_self, map_place]
      · exact .refl _
      · exact found
      · rw [Document.joined_update (mild rfl)]
    | @removed table id =>
      obtain rfl : table = .listEntries := here
      rw [entries, docs_setDocs_self]
      exact (List.eraseP_sublist ..).map _

/-- An entry that is deleted is gone. -/
theorem entries_deleted {id : String} (keyed : (store.entries.map (·.1)).Nodup)
    (w : world idAt (.store (.delete .listEntries id)) store (.answered (.ok ())) after) :
    ∀ entry ∈ after.entries, entry ∈ store.entries ∧ entry.1 ≠ id := by
  have keyed : ((store.docs .listEntries).map (·.id)).Nodup := by
    rwa [entries, List.map_map] at keyed
  obtain ⟨now, told⟩ := performed w
  simp only [perform, MemoryStore.delete] at told
  cases found : store.get? .listEntries id with
  | none => simp [found] at told
  | some doc =>
    simp only [found, Prod.mk.injEq, true_and] at told
    subst told
    rw [entries, docs_setDocs_self, eraseP_eq_filter keyed]
    simp only [List.forall_mem_map, List.mem_filter, bne_iff_ne]
    exact fun entry known => ⟨List.mem_map_of_mem known.1, known.2⟩

/-- The record is stored. -/
def Has (store : MemoryStore) (recordId : String) : Prop := (store.get? .records recordId).isSome

private theorem has_of_docs {recordId : String} (same : after.docs .records = store.docs .records)
    (h : store.Has recordId) : after.Has recordId := by
  rwa [Has, get?, same]

private theorem has_place {recordId : String} {doc : Document}
    (here : after.docs .records = place doc (store.docs .records)) (h : store.Has recordId) :
    after.Has recordId := by
  have put : after.get? .records recordId =
      (store.setDocs .records (place doc (store.docs .records))).get? .records recordId := by
    rw [get?, here]
    rfl
  rw [Has, put]
  by_cases named : doc.id = recordId
  · rw [← named, get?_place]
    rfl
  · rwa [get?_place_of_ne named]

private theorem find?_eraseP {id other : String} (apart : id ≠ other) (docs : List Document) :
    (docs.eraseP (·.id == id)).find? (·.id == other) = docs.find? (·.id == other) := by
  induction docs with
  | nil => rfl
  | cons d rest ih =>
    by_cases here : d.id = id
    · simp [here, apart]
    · simp [here, List.find?_cons, ih]

/-- A record is there until it is deleted. -/
theorem has_of_world {effect : Effect} {reply : effect.Reply} {recordId : String}
    (w : world idAt effect store reply after) (kept : effect ≠ .store (.delete .records recordId))
    (h : store.Has recordId) : after.Has recordId := by
  by_cases aside : Effect.On (· ≠ .records) effect
  · exact has_of_docs (docs_of_world w aside) h
  cases effect with
  | exchange request deadline => exact absurd trivial aside
  | clock => exact absurd trivial aside
  | store op =>
    have here : op.table = .records := not_not.mp aside
    cases leaves_of_world w with
    | untouched => exact h
    | @put table fields doc _ own placed others =>
      obtain rfl : table = .records := here
      exact has_place placed h
    | @changed table id u doc found =>
      obtain rfl : table = .records := here
      exact has_place (docs_setDocs_self ..) h
    | @removed table id =>
      obtain rfl : table = .records := here
      have other : id ≠ recordId := fun same => kept (same ▸ rfl)
      rwa [Has, get?, docs_setDocs_self, find?_eraseP other]

/-- An entry that is made takes the place of one with its id at most. -/
theorem entries_insert {fields : Json.Members} {reply : StoreReply String}
    (w : world idAt (.store (.insert .listEntries fields)) store reply after) :
    after = store ∨ ∃ id, after.entries.Perm ((id, fields.get? "listId", fields.get? "recordId") ::
      store.entries.eraseP (·.1 == id)) := by
  cases leaves_of_world w with
  | untouched => exact .inl rfl
  | @put table fields doc _ own here others =>
    refine .inr ⟨doc.id, ?_⟩
    have joined : doc.joined = (fields.get? "listId", fields.get? "recordId") := by
      rw [Document.joined_eq, own, Document.get?_withoutSystemFields_link (by decide),
        Document.get?_withoutSystemFields_link (by decide)]
    have perm := (place_perm doc (store.docs .listEntries)).map fun entry => (entry.id, entry.joined)
    rw [← here, List.map_cons, joined] at perm
    rw [entries, entries, List.eraseP_map]
    exact perm

end MemoryStore
end Automation
