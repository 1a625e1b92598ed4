import Automation.Proofs.Store.Update
import Automation.Store.Operation
import Mathlib.Data.List.Nodup

/-!
Operations that stay within a workspace: they leave the documents of all others as they are, and the
entries of lists in the workspace of what they join.
-/
namespace Automation

/-- What ties a document to its workspace and, if it is an entry, to a list and a record. -/
structure Links where
  id : String
  workspaceId : Option String
  listId : Option String
  recordId : Option String

namespace Document

def links (doc : Document) : Links :=
  ⟨doc.id, doc.workspaceId?, doc.getText? "listId", doc.getText? "recordId"⟩

/-- The fields that links are read from. -/
def linkFields : List String := ["workspaceId", "listId", "recordId"]

theorem getText?_link {doc : Document} {name : String} (h : name ∈ linkFields) :
    doc.getText? name = (doc.fields.get? name).bind (·.asString?) := by
  have plain : Text.splitOnce '.' name = none := by
    simp only [linkFields, List.mem_cons, List.not_mem_nil, or_false] at h
    rcases h with rfl | rfl | rfl <;> decide +kernel
  rw [getText?, get?, plain]

theorem get?_withoutSystemFields_link {members : Json.Members} {name : String}
    (h : name ∈ linkFields) : (withoutSystemFields members).get? name = members.get? name := by
  have own : ∀ name ∈ linkFields, idField ≠ name ∧ creationTimeField ≠ name := by decide
  exact get?_withoutSystemFields (own name h)

theorem links_update {doc : Document} {u : DocumentUpdate}
    (h : ∀ name ∈ linkFields, name ∉ u.fields) :
    links { doc with fields := u.applyFields doc.fields } = doc.links := by
  have text (name : String) (hn : name ∈ linkFields) :
      getText? { doc with fields := u.applyFields doc.fields } name = doc.getText? name := by
    rw [getText?_link hn, getText?_link hn, DocumentUpdate.get?_applyFields (h name hn)]
  simp only [links, workspaceId?, text "workspaceId" (by decide),
    text "listId" (by decide), text "recordId" (by decide)]

theorem links_eq {doc other : Document} : doc.links = other.links ↔ doc.id = other.id ∧
    doc.workspaceId? = other.workspaceId? ∧ doc.getText? "listId" = other.getText? "listId" ∧
    doc.getText? "recordId" = other.getText? "recordId" := by
  rw [links, links, Links.mk.injEq]

theorem inWorkspace_of_links {doc other : Document} {W : String} (h : doc.links = other.links) :
    doc.inWorkspace W = other.inWorkspace W := by
  rw [inWorkspace, inWorkspace, (links_eq.mp h).2.1]

end Document

namespace MemoryStore

/-- A table has one document for an id. -/
def Keyed (store : MemoryStore) : Prop := ∀ table, ((store.docs table).map (·.id)).Nodup

/-- An entry is in the workspace of the list and of the record it names, where they exist. -/
def Coherent (store : MemoryStore) : Prop := ∀ entry ∈ store.listEntries,
  (∀ list ∈ store.lists, entry.getText? "listId" = some list.id →
    entry.workspaceId? = list.workspaceId?) ∧
  ∀ record ∈ store.records, entry.getText? "recordId" = some record.id →
    entry.workspaceId? = record.workspaceId?

/-- No document has an id that is still to be made up, and no entry names one. -/
def Fresh (idAt : Nat → String) (store : MemoryStore) : Prop := ∀ n, store.issued ≤ n →
  (∀ table, ∀ doc ∈ store.docs table, doc.id ≠ idAt n) ∧
  ∀ entry ∈ store.listEntries, entry.getText? "listId" ≠ some (idAt n) ∧
    entry.getText? "recordId" ≠ some (idAt n)

/-- No document has an id that is still to be made up. -/
def Unissued (idAt : Nat → String) (store : MemoryStore) : Prop :=
  ∀ n, store.issued ≤ n → ∀ table, ∀ doc ∈ store.docs table, doc.id ≠ idAt n

structure Sound (idAt : Nat → String) (store : MemoryStore) : Prop where
  keyed : store.Keyed
  coherent : store.Coherent
  fresh : store.Fresh idAt

variable {store after : MemoryStore} {table : Table}

theorem Fresh.unissued {idAt : Nat → String} (h : store.Fresh idAt) : store.Unissued idAt :=
  fun n le => (h n le).1

theorem mem_of_get? {doc : Document} {id : String} (found : store.get? table id = some doc) :
    doc ∈ store.docs table ∧ doc.id = id :=
  ⟨List.mem_of_find?_eq_some found, by simpa using List.find?_some found⟩

theorem mem_query {q : Query} {doc : Document} (found : doc ∈ store.query table q) :
    doc ∈ store.docs table ∧ q.accepts doc := by
  refine List.mem_filter.mp ?_
  unfold query Query.select at found
  split at found
  · exact List.mem_of_mem_take found
  · exact found

theorem place_of_not_mem {doc : Document} {docs : List Document} (h : ∀ d ∈ docs, d.id ≠ doc.id) :
    place doc docs = docs ++ [doc] := by
  induction docs with
  | nil => rfl
  | cons d rest ih =>
    rw [List.forall_mem_cons] at h
    rw [place, if_neg h.1, ih h.2, List.cons_append]

theorem place_of_mem {doc : Document} {docs : List Document} (keyed : (docs.map (·.id)).Nodup)
    (h : ∃ d ∈ docs, d.id = doc.id) :
    place doc docs = docs.map fun d => if d.id = doc.id then doc else d := by
  induction docs with
  | nil => simp at h
  | cons d rest ih =>
    rw [List.map_cons, List.nodup_cons] at keyed
    by_cases same : d.id = doc.id
    · have others : rest.map (fun d => if d.id = doc.id then doc else d) = rest.map id := by
        refine List.map_congr_left fun e he => if_neg fun eq => keyed.1 ?_
        exact List.mem_map.mpr ⟨e, he, eq.trans same.symm⟩
      rw [place, if_pos same, List.map_cons, if_pos same, others, List.map_id]
    · obtain ⟨e, he, eq⟩ := h
      rcases List.mem_cons.mp he with rfl | he
      · exact absurd eq same
      · rw [place, if_neg same, List.map_cons, if_neg same, ih keyed.2 ⟨e, he, eq⟩]

theorem eraseP_eq_filter {id : String} {docs : List Document} (keyed : (docs.map (·.id)).Nodup) :
    docs.eraseP (·.id == id) = docs.filter (·.id != id) := by
  induction docs with
  | nil => rfl
  | cons d rest ih =>
    rw [List.map_cons, List.nodup_cons] at keyed
    by_cases same : d.id = id
    · have others : rest.filter (·.id != id) = rest := by
        refine List.filter_eq_self.mpr fun e he => bne_iff_ne.mpr fun eq => keyed.1 ?_
        exact List.mem_map.mpr ⟨e, he, eq.trans same.symm⟩
      simp [same, others]
    · simp [same, ih keyed.2]

/-- A new document of the fields. -/
def made (idAt : Nat → String) (store : MemoryStore) (now : Time.Instant) (fields : Json.Members) :
    Document :=
  ⟨idAt store.issued, now.toMilliseconds,
    Document.withoutSystemFields (Document.withoutSystemFields fields)⟩

/-- The store with one document more, for which an id was made up. -/
def next (store : MemoryStore) (table : Table) (doc : Document) : MemoryStore :=
  { store.setDocs table (store.docs table ++ [doc]) with issued := store.issued + 1 }

/-- What an operation may do to a store. -/
inductive Does (idAt : Nat → String) (store : MemoryStore) : StoreOp → MemoryStore → Prop
  | nothing {op : StoreOp} : Does idAt store op store
  | insert {table : Table} {fields : Json.Members} {now : Time.Instant} :
      Does idAt store (.insert table fields)
        (store.next table (made idAt store now fields))
  | update {table : Table} {id : String} {u : DocumentUpdate} {doc : Document}
      (found : doc ∈ store.docs table) (named : doc.id = id) :
      Does idAt store (.update table id u) (store.setDocs table ((store.docs table).map fun d =>
        if d.id = id then { doc with fields := u.applyFields doc.fields } else d))
  | delete {table : Table} {id : String} :
      Does idAt store (.delete table id)
        (store.setDocs table ((store.docs table).filter (·.id != id)))

/-- An insert makes up an id, and the new document takes the place of one that has it. -/
theorem insert_place (store : MemoryStore) (idAt : Nat → String) (now : Time.Instant) (table : Table)
    (fields : Json.Members) : store.insert ⟨idAt, now⟩ table fields =
      (idAt store.issued, { store.setDocs table
        (place (made idAt store now fields) (store.docs table)) with issued := store.issued + 1 }) := by
  have noId := Document.get?_withoutSystemFields_id fields
  have noTime : (Document.withoutSystemFields fields).get? creationTimeField = none := by
    rw [Document.withoutSystemFields, Json.Members.get?_erase_self]
  simp only [MemoryStore.insert, add, newDocument, noId, noTime]
  cases table <;> rfl

theorem insert_eq {idAt : Nat → String} {now : Time.Instant} {fields : Json.Members}
    (unissued : store.Unissued idAt) : store.insert ⟨idAt, now⟩ table fields =
      (idAt store.issued, store.next table (made idAt store now fields)) := by
  rw [insert_place, next, place_of_not_mem (unissued _ (Nat.le_refl _) table)]

/-- Another list of documents in one table. -/
theorem docs_setDocs {docs : List Document} (other : Table) :
    (store.setDocs table docs).docs other = if other = table then docs else store.docs other := by
  split
  · next same => rw [same, docs_setDocs_self]
  · next ne => exact docs_setDocs_of_ne store docs ne

theorem docs_next {doc : Document} (other : Table) : (store.next table doc).docs other =
    if other = table then store.docs table ++ [doc] else store.docs other := by
  rw [← docs_setDocs]
  cases other <;> rfl

theorem mem_next {doc d : Document} {other : Table} :
    d ∈ (store.next table doc).docs other ↔ d ∈ store.docs other ∨ other = table ∧ d = doc := by
  rw [docs_next]
  by_cases same : other = table <;> simp [same]

theorem keyed_setDocs {docs : List Document} (keyed : store.Keyed) (own : (docs.map (·.id)).Nodup) :
    (store.setDocs table docs).Keyed := by
  intro other
  rw [docs_setDocs]
  split
  · exact own
  · exact keyed other

/-- Documents keep their ids when one of them changes. -/
theorem map_id_update {id : String} {u : DocumentUpdate} {doc : Document} (named : doc.id = id)
    (docs : List Document) : (docs.map fun d =>
      if d.id = id then { doc with fields := u.applyFields doc.fields } else d).map (·.id) =
        docs.map (·.id) := by
  rw [List.map_map]
  refine List.map_congr_left fun d _ => ?_
  by_cases h : d.id = id <;> simp [h, named]

/-- A new document has an id of its own. -/
theorem keyed_next {idAt : Nat → String} {now : Time.Instant} {fields : Json.Members}
    (keyed : store.Keyed) (unissued : store.Unissued idAt) :
    (store.next table (made idAt store now fields)).Keyed := by
  intro other
  rw [docs_next]
  split
  · rw [List.map_append, List.map_singleton, List.nodup_append]
    refine ⟨keyed table, List.nodup_singleton _, fun id known id' last => ?_⟩
    obtain ⟨doc, was, rfl⟩ := List.mem_map.mp known
    rw [List.mem_singleton.mp last]
    exact unissued _ (Nat.le_refl _) table doc was
  · exact keyed other

theorem unissued_next {idAt : Nat → String} {now : Time.Instant} {fields : Json.Members}
    (unique : ∀ m n, idAt m = idAt n → m = n) (unissued : store.Unissued idAt) :
    (store.next table (made idAt store now fields)).Unissued idAt := by
  intro n le other doc known
  have le : store.issued + 1 ≤ n := le
  rcases mem_next.mp known with known | ⟨-, rfl⟩
  · exact unissued n (Nat.le_of_succ_le le) other doc known
  · intro same
    have := unique _ _ same
    omega

theorem perform_does {idAt : Nat → String} (now : Time.Instant) (op : StoreOp)
    (keyed : store.Keyed) (unissued : store.Unissued idAt) :
    Does idAt store op (store.perform ⟨idAt, now⟩ op).2 := by
  cases op with
  | get table id => exact .nothing
  | query table q => exact .nothing
  | insert table fields =>
    rw [perform, insert_eq unissued]
    exact .insert
  | update table id u =>
    simp only [perform, MemoryStore.update]
    cases found : store.get? table id with
    | none => exact .nothing
    | some doc =>
      obtain ⟨known, named⟩ := mem_of_get? found
      dsimp only
      cases changed : u.applyTo? doc with
      | none => exact .nothing
      | some new =>
        obtain rfl := DocumentUpdate.eq_of_applyTo? changed
        have put : place { doc with fields := u.applyFields doc.fields } (store.docs table) = _ :=
          place_of_mem (keyed table) ⟨doc, known, rfl⟩
        dsimp only
        rw [put]
        exact named ▸ .update known rfl
  | delete table id =>
    simp only [perform, MemoryStore.delete]
    cases store.get? table id with
    | none => exact .nothing
    | some doc =>
      dsimp only
      rw [eraseP_eq_filter (keyed table)]
      exact .delete

variable {idAt : Nat → String} {W : String}

/-- Whatever has the id is in the workspace. -/
def Owned (W : String) (store : MemoryStore) (table : Table) (id : String) : Prop :=
  ∀ doc ∈ store.docs table, doc.id = id → doc.inWorkspace W

/-- The id is not one that is still to be made up, and whatever has it is in the workspace. -/
def Known (idAt : Nat → String) (W : String) (store : MemoryStore) (table : Table) (id : String) :
    Prop :=
  Owned W store table id ∧ ∀ n, store.issued ≤ n → id ≠ idAt n

/-- An operation that stays within the workspace. -/
def Confined (idAt : Nat → String) (W : String) (store : MemoryStore) : StoreOp → Prop
  | .get _ _ | .query _ _ => True
  | .insert table fields => fields.get? "workspaceId" = some (.string W) ∧
      (table = .listEntries →
        (∀ id, fields.get? "listId" = some (.string id) → Known idAt W store .lists id) ∧
        ∀ id, fields.get? "recordId" = some (.string id) → Known idAt W store .records id)
  | .update table id u => Owned W store table id ∧ ∀ name ∈ Document.linkFields, name ∉ u.fields
  | .delete table id => Owned W store table id

/-- How a store may grow into a later one: the documents of other workspaces stay, and any document
has the links it had or is new in the workspace. -/
structure Grows (idAt : Nat → String) (W : String) (store after : MemoryStore) : Prop where
  foreign : ∀ table, (after.docs table).filter (!·.inWorkspace W) =
    (store.docs table).filter (!·.inWorkspace W)
  issued : store.issued ≤ after.issued
  origin : ∀ table, ∀ doc ∈ after.docs table, (∃ old ∈ store.docs table, old.links = doc.links) ∨
    doc.inWorkspace W ∧ ∃ n, store.issued ≤ n ∧ n < after.issued ∧ doc.id = idAt n

theorem Grows.refl (store : MemoryStore) : Grows idAt W store store where
  foreign _ := rfl
  issued := Nat.le_refl _
  origin _ doc known := .inl ⟨doc, known, rfl⟩

theorem Grows.trans {middle : MemoryStore} (h : Grows idAt W store middle)
    (h' : Grows idAt W middle after) : Grows idAt W store after where
  foreign table := (h'.foreign table).trans (h.foreign table)
  issued := Nat.le_trans h.issued h'.issued
  origin table doc known := by
    rcases h'.origin table doc known with ⟨old, known, same⟩ | ⟨own, n, le, lt, made⟩
    · rcases h.origin table old known with ⟨older, known, same'⟩ | ⟨own, n, le, lt, made⟩
      · exact .inl ⟨older, known, same'.trans same⟩
      · refine .inr ⟨Document.inWorkspace_of_links same ▸ own, n, le, Nat.lt_of_lt_of_le lt h'.issued, ?_⟩
        exact (Document.links_eq.mp same).1.symm.trans made
    · exact .inr ⟨own, n, Nat.le_trans h.issued le, lt, made⟩

theorem Owned.grows {id : String} (h : Owned W store table id) (g : Grows idAt W store after) :
    Owned W after table id := by
  intro doc known named
  rcases g.origin table doc known with ⟨old, known, same⟩ | ⟨own, -⟩
  · have inside := h old known ((Document.links_eq.mp same).1.trans named)
    rwa [Document.inWorkspace_of_links same] at inside
  · exact own

theorem owned_of_mem {doc : Document} (keyed : store.Keyed) (known : doc ∈ store.docs table)
    (inside : doc.inWorkspace W) : Owned W store table doc.id := by
  intro other known' same
  rwa [List.inj_on_of_nodup_map (keyed table) known' known same]

theorem known_of_mem {doc : Document} (sound : store.Sound idAt) (known : doc ∈ store.docs table)
    (inside : doc.inWorkspace W) : Known idAt W store table doc.id :=
  ⟨owned_of_mem sound.keyed known inside, fun n le => (sound.fresh n le).1 table doc known⟩

private theorem grows_setDocs {docs : List Document}
    (foreign : docs.filter (!·.inWorkspace W) = (store.docs table).filter (!·.inWorkspace W))
    (origin : ∀ doc ∈ docs, ∃ old ∈ store.docs table, old.links = doc.links) :
    Grows idAt W store (store.setDocs table docs) where
  foreign other := by
    rw [docs_setDocs]
    split
    · next same => rw [same, foreign]
    · rfl
  issued := Nat.le_of_eq (issued_setDocs ..).symm
  origin other doc known := by
    rw [docs_setDocs] at known
    split at known
    · next same => exact .inl (same ▸ origin doc known)
    · exact .inl ⟨doc, known, rfl⟩

/-- Nothing but links matters to a sound store. -/
theorem Sound.of_origin (sound : store.Sound idAt) (keyed : after.Keyed)
    (issued : store.issued ≤ after.issued)
    (origin : ∀ table, ∀ doc ∈ after.docs table, ∃ old ∈ store.docs table, old.links = doc.links) :
    after.Sound idAt where
  keyed := keyed
  coherent entry known := by
    obtain ⟨old, known, same⟩ := origin .listEntries entry known
    obtain ⟨-, ws, listId, recordId⟩ := Document.links_eq.mp same
    rw [← ws, ← listId, ← recordId]
    refine ⟨fun list hl names => ?_, fun record hr names => ?_⟩
    · obtain ⟨list', hl, same⟩ := origin .lists list hl
      obtain ⟨id, ws, -⟩ := Document.links_eq.mp same
      rw [← ws]
      exact (sound.coherent old known).1 list' hl (id ▸ names)
    · obtain ⟨record', hr, same⟩ := origin .records record hr
      obtain ⟨id, ws, -⟩ := Document.links_eq.mp same
      rw [← ws]
      exact (sound.coherent old known).2 record' hr (id ▸ names)
  fresh n le := by
    have fresh := sound.fresh n (Nat.le_trans issued le)
    refine ⟨fun table doc known => ?_, fun entry known => ?_⟩
    · obtain ⟨old, known, same⟩ := origin table doc known
      rw [← (Document.links_eq.mp same).1]
      exact fresh.1 table old known
    · obtain ⟨old, known, same⟩ := origin .listEntries entry known
      obtain ⟨-, -, listId, recordId⟩ := Document.links_eq.mp same
      rw [← listId, ← recordId]
      exact fresh.2 old known

private theorem sound_setDocs {docs : List Document} (sound : store.Sound idAt)
    (keyed : (docs.map (·.id)).Nodup)
    (foreign : docs.filter (!·.inWorkspace W) = (store.docs table).filter (!·.inWorkspace W))
    (origin : ∀ doc ∈ docs, ∃ old ∈ store.docs table, old.links = doc.links) :
    (store.setDocs table docs).Sound idAt ∧ Grows idAt W store (store.setDocs table docs) := by
  have grows : Grows idAt W store (store.setDocs table docs) := grows_setDocs foreign origin
  refine ⟨sound.of_origin (keyed_setDocs sound.keyed keyed) grows.issued fun other doc known => ?_, grows⟩
  rw [docs_setDocs] at known
  split at known
  · next same => exact same ▸ origin doc known
  · exact ⟨doc, known, rfl⟩

/-- A map that changes documents of the workspace only does not show to others. -/
private theorem filter_map_foreign {f : Document → Document} {docs : List Document}
    (h : ∀ doc ∈ docs, f doc = doc ∨ doc.inWorkspace W ∧ (f doc).inWorkspace W) :
    (docs.map f).filter (!·.inWorkspace W) = docs.filter (!·.inWorkspace W) := by
  induction docs with
  | nil => rfl
  | cons doc rest ih =>
    rw [List.forall_mem_cons] at h
    rw [List.map_cons, List.filter_cons, List.filter_cons, ih h.2]
    rcases h.1 with same | ⟨inside, inside'⟩
    · rw [same]
    · simp [inside, inside']

private theorem sound_update {id : String} {u : DocumentUpdate} {doc : Document}
    (sound : store.Sound idAt) (found : doc ∈ store.docs table) (named : doc.id = id)
    (confined : Confined idAt W store (.update table id u)) :
    let docs := (store.docs table).map fun d =>
      if d.id = id then { doc with fields := u.applyFields doc.fields } else d
    (store.setDocs table docs).Sound idAt ∧ Grows idAt W store (store.setDocs table docs) := by
  obtain ⟨owned, links⟩ := confined
  have same : Document.links { doc with fields := u.applyFields doc.fields } = doc.links :=
    Document.links_update links
  refine sound_setDocs sound ?_ (filter_map_foreign fun d known => ?_) fun d known => ?_
  · rw [map_id_update named]
    exact sound.keyed table
  · by_cases h : d.id = id
    · rw [if_pos h]
      exact .inr ⟨owned d known h, Document.inWorkspace_of_links same ▸ owned doc found named⟩
    · exact .inl (if_neg h)
  · obtain ⟨old, was, rfl⟩ := List.mem_map.mp known
    split
    · exact ⟨doc, found, same.symm⟩
    · exact ⟨old, was, rfl⟩

private theorem sound_delete {id : String} (sound : store.Sound idAt)
    (owned : Owned W store table id) :
    let docs := (store.docs table).filter (·.id != id)
    (store.setDocs table docs).Sound idAt ∧ Grows idAt W store (store.setDocs table docs) := by
  refine sound_setDocs sound ?_ ?_ fun d known => ⟨d, (List.mem_filter.mp known).1, rfl⟩
  · exact (sound.keyed table).sublist (List.filter_sublist.map _)
  · rw [List.filter_filter]
    refine List.filter_congr fun d known => ?_
    by_cases h : d.id = id
    · simp [owned d known h]
    · simp [h]

theorem made_text {now : Time.Instant} {fields : Json.Members} {name : String}
    (h : name ∈ Document.linkFields) : (made idAt store now fields).getText? name =
      (fields.get? name).bind (·.asString?) := by
  rw [Document.getText?_link h, made, Document.get?_withoutSystemFields_link h,
    Document.get?_withoutSystemFields_link h]

theorem made_inside {now : Time.Instant} {fields : Json.Members}
    (h : fields.get? "workspaceId" = some (.string W)) :
    (made idAt store now fields).inWorkspace W := by
  rw [Document.inWorkspace, Document.workspaceId?, made_text (by decide), h]
  simp [Json.Value.asString?]

theorem workspaceId_of_inside {doc : Document} (h : doc.inWorkspace W) :
    doc.workspaceId? = some W := by
  simpa [Document.inWorkspace] using h

private theorem made_names {now : Time.Instant} {fields : Json.Members} {name id : String}
    (h : name ∈ Document.linkFields)
    (names : (made idAt store now fields).getText? name = some id) :
    fields.get? name = some (.string id) := by
  rw [made_text h] at names
  obtain ⟨value, found, text⟩ := Option.bind_eq_some_iff.mp names
  cases value with
  | string text' =>
    cases text
    exact found
  | _ => cases text

private theorem coherent_next {fields : Json.Members} {now : Time.Instant}
    (sound : store.Sound idAt) (confined : Confined idAt W store (.insert table fields)) :
    (store.next table (made idAt store now fields)).Coherent := by
  obtain ⟨inside, entries⟩ := confined
  have own : (made idAt store now fields).workspaceId? = some W :=
    workspaceId_of_inside (made_inside inside)
  have unnamed := sound.fresh store.issued (Nat.le_refl _)
  intro entry known
  rcases mem_next.mp (show entry ∈ (store.next table _).docs .listEntries from known) with
    known | ⟨here, rfl⟩
  · refine ⟨fun list hl names => ?_, fun record hr names => ?_⟩
    · rcases mem_next.mp (show list ∈ (store.next table _).docs .lists from hl) with hl | ⟨-, rfl⟩
      · exact (sound.coherent entry known).1 list hl names
      · exact absurd names (unnamed.2 entry known).1
    · rcases mem_next.mp (show record ∈ (store.next table _).docs .records from hr) with hr | ⟨-, rfl⟩
      · exact (sound.coherent entry known).2 record hr names
      · exact absurd names (unnamed.2 entry known).2
  · subst here
    refine ⟨fun list hl names => ?_, fun record hr names => ?_⟩
    · rcases mem_next.mp (show list ∈ (store.next _ _).docs .lists from hl) with hl | ⟨other, -⟩
      · have known := (entries rfl).1 list.id (made_names (by decide) names)
        rw [own, workspaceId_of_inside (known.1 list hl rfl)]
      · cases other
    · rcases mem_next.mp (show record ∈ (store.next _ _).docs .records from hr) with hr | ⟨other, -⟩
      · have known := (entries rfl).2 record.id (made_names (by decide) names)
        rw [own, workspaceId_of_inside (known.1 record hr rfl)]
      · cases other

private theorem fresh_next {fields : Json.Members} {now : Time.Instant}
    (unique : ∀ m n, idAt m = idAt n → m = n) (sound : store.Sound idAt)
    (confined : Confined idAt W store (.insert table fields)) :
    (store.next table (made idAt store now fields)).Fresh idAt := by
  intro n le
  refine ⟨unissued_next unique sound.fresh.unissued n le, fun entry known => ?_⟩
  have le : store.issued ≤ n := Nat.le_of_succ_le le
  rcases mem_next.mp (show entry ∈ (store.next table _).docs .listEntries from known) with
    known | ⟨here, rfl⟩
  · exact (sound.fresh n le).2 entry known
  · obtain ⟨lists, records⟩ := confined.2 here.symm
    exact ⟨fun names => (lists _ (made_names (by decide) names)).2 n le rfl,
      fun names => (records _ (made_names (by decide) names)).2 n le rfl⟩

private theorem sound_insert {fields : Json.Members} {now : Time.Instant}
    (unique : ∀ m n, idAt m = idAt n → m = n) (sound : store.Sound idAt)
    (confined : Confined idAt W store (.insert table fields)) :
    (store.next table (made idAt store now fields)).Sound idAt ∧
      Grows idAt W store (store.next table (made idAt store now fields)) := by
  have inside : (made idAt store now fields).inWorkspace W := made_inside confined.1
  have keyed : (store.next table (made idAt store now fields)).Keyed :=
    keyed_next sound.keyed sound.fresh.unissued
  refine ⟨⟨keyed, coherent_next sound confined, fresh_next unique sound confined⟩,
    ⟨fun other => ?_, Nat.le_succ _, fun other doc known => ?_⟩⟩
  · rw [docs_next]
    split
    · next same => simp [same, inside]
    · rfl
  · rcases mem_next.mp known with known | ⟨-, rfl⟩
    · exact .inl ⟨doc, known, rfl⟩
    · exact .inr ⟨inside, store.issued, Nat.le_refl _, Nat.lt_succ_self _, rfl⟩

/-- An operation that stays within a workspace keeps a store sound and lets it grow there only. -/
theorem sound_of_does {op : StoreOp} (unique : ∀ m n, idAt m = idAt n → m = n)
    (sound : store.Sound idAt) (confined : Confined idAt W store op) (does : Does idAt store op after) :
    after.Sound idAt ∧ Grows idAt W store after := by
  cases does with
  | nothing => exact ⟨sound, .refl store⟩
  | insert => exact sound_insert unique sound confined
  | update found named => exact sound_update sound found named confined
  | delete => exact sound_delete sound confined

end MemoryStore
end Automation
