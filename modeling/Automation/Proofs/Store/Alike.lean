import Automation.Proofs.Store.Isolation

/-!
Stores that a workspace cannot tell apart: they hold the same documents of it, and of all others
documents with the same ids in the same workspaces.
-/
namespace Automation.MemoryStore

/-- The stores differ at most in fields of documents of other workspaces. -/
structure Alike (W : String) (store other : MemoryStore) : Prop where
  own : ∀ table, (store.docs table).filter (·.inWorkspace W) =
    (other.docs table).filter (·.inWorkspace W)
  foreign : ∀ table,
    ((store.docs table).filter (!·.inWorkspace W)).map (fun doc => (doc.id, doc.workspaceId?)) =
      ((other.docs table).filter (!·.inWorkspace W)).map fun doc => (doc.id, doc.workspaceId?)
  issued : store.issued = other.issued

variable {W : String} {store other store' other' : MemoryStore} {table : Table} {id : String}
  {idAt : Nat → String}

theorem Alike.refl (store : MemoryStore) : Alike W store store := ⟨fun _ => rfl, fun _ => rfl, rfl⟩

theorem Alike.symm (h : Alike W store other) : Alike W other store :=
  ⟨fun table => (h.own table).symm, fun table => (h.foreign table).symm, h.issued.symm⟩

theorem Alike.mem_own (h : Alike W store other) {doc : Document} (known : doc ∈ store.docs table)
    (inside : doc.inWorkspace W) : doc ∈ other.docs table := by
  have own : doc ∈ (store.docs table).filter (·.inWorkspace W) :=
    List.mem_filter.mpr ⟨known, inside⟩
  rw [h.own] at own
  exact (List.mem_filter.mp own).1

/-- Any document has a counterpart with its id and workspace. -/
theorem Alike.counterpart (h : Alike W store other) {doc : Document}
    (known : doc ∈ store.docs table) :
    ∃ twin ∈ other.docs table, twin.id = doc.id ∧ twin.inWorkspace W = doc.inWorkspace W := by
  by_cases inside : doc.inWorkspace W
  · exact ⟨doc, h.mem_own known inside, rfl, rfl⟩
  · have out : (doc.id, doc.workspaceId?) ∈ ((store.docs table).filter (!·.inWorkspace W)).map
        fun doc => (doc.id, doc.workspaceId?) :=
      List.mem_map_of_mem (f := fun doc : Document => (doc.id, doc.workspaceId?))
        (List.mem_filter.mpr ⟨known, by simpa using inside⟩)
    rw [h.foreign] at out
    obtain ⟨twin, held, same⟩ := List.mem_map.mp out
    obtain ⟨named, ws⟩ := Prod.mk.inj same
    refine ⟨twin, (List.mem_filter.mp held).1, named, ?_⟩
    rw [Document.inWorkspace, Document.inWorkspace, ws]

theorem Alike.owned (h : Alike W store other) (owned : Owned W store table id) :
    Owned W other table id := by
  intro doc known named
  obtain ⟨twin, held, same, inside⟩ := h.symm.counterpart known
  rw [← inside]
  exact owned twin held (same.trans named)

theorem Alike.known (h : Alike W store other) (known : Known idAt W store table id) :
    Known idAt W other table id :=
  ⟨h.owned known.1, h.issued ▸ known.2⟩

theorem Alike.confined (h : Alike W store other) {op : StoreOp}
    (confined : Confined idAt W store op) : Confined idAt W other op := by
  cases op with
  | get table id => trivial
  | query table q => trivial
  | insert table fields =>
    refine ⟨confined.1, fun entries => ?_⟩
    obtain ⟨lists, records⟩ := confined.2 entries
    exact ⟨fun id names => h.known (lists id names), fun id names => h.known (records id names)⟩
  | update table id u => exact ⟨h.owned confined.1, confined.2⟩
  | delete table id => exact h.owned confined

theorem get?_of_mem {doc : Document} (keyed : store.Keyed) (known : doc ∈ store.docs table) :
    store.get? table doc.id = some doc := by
  rw [get?]
  cases found : (store.docs table).find? (·.id == doc.id) with
  | none => exact absurd (List.find?_eq_none.mp found doc known) (by simp)
  | some held =>
    have same : held.id = doc.id := by simpa using List.find?_some found
    rw [List.inj_on_of_nodup_map (keyed table) (List.mem_of_find?_eq_some found) known same]

/-- What is found by an id is the same, or in another workspace on both sides. -/
theorem Alike.get? (h : Alike W store other) (keyed : store.Keyed) (keyed' : other.Keyed)
    (table : Table) (id : String) : store.get? table id = other.get? table id ∨
      ∃ doc twin, store.get? table id = some doc ∧ other.get? table id = some twin ∧
        doc.inWorkspace W = false ∧ twin.inWorkspace W = false := by
  cases found : store.get? table id with
  | none =>
    cases found' : other.get? table id with
    | none => exact .inl rfl
    | some twin =>
      obtain ⟨known, rfl⟩ := mem_of_get? found'
      obtain ⟨doc, held, same, -⟩ := h.symm.counterpart known
      rw [← same, get?_of_mem keyed held] at found
      cases found
  | some doc =>
    obtain ⟨known, rfl⟩ := mem_of_get? found
    by_cases inside : doc.inWorkspace W
    · exact .inl (get?_of_mem keyed' (h.mem_own known inside)).symm
    · obtain ⟨twin, held, same, ws⟩ := h.counterpart known
      refine .inr ⟨doc, twin, rfl, same ▸ get?_of_mem keyed' held, by simpa using inside, ?_⟩
      rw [ws]
      simpa using inside

theorem Alike.get?_owned (h : Alike W store other) (keyed : store.Keyed) (keyed' : other.Keyed)
    (owned : Owned W store table id) : store.get? table id = other.get? table id := by
  rcases h.get? keyed keyed' table id with same | ⟨doc, -, found, -, outside, -⟩
  · exact same
  · obtain ⟨known, named⟩ := mem_of_get? found
    rw [owned doc known named] at outside
    cases outside

/-- A query finds the same if it finds documents of the workspace only. -/
theorem Alike.query (h : Alike W store other) {q : Query}
    (inside : ∀ doc ∈ store.docs table, q.accepts doc → doc.inWorkspace W)
    (inside' : ∀ doc ∈ other.docs table, q.accepts doc → doc.inWorkspace W) :
    store.query table q = other.query table q := by
  have own {docs : List Document} (inside : ∀ doc ∈ docs, q.accepts doc → doc.inWorkspace W) :
      docs.filter q.accepts = (docs.filter (·.inWorkspace W)).filter q.accepts := by
    rw [List.filter_filter]
    refine List.filter_congr fun doc known => ?_
    by_cases accepted : q.accepts doc
    · simp [accepted, inside doc known accepted]
    · simp [accepted]
  unfold MemoryStore.query Query.select
  rw [own inside, own inside', h.own]

/-- Stores that grow in the workspace only stay alike if they get the same documents there. -/
theorem Alike.grows (h : Alike W store other) (grown : Grows idAt W store store')
    (grown' : Grows idAt W other other') (issued : store'.issued = other'.issued)
    (own : ∀ table, (store'.docs table).filter (·.inWorkspace W) =
      (other'.docs table).filter (·.inWorkspace W)) : Alike W store' other' where
  own := own
  foreign table := by rw [grown.foreign, grown'.foreign, h.foreign]
  issued := issued

/-- The same answer, with the same documents of the workspace behind it. -/
structure Matches {α : Type} (W : String) (p q : α × MemoryStore) : Prop where
  answer : p.1 = q.1
  issued : p.2.issued = q.2.issued
  own : ∀ table, (p.2.docs table).filter (·.inWorkspace W) =
    (q.2.docs table).filter (·.inWorkspace W)

private theorem matches_setDocs {α : Type} {answer : α} {docs docs' : List Document}
    (h : Alike W store other)
    (same : docs.filter (·.inWorkspace W) = docs'.filter (·.inWorkspace W)) :
    Matches W (answer, store.setDocs table docs) (answer, other.setDocs table docs') where
  answer := rfl
  issued := by rw [issued_setDocs, issued_setDocs, h.issued]
  own place := by
    rw [docs_setDocs, docs_setDocs]
    split
    · exact same
    · exact h.own place

variable {now : Time.Instant}

theorem Alike.matches_insert (h : Alike W store other) (fresh : store.Fresh idAt)
    (fresh' : other.Fresh idAt) {fields : Json.Members} :
    Matches W (store.perform ⟨idAt, now⟩ (.insert table fields))
      (other.perform ⟨idAt, now⟩ (.insert table fields)) := by
  have same : made idAt store now fields = made idAt other now fields := by
    rw [made, made, h.issued]
  simp only [perform, insert_eq fresh.unissued, insert_eq fresh'.unissued, same, h.issued]
  refine ⟨rfl, congrArg (· + 1) h.issued, fun place => ?_⟩
  rw [docs_next, docs_next]
  split
  · rw [List.filter_append, List.filter_append, h.own]
  · exact h.own place

private theorem filter_place {docs : List Document} {doc old : Document}
    (keyed : (docs.map (·.id)).Nodup) (known : old ∈ docs) (named : old.id = doc.id)
    (inside : old.inWorkspace W) (inside' : doc.inWorkspace W) :
    (place doc docs).filter (·.inWorkspace W) =
      (docs.filter (·.inWorkspace W)).map fun d => if d.id = doc.id then doc else d := by
  rw [place_of_mem keyed ⟨old, known, named⟩, List.filter_map]
  congr 1
  refine List.filter_congr fun d held => ?_
  by_cases same : d.id = doc.id
  · have : d = old := List.inj_on_of_nodup_map keyed held known (same.trans named.symm)
    simp [this, named, inside, inside']
  · simp [same]

theorem Alike.matches_update (h : Alike W store other) (keyed : store.Keyed)
    (keyed' : other.Keyed) {u : DocumentUpdate}
    (confined : Confined idAt W store (.update table id u)) :
    Matches W (store.perform ⟨idAt, now⟩ (.update table id u))
      (other.perform ⟨idAt, now⟩ (.update table id u)) := by
  obtain ⟨owned, links⟩ := confined
  simp only [perform, MemoryStore.update, ← h.get?_owned keyed keyed' owned]
  cases found : store.get? table id with
  | none => exact ⟨rfl, h.issued, h.own⟩
  | some doc =>
    dsimp only
    cases changed : u.applyTo? doc with
    | none => exact ⟨rfl, h.issued, h.own⟩
    | some new =>
      obtain ⟨known, named⟩ := mem_of_get? found
      have inside := owned doc known named
      obtain ⟨named, inside'⟩ : doc.id = new.id ∧ new.inWorkspace W := by
        rw [DocumentUpdate.eq_of_applyTo? changed]
        exact ⟨rfl, (Document.inWorkspace_of_links (Document.links_update links)).trans inside⟩
      refine matches_setDocs h ?_
      rw [filter_place (keyed table) known named inside inside', h.own,
        filter_place (keyed' table) (h.mem_own known inside) named inside inside']

theorem Alike.matches_delete (h : Alike W store other) (keyed : store.Keyed)
    (keyed' : other.Keyed) (owned : Owned W store table id) :
    Matches W (store.perform ⟨idAt, now⟩ (.delete table id))
      (other.perform ⟨idAt, now⟩ (.delete table id)) := by
  simp only [perform, MemoryStore.delete, ← h.get?_owned keyed keyed' owned]
  cases store.get? table id with
  | none => exact ⟨rfl, h.issued, h.own⟩
  | some doc =>
    refine matches_setDocs h ?_
    rw [eraseP_eq_filter (keyed table), eraseP_eq_filter (keyed' table), List.filter_comm, h.own,
      List.filter_comm]

/-- Stores stay alike when one operation that stays within the workspace is done to both. -/
theorem Alike.perform (h : Alike W store other) (unique : ∀ m n, idAt m = idAt n → m = n)
    (sound : store.Sound idAt) (sound' : other.Sound idAt) {op : StoreOp}
    (confined : Confined idAt W store op) :
    Alike W (store.perform ⟨idAt, now⟩ op).2 (other.perform ⟨idAt, now⟩ op).2 := by
  have grown := (sound_of_does unique sound confined (perform_does now op sound.keyed sound.fresh.unissued)).2
  have grown' := (sound_of_does unique sound' (h.confined confined)
    (perform_does now op sound'.keyed sound'.fresh.unissued)).2
  have settle (m : Matches W (store.perform ⟨idAt, now⟩ op) (other.perform ⟨idAt, now⟩ op)) :
      Alike W (store.perform ⟨idAt, now⟩ op).2 (other.perform ⟨idAt, now⟩ op).2 :=
    h.grows grown grown' m.issued m.own
  cases op with
  | get table id => exact h
  | query table q => exact h
  | insert table fields => exact settle (h.matches_insert sound.fresh sound'.fresh)
  | update table id u => exact settle (h.matches_update sound.keyed sound'.keyed confined)
  | delete table id => exact settle (h.matches_delete sound.keyed sound'.keyed confined)

end Automation.MemoryStore
