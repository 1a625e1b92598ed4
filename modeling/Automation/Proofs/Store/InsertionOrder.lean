import Automation.Proofs.Store.Answers
import Automation.Proofs.Store.Served
import Automation.Store.Seed
import Mathlib.Data.Finset.Dedup
import Mathlib.Data.Set.Card

/-!
A store in memory is a collection of documents in the order in which their ids were first inserted, whatever
it was filled with and whatever it has been asked for.
-/
namespace Automation

/-- The documents of a seed in the order in which they are added. -/
def SeedData.entries (seed : SeedData) : List (Table × Json.Members) :=
  seed.tables.flatMap fun (table, docs) => docs.map (table, ·)

/-- A store with the ids under which something was inserted or deleted so far, oldest first. -/
structure Chronicle where
  store : MemoryStore
  inserted : List (Table × String)
  deleted : List (Table × String)

namespace Chronicle

/-- The ids under which documents are added one after another. -/
def added (stamp : Stamp) : MemoryStore → List (Table × Json.Members) → List (Table × String)
  | _, [] => []
  | store, (table, fields) :: rest =>
    let (id, store) := store.add stamp table fields
    (table, id) :: added stamp store rest

def ofSeed (stamp : Stamp) (seed : SeedData) : Chronicle :=
  ⟨.ofSeed stamp seed, added stamp {} seed.entries, []⟩

/-- The id under which an operation inserted something, going by its answer. -/
def insertion : (op : StoreOp) → Except StoreError op.Answer → List (Table × String)
  | .insert table _, .ok id => [(table, id)]
  | _, _ => []

/-- The id of what an operation deleted, going by its answer. -/
def deletion : (op : StoreOp) → Except StoreError op.Answer → List (Table × String)
  | .delete table id, .ok () => [(table, id)]
  | _, _ => []

/-- One operation at a time. -/
def next (idAt : Nat → String) (past : Chronicle) (asked : StoreOp × Time.Instant) : Chronicle :=
  let (answer, store) := past.store.perform ⟨idAt, asked.2⟩ asked.1
  ⟨store, past.inserted ++ insertion asked.1 answer, past.deleted ++ deletion asked.1 answer⟩

/-- One operation after another. -/
def after (idAt : Nat → String) (past : Chronicle) (asked : List (StoreOp × Time.Instant)) : Chronicle :=
  asked.foldl (next idAt) past

/-- A document was inserted under the id, and has not been deleted. -/
def Live (past : Chronicle) (table : Table) (id : String) : Prop :=
  (table, id) ∈ past.inserted ∧ (table, id) ∉ past.deleted

end Chronicle

namespace MemoryStore

def ids (store : MemoryStore) (table : Table) : List String := (store.docs table).map (·.id)

/-- All tables but one are as they were. -/
def SameBut (table : Table) (store after : MemoryStore) : Prop :=
  ∀ other, other ≠ table → after.docs other = store.docs other

/-- What an operation answers, and what it leaves of a table: a new document comes last, a changed one stays
where it is with its id and its creation time, and a deleted one leaves the others in their order. An
operation that fails or is not applied leaves everything as it is. -/
def Honours (store : MemoryStore) : (op : StoreOp) → Except StoreError op.Answer → MemoryStore → Prop
  | .get table id, answer, after => after = store ∧ ∃ found, answer = .ok found ∧
      ∀ doc, found = some doc ↔ doc ∈ store.docs table ∧ doc.id = id
  | .query table q, answer, after => after = store ∧
      answer = .ok (match q.limit with
        | none => (store.docs table).filter q.accepts
        | some limit => ((store.docs table).filter q.accepts).take limit)
  | .insert table fields, answer, after => ∃ new, answer = .ok new.id ∧ new.id ∉ store.ids table ∧
      new.fields = Document.withoutSystemFields fields ∧
      after.docs table = store.docs table ++ [new] ∧ SameBut table store after
  | .update table id u, answer, after =>
      (∃ front old new back, answer = .ok true ∧ store.docs table = front ++ old :: back ∧
        old.id = id ∧ u.applyTo? old = some new ∧ new.id = old.id ∧ new.creationTime = old.creationTime ∧
        after.docs table = front ++ new :: back ∧ SameBut table store after) ∨
      (answer = .ok false ∧ id ∈ store.ids table ∨
        answer = .error (.notFound table id) ∧ id ∉ store.ids table) ∧ after = store
  | .delete table id, answer, after =>
      (∃ front old back, answer = .ok () ∧ store.docs table = front ++ old :: back ∧ old.id = id ∧
        after.docs table = front ++ back ∧ SameBut table store after) ∨
      answer = .error (.notFound table id) ∧ id ∉ store.ids table ∧ after = store

variable {store after : MemoryStore} {table : Table} {idAt : Nat → String}

theorem sameBut_setDocs {docs : List Document} : SameBut table store (store.setDocs table docs) :=
  fun _ ne => docs_setDocs_of_ne store docs ne

theorem get?_eq_none {id : String} : store.get? table id = none ↔ id ∉ store.ids table := by
  rw [get?, List.find?_eq_none, ids, List.mem_map]
  simp

theorem get?_eq_some (keyed : store.Keyed) {id : String} {doc : Document} :
    store.get? table id = some doc ↔ doc ∈ store.docs table ∧ doc.id = id := by
  refine ⟨mem_of_get?, fun ⟨known, named⟩ => ?_⟩
  cases found : store.get? table id with
  | none => exact absurd (named ▸ List.mem_map_of_mem known) (get?_eq_none.mp found)
  | some other =>
    obtain ⟨known', named'⟩ := mem_of_get? found
    exact congrArg some (List.inj_on_of_nodup_map (keyed table) known' known (named'.trans named.symm))

/-- An operation on a store with one document for an id. -/
theorem perform_honours (keyed : store.Keyed) (unissued : store.Unissued idAt) (now : Time.Instant)
    (op : StoreOp) :
    let performed := store.perform ⟨idAt, now⟩ op
    store.Honours op performed.1 performed.2 := by
  cases op with
  | get table id => exact ⟨rfl, _, rfl, fun doc => get?_eq_some keyed⟩
  | query table q =>
    refine ⟨rfl, congrArg Except.ok ?_⟩
    unfold query Query.select
    cases q.limit <;> rfl
  | insert table fields =>
    simp only [perform, insert_eq unissued]
    refine ⟨made idAt store now fields, rfl, fun known => ?_, Document.withoutSystemFields_idem fields, ?_,
      fun other ne => ?_⟩
    · obtain ⟨doc, was, same⟩ := List.mem_map.mp known
      exact unissued _ (Nat.le_refl _) table doc was same
    · rw [docs_next, if_pos rfl]
    · rw [docs_next, if_neg ne]
  | update table id u =>
    simp only [perform, MemoryStore.update]
    cases found : store.get? table id with
    | none => exact .inr ⟨.inr ⟨rfl, get?_eq_none.mp found⟩, rfl⟩
    | some old =>
      have named : old.id = id := (mem_of_get? found).2
      dsimp only
      cases applied : u.applyTo? old with
      | none => exact .inr ⟨.inl ⟨rfl, named ▸ List.mem_map_of_mem (mem_of_get? found).1⟩, rfl⟩
      | some new =>
        obtain rfl := DocumentUpdate.eq_of_applyTo? applied
        have here : (store.docs table).find? (·.id == old.id) = some old := named ▸ found
        obtain ⟨front, back, docs, placed⟩ :=
          place_split { old with fields := u.applyFields old.fields } here
        refine .inl ⟨front, old, _, back, rfl, docs, named, applied, rfl, rfl, ?_, sameBut_setDocs⟩
        exact (docs_setDocs_self ..).trans placed
  | delete table id =>
    simp only [perform, MemoryStore.delete]
    cases found : store.get? table id with
    | none => exact .inr ⟨rfl, get?_eq_none.mp found, rfl⟩
    | some old =>
      obtain ⟨known, named⟩ := mem_of_get? found
      obtain ⟨old, front, back, -, gone, docs, erased⟩ :=
        List.exists_of_eraseP (p := (·.id == id)) known (beq_iff_eq.mpr named)
      refine .inl ⟨front, old, back, rfl, docs, beq_iff_eq.mp gone, ?_, sameBut_setDocs⟩
      exact (docs_setDocs_self ..).trans erased

theorem map_id_place (doc : Document) (docs : List Document) : (place doc docs).map (·.id) =
    if doc.id ∈ docs.map (·.id) then docs.map (·.id) else docs.map (·.id) ++ [doc.id] := by
  induction docs with
  | nil => rfl
  | cons d rest ih =>
    unfold place
    by_cases same : d.id = doc.id
    · simp [same]
    · simp only [if_neg same, List.map_cons, ih, List.mem_cons, Ne.symm same, false_or]
      split <;> rfl

/-- Fields are added as a document with the id they bring along, or with one that is made up. -/
theorem add_placed (store : MemoryStore) (stamp : Stamp) (table : Table) (fields : Json.Members) :
    let doc := (store.newDocument stamp fields).1
    let added := store.add stamp table fields
    added.1 = doc.id ∧
      (∀ other, added.2.docs other =
        if other = table then place doc (store.docs table) else store.docs other) ∧
      (added.2.issued = store.issued ∧ fields.get? idField = some (.string doc.id) ∨
        added.2.issued = store.issued + 1 ∧ doc.id = stamp.idAt store.issued) := by
  simp only [add, newDocument]
  split
  · next id given => exact ⟨trivial, docs_setDocs, .inl ⟨issued_setDocs .., given⟩⟩
  · refine ⟨trivial, fun other => ?_, .inr ⟨issued_setDocs .., rfl⟩⟩
    rw [docs_setDocs]
    cases other <;> cases table <;> rfl

theorem ofSeed_eq (stamp : Stamp) (seed : SeedData) : MemoryStore.ofSeed stamp seed =
    seed.entries.foldl (fun store entry => (store.add stamp entry.1 entry.2).2) {} := by
  rw [ofSeed, SeedData.entries, List.foldl_flatMap]
  simp only [List.foldl_map]

end MemoryStore

namespace Chronicle

open MemoryStore

variable {past : Chronicle} {idAt : Nat → String}

/-- What the store has is what the chronicle tells: the live ids, in the order of their first insertions. No
id is told of that is still to be made up. -/
structure Kept (idAt : Nat → String) (past : Chronicle) : Prop where
  live : ∀ table id, id ∈ past.store.ids table ↔ past.Live table id
  ordered : ∀ table, (past.store.ids table).Pairwise fun first second =>
    past.inserted.idxOf (table, first) < past.inserted.idxOf (table, second)
  deleted : ∀ entry ∈ past.deleted, entry ∈ past.inserted
  unissued : ∀ n, past.store.issued ≤ n → ∀ table, (table, idAt n) ∉ past.inserted

theorem Kept.inserted (h : past.Kept idAt) {table : Table} {id : String}
    (known : id ∈ past.store.ids table) : (table, id) ∈ past.inserted := ((h.live table id).mp known).1

theorem Kept.keyed (h : past.Kept idAt) : past.store.Keyed := by
  intro table
  refine (h.ordered table).imp fun {first second} lt same => ?_
  exact Nat.lt_irrefl _ (same ▸ lt)

theorem Kept.fresh (h : past.Kept idAt) : past.store.Unissued idAt := by
  intro n le table doc known same
  exact h.unissued n le table (same ▸ h.inserted (List.mem_map_of_mem known))

/-- The positions of ids that were inserted stay when there are more insertions. -/
private theorem ordered_append {inserted : List (Table × String)} (more : List (Table × String)) {table : Table}
    {ids : List String} (known : ∀ id ∈ ids, (table, id) ∈ inserted)
    (ordered : ids.Pairwise fun first second =>
      inserted.idxOf (table, first) < inserted.idxOf (table, second)) :
    ids.Pairwise fun first second =>
      (inserted ++ more).idxOf (table, first) < (inserted ++ more).idxOf (table, second) := by
  refine ordered.imp_of_mem fun {first second} here there lt => ?_
  rwa [List.idxOf_append_of_mem (known first here), List.idxOf_append_of_mem (known second there)]

/-- One document is added: an id that is in use keeps its place, any other comes last. -/
private theorem Kept.put (h : past.Kept idAt) {table : Table} {id : String} {store : MemoryStore}
    (ids : ∀ other, store.ids other = if other = table ∧ id ∉ past.store.ids table
      then past.store.ids table ++ [id] else past.store.ids other)
    (new : id ∉ past.store.ids table → (table, id) ∉ past.inserted)
    (issued : past.store.issued ≤ store.issued) (other : ∀ n, store.issued ≤ n → id ≠ idAt n) :
    Kept idAt ⟨store, past.inserted ++ [(table, id)], past.deleted⟩ where
  live t i := by
    have named : (t, i) = (table, id) ↔ t = table ∧ i = id := Prod.mk.injEq .. ▸ Iff.rfl
    have here := h.live table id
    have there := h.live t i
    have gone := h.deleted (table, id)
    simp only [ids, Live, List.mem_append, List.mem_singleton, named] at here there ⊢
    by_cases fresh : id ∈ past.store.ids table
    · have live := here.mp fresh
      rw [if_neg fun both => both.2 fresh, there]
      refine ⟨fun both => ⟨.inl both.1, both.2⟩, fun ⟨known, kept⟩ => ⟨?_, kept⟩⟩
      rcases known with known | ⟨rfl, rfl⟩
      · exact known
      · exact live.1
    · by_cases same : t = table
      · subst same
        rw [if_pos ⟨rfl, fresh⟩, List.mem_append, List.mem_singleton, there]
        refine ⟨fun either => ?_, fun ⟨known, kept⟩ => ?_⟩
        · rcases either with both | rfl
          · exact ⟨.inl both.1, both.2⟩
          · exact ⟨.inr ⟨rfl, rfl⟩, fun was => new fresh (gone was)⟩
        · exact known.imp (⟨·, kept⟩) And.right
      · rw [if_neg fun both => same both.1, there]
        simp [same]
  ordered t := by
    have stays := ordered_append [(table, id)] (fun _ here => h.inserted here) (h.ordered t)
    rw [ids]
    split
    · next both =>
      obtain ⟨rfl, fresh⟩ := both
      refine List.pairwise_append.mpr ⟨stays, List.pairwise_singleton .., fun first known last here => ?_⟩
      rw [List.mem_singleton.mp here, List.idxOf_append_of_mem (h.inserted known),
        List.idxOf_append_of_notMem (new fresh)]
      exact Nat.lt_add_right _ (List.idxOf_lt_length_of_mem (h.inserted known))
    · exact stays
  deleted entry was := List.mem_append_left _ (h.deleted entry was)
  unissued n le t told := by
    rcases List.mem_append.mp told with told | last
    · exact h.unissued n (Nat.le_trans issued le) t told
    · exact other n le (congrArg Prod.snd (List.mem_singleton.mp last)).symm

/-- What adding to a store does to its ids. -/
private theorem Kept.add (h : past.Kept idAt) (unique : ∀ m n, idAt m = idAt n → m = n) (now : Time.Instant)
    (table : Table) (fields : Json.Members)
    (foreign : ∀ n, fields.get? idField ≠ some (.string (idAt n)))
    (undeleted : ∀ id, fields.get? idField = some (.string id) → (table, id) ∉ past.deleted) :
    let placed := past.store.add ⟨idAt, now⟩ table fields
    Kept idAt ⟨placed.2, past.inserted ++ [(table, placed.1)], past.deleted⟩ := by
  obtain ⟨named, docs, origin⟩ := past.store.add_placed ⟨idAt, now⟩ table fields
  generalize (past.store.newDocument ⟨idAt, now⟩ fields).1 = doc at named docs origin
  dsimp only
  rw [named]
  refine h.put (fun other => ?_) (fun fresh => ?_) ?_ fun n le same => ?_
  · rw [MemoryStore.ids, docs]
    by_cases same : other = table
    · rw [if_pos same, map_id_place, ← MemoryStore.ids]
      by_cases known : doc.id ∈ past.store.ids table
      · rw [if_pos known, if_neg fun both => both.2 known, same]
      · rw [if_neg known, if_pos ⟨same, known⟩]
    · rw [if_neg same, if_neg fun both => same both.1, MemoryStore.ids]
  · rcases origin with ⟨-, given⟩ | ⟨-, made⟩
    · exact fun told => fresh ((h.live table doc.id).mpr ⟨told, undeleted _ given⟩)
    · exact made ▸ h.unissued _ (Nat.le_refl _) table
  · rcases origin with ⟨same, -⟩ | ⟨more, -⟩
    · exact Nat.le_of_eq same.symm
    · exact more ▸ Nat.le_succ _
  · rcases origin with ⟨-, given⟩ | ⟨more, made⟩
    · exact foreign n (same ▸ given)
    · have same := unique _ _ (made.symm.trans same)
      rw [more] at le
      omega

/-- A change that keeps all ids where they are. -/
private theorem Kept.stay (h : past.Kept idAt) {store : MemoryStore}
    (ids : ∀ table, store.ids table = past.store.ids table) (issued : past.store.issued ≤ store.issued) :
    Kept idAt ⟨store, past.inserted, past.deleted⟩ where
  live table id := ids table ▸ h.live table id
  ordered table := ids table ▸ h.ordered table
  deleted := h.deleted
  unissued n le := h.unissued n (Nat.le_trans issued le)

/-- One id is taken out of a table. -/
private theorem Kept.drop (h : past.Kept idAt) {table : Table} {id : String} {front back : List String}
    {store : MemoryStore} (before : past.store.ids table = front ++ id :: back)
    (ids : ∀ other, store.ids other = if other = table then front ++ back else past.store.ids other)
    (issued : past.store.issued ≤ store.issued) :
    Kept idAt ⟨store, past.inserted, past.deleted ++ [(table, id)]⟩ := by
  have alone : (past.store.ids table).Nodup := h.keyed table
  rw [before, List.nodup_middle, List.nodup_cons] at alone
  constructor
  · intro t i
    have known := h.live t i
    simp only [Live, List.mem_append, List.mem_singleton, Prod.mk.injEq, ids] at known ⊢
    by_cases same : t = table
    · subst same
      rw [if_pos rfl]
      rw [before, List.mem_append, List.mem_cons, or_left_comm, ← List.mem_append] at known
      by_cases here : i = id
      · subst here
        simp [alone.1]
      · simpa [here] using known
    · simpa [if_neg same, same] using known
  · intro t
    rw [ids]
    split
    · next same =>
      subst same
      exact (before ▸ h.ordered t).sublist ((List.sublist_cons_self ..).append_left _)
    · exact h.ordered t
  · intro entry was
    rcases List.mem_append.mp was with was | last
    · exact h.deleted entry was
    · rw [List.mem_singleton.mp last]
      exact h.inserted (before ▸ List.mem_append_right _ List.mem_cons_self)
  · exact fun n le => h.unissued n (Nat.le_trans issued le)

theorem next_eq (past : Chronicle) (op : StoreOp) (now : Time.Instant) :
    let performed := past.store.perform ⟨idAt, now⟩ op
    past.next idAt (op, now) = ⟨performed.2, past.inserted ++ insertion op performed.1,
      past.deleted ++ deletion op performed.1⟩ := rfl

/-- An operation that inserts and deletes nothing is not told of. -/
private theorem Kept.untold {store : MemoryStore}
    (h : Kept idAt ⟨store, past.inserted, past.deleted⟩) :
    Kept idAt ⟨store, past.inserted ++ [], past.deleted ++ []⟩ := by
  simpa only [List.append_nil] using h

theorem Kept.next (h : past.Kept idAt) (unique : ∀ m n, idAt m = idAt n → m = n)
    (asked : StoreOp × Time.Instant) : Kept idAt (past.next idAt asked) := by
  obtain ⟨op, now⟩ := asked
  have honours := perform_honours h.keyed h.fresh now op
  have issued : past.store.issued ≤ (past.store.perform ⟨idAt, now⟩ op).2.issued :=
    issued_le (show served idAt (.store op) past.store _ _ from ⟨now, rfl, rfl⟩)
  rw [next_eq]
  cases op with
  | get table id => exact Kept.untold h
  | query table q => exact Kept.untold h
  | insert table fields =>
    have noId := Document.get?_withoutSystemFields_id fields
    have kept := h.add unique now table (Document.withoutSystemFields fields) (by simp [noId])
      (by simp [noId])
    change Kept idAt ⟨_, _, past.deleted ++ []⟩
    rw [List.append_nil]
    exact kept
  | update table id u =>
    refine Kept.untold (h.stay (fun other => ?_) issued)
    rcases honours with ⟨front, old, new, back, -, docs, -, -, named, -, docs', others⟩ | ⟨-, same⟩
    · by_cases here : other = table
      · subst here
        rw [MemoryStore.ids, MemoryStore.ids, docs, docs', List.map_append, List.map_append, List.map_cons,
          List.map_cons, named]
      · rw [MemoryStore.ids, MemoryStore.ids, others other here]
    · rw [same]
  | delete table id =>
    rcases honours with ⟨front, old, back, told, docs, named, docs', others⟩ | ⟨told, -, same⟩
    · rw [told]
      change Kept idAt ⟨_, past.inserted ++ [], past.deleted ++ [(table, id)]⟩
      have before : past.store.ids table = front.map (·.id) ++ id :: back.map (·.id) := by
        rw [MemoryStore.ids, docs, List.map_append, List.map_cons, named]
      rw [List.append_nil]
      refine h.drop before (fun other => ?_) issued
      split
      · next here => rw [here, MemoryStore.ids, docs', List.map_append]
      · next there => rw [MemoryStore.ids, others other there, MemoryStore.ids]
    · rw [told]
      exact Kept.untold (same.symm ▸ h)

theorem Kept.after (h : past.Kept idAt) (unique : ∀ m n, idAt m = idAt n → m = n)
    (asked : List (StoreOp × Time.Instant)) : Kept idAt (past.after idAt asked) := by
  induction asked generalizing past with
  | nil => exact h
  | cons first rest ih => exact ih (h.next unique first)

private theorem kept_empty : Kept idAt ⟨{}, [], []⟩ where
  live table id := by cases table <;> simp [MemoryStore.ids, docs, Live]
  ordered table := by cases table <;> exact .nil
  deleted _ := nofun
  unissued _ _ _ := nofun

/-- A seed brings along no id that the store could make up. -/
def Foreign (idAt : Nat → String) (seed : SeedData) : Prop :=
  ∀ entry ∈ seed.entries, ∀ n, entry.2.get? idField ≠ some (.string (idAt n))

private theorem kept_added {now : Time.Instant} (unique : ∀ m n, idAt m = idAt n → m = n)
    {entries : List (Table × Json.Members)} {store : MemoryStore} {inserted : List (Table × String)}
    (foreign : ∀ entry ∈ entries, ∀ n, entry.2.get? idField ≠ some (.string (idAt n)))
    (h : Kept idAt ⟨store, inserted, []⟩) :
    Kept idAt ⟨entries.foldl (fun store entry => (store.add ⟨idAt, now⟩ entry.1 entry.2).2) store,
      inserted ++ added ⟨idAt, now⟩ store entries, []⟩ := by
  induction entries generalizing store inserted with
  | nil => simpa only [added, List.foldl_nil, List.append_nil] using h
  | cons entry rest ih =>
    rw [List.forall_mem_cons] at foreign
    have more := ih foreign.2 (h.add unique now entry.1 entry.2 foreign.1 fun _ _ => nofun)
    rwa [List.append_assoc] at more

theorem kept_ofSeed (unique : ∀ m n, idAt m = idAt n → m = n) (began : Time.Instant) {seed : SeedData}
    (foreign : Foreign idAt seed) : Kept idAt (ofSeed ⟨idAt, began⟩ seed) := by
  rw [ofSeed, ofSeed_eq]
  exact kept_added unique foreign kept_empty

theorem Kept.count (h : past.Kept idAt) (table : Table) :
    past.store.count table = {id | past.Live table id}.ncard := by
  have same : {id | past.Live table id} = (past.store.ids table).toFinset := by
    ext id
    simp [h.live table id]
  have distinct : (past.store.ids table).Nodup := h.keyed table
  rw [same, Set.ncard_coe_finset, List.toFinset_card_of_nodup distinct, MemoryStore.ids, List.length_map,
    MemoryStore.count]

end Chronicle

section

variable {τ ε : Type} {around : Surroundings τ} {c : Connection ε} {table : Table} {t : τ}

theorem Connection.run_first (reliable : around.Reliable) (store : MemoryStore) (q : Query) :
    ∃ t', (c.first table q).run.run around.environment (store, t) =
      (.ok ((store.docs table).find? q.accepts), store, t') := by
  have asked := Connection.run_answered (c := c)
    (reliable.perform (.query table { q with limit := some 1 }) store t)
  have least : (store.query table { q with limit := some 1 }).head? =
      (store.docs table).find? q.accepts := by
    rw [MemoryStore.query, Query.select, List.head?_take, if_neg (by decide), List.head?_filter]
    rfl
  rw [← least]
  exact ⟨_, Work.run_next asked⟩

/-- Fields are patched by an update. -/
theorem Connection.run_patch (reliable : around.Reliable) (store : MemoryStore) (id : String)
    (fields : Json.Members) (now : Time.Instant) :
    ((c.patch table id fields).run.run around.environment (store, t)).2.1 =
      (store.perform ⟨around.idAt, now⟩ (.update table id { set := fields })).2 := by
  have asked := reliable.perform (.update table id { set := fields }) store t
  unfold Connection.patch Connection.update
  rw [Work.run_bind, Program.run_bind, Connection.run_ask, Program.run, asked]
  simp only [MemoryStore.perform, Program.run]
  cases store.update table id { set := fields } <;> rfl

end

/-- Whatever a store in memory was filled with and has been asked for, the ids of a table are apart and in the
order in which they were first inserted, they are those that were inserted and not deleted, and whatever it is
asked for next changes no more than one document and never moves one. -/
theorem store_insertionOrdered {τ : Type} (around : Surroundings τ) (reliable : around.Reliable)
    (unique : ∀ m n, around.idAt m = around.idAt n → m = n) (began : Time.Instant) (seed : SeedData)
    (foreign : Chronicle.Foreign around.idAt seed) (asked : List (StoreOp × Time.Instant)) :
    let past := (Chronicle.ofSeed ⟨around.idAt, began⟩ seed).after around.idAt asked
    (∀ table, (past.store.ids table).Nodup ∧
      (∀ id, id ∈ past.store.ids table ↔ past.Live table id) ∧
      ((past.store.ids table).Pairwise fun first second =>
        past.inserted.idxOf (table, first) < past.inserted.idxOf (table, second)) ∧
      past.store.count table = {id | past.Live table id}.ncard) ∧
    (∀ op now, let performed := past.store.perform ⟨around.idAt, now⟩ op
      past.store.Honours op performed.1 performed.2) ∧
    ∀ (ε : Type) (c : Connection ε) (t : τ) (table : Table),
      (∀ q, ∃ t', (c.first table q).run.run around.environment (past.store, t) =
        (.ok ((past.store.docs table).find? q.accepts), past.store, t')) ∧
      ∀ id fields, ∃ answer, past.store.Honours (.update table id { set := fields }) answer
        ((c.patch table id fields).run.run around.environment (past.store, t)).2.1 := by
  intro past
  have kept : past.Kept around.idAt :=
    (Chronicle.kept_ofSeed unique began foreign).after unique asked
  have honours := MemoryStore.perform_honours kept.keyed kept.fresh
  refine ⟨fun table => ⟨kept.keyed table, kept.live table, kept.ordered table, kept.count table⟩,
    fun op now => honours now op, fun ε c t table => ⟨fun q => ?_, fun id fields => ?_⟩⟩
  · exact Connection.run_first reliable past.store q
  · rw [Connection.run_patch reliable past.store id fields ⟨0, 0⟩]
    exact ⟨_, honours ⟨0, 0⟩ _⟩

section

/-- Two documents of one id, and one without an id. -/
private def filled : SeedData where
  records := [.ofList [("_id", .string "a"), ("n", .ofInt 1)], .ofList [("_id", .string "b")],
    .ofList [("n", .ofInt 3)], .ofList [("_id", .string "a"), ("n", .ofInt 2)]]

private def requests : List (StoreOp × Time.Instant) :=
  [(.insert .records (.ofList [("n", .ofInt 2)]), ⟨7, 0⟩),
    (.update .records "a" { expect := [("n", .ofInt 1)] }, ⟨8, 0⟩),
    (.update .records "b" { set := .ofList [("n", .ofInt 2)] }, ⟨8, 0⟩),
    (.delete .records "#", ⟨9, 0⟩), (.delete .records "c", ⟨9, 0⟩)]

private def past : Chronicle :=
  (Chronicle.ofSeed ⟨Surroundings.marks, ⟨5, 0⟩⟩ filled).after Surroundings.marks requests

/-- A document that is stored again, one that is changed and one that is deleted leave the order as it is. -/
theorem store_insertionOrdered_edited :
    past.store.ids .records = ["a", "b", "##"] ∧ past.Live .records "b" ∧ ¬past.Live .records "#" ∧
    past.inserted.idxOf (.records, "a") < past.inserted.idxOf (.records, "b") ∧
    {id | past.Live .records id}.ncard = 3 ∧
    (past.store.perform ⟨Surroundings.marks, ⟨9, 0⟩⟩ (.delete .records "#")).1 =
      .error (.notFound .records "#") := by
  have foreign : Chronicle.Foreign Surroundings.marks filled := by
    intro entry known n same
    have ids : ∀ entry ∈ filled.entries, ∀ id ∈ (entry.2.get? idField).bind (·.asString?),
      id.toList.head? ≠ some '#' := by decide +kernel
    exact Surroundings.marks_new n (ids entry known _ (by simp [same, Json.Value.asString?])) rfl
  obtain ⟨tables, honours, -⟩ := store_insertionOrdered .still Surroundings.reliable_still
    Surroundings.marks_unique ⟨5, 0⟩ filled foreign requests
  obtain ⟨-, live, ordered, count⟩ := tables .records
  have ids : past.store.ids .records = ["a", "b", "##"] := by decide +kernel
  have gone : "#" ∉ past.store.ids .records := by simp [ids]
  refine ⟨ids, (live "b").mp ?_, fun here => gone ((live "#").mpr here), ?_, ?_, ?_⟩
  · change "b" ∈ past.store.ids .records
    simp [ids]
  · change List.Pairwise _ (past.store.ids .records) at ordered
    rw [ids, List.pairwise_cons] at ordered
    exact ordered.1 "b" (by simp)
  · exact count.symm.trans (by decide +kernel)
  · rcases honours (.delete .records "#") ⟨9, 0⟩ with ⟨front, old, back, -, docs, named, -⟩ | ⟨told, -⟩
    · have docs : past.store.docs .records = front ++ old :: back := docs
      have known : old ∈ past.store.docs .records := by
        rw [docs]
        exact List.mem_append_right _ List.mem_cons_self
      exact absurd (List.mem_map.mpr ⟨old, known, named⟩) gone
    · exact told

end

end Automation
