import Automation.Proofs.Store.Footprint
import Automation.Proofs.Store.InsertionOrder
import Automation.Proofs.Store.Update
import Automation.Proofs.Time.Moments

/-!
The id and the creation time of a stored document stay as they are. They are no fields of its own as long
as no update sets a key in a field of that name, and what is read from such a document is the document.
-/
namespace Automation

open Json (Value Members)

/-- One of the names of fields that the store keeps. -/
def IsSystemField (name : String) : Prop := name = idField ∨ name = creationTimeField

namespace DocumentUpdate

/-- Sets a key in a field that has the name of one of the store's. -/
def Intrudes (u : DocumentUpdate) : Prop :=
  ∃ m ∈ u.set, IsParent idField m.1 ∨ IsParent creationTimeField m.1

instance (u : DocumentUpdate) : Decidable u.Intrudes := List.decidableBEx ..

variable {u : DocumentUpdate} {fields : Members} {name path : String}

private theorem not_isParent_self (system : IsSystemField name) (other : String) : ¬IsParent other name := by
  have whole : Text.splitOnce '.' name = none := by
    rcases system with rfl | rfl <;> decide +kernel
  rintro ⟨key, cut⟩
  cases whole.symm.trans cut

/-- A field of the store's name comes from setting a key in it, and from nothing else. -/
private theorem isSome_setPath (system : IsSystemField name) (value : Value) :
    ((setPath fields path value).get? name).isSome ↔ IsParent name path ∨ (fields.get? name).isSome := by
  unfold setPath
  split
  · next parent key cut =>
    have parent_iff : IsParent name path ↔ parent = name := by simp [IsParent, cut]
    rw [Members.get?_insert, parent_iff]
    split <;> simp [*]
  · next cut =>
    have whole : ¬IsParent name path := by simp [IsParent, cut]
    split
    · simp [whole]
    · next own =>
      have ne : path ≠ name := fun same => own (same ▸ system)
      rw [Members.get?_insert_of_ne _ _ ne]
      simp [whole]

private theorem isSome_unsetPath (system : IsSystemField name) :
    ((unsetPath fields path).get? name).isSome ↔ path ≠ name ∧ (fields.get? name).isSome := by
  unfold unsetPath
  split
  · next parent key cut =>
    have ne : path ≠ name := fun same => not_isParent_self system parent ⟨key, same ▸ cut⟩
    split
    · next members found =>
      rw [Members.get?_insert]
      split
      · next same =>
        subst same
        simp [ne, found]
      · simp [ne]
    · simp [ne]
  · rw [Members.get?_erase]
    split <;> simp [*]

/-- An update leaves a field of the store's name if it sets a key in one, or if there was one that is not
unset. -/
theorem isSome_applyFields (system : IsSystemField name) : ((u.applyFields fields).get? name).isSome ↔
    (∃ m ∈ u.set, IsParent name m.1) ∨ name ∉ u.unset ∧ (fields.get? name).isSome := by
  have unset : ((u.unset.foldl unsetPath fields).get? name).isSome ↔
      name ∉ u.unset ∧ (fields.get? name).isSome := by
    generalize u.unset = paths
    induction paths generalizing fields with
    | nil => simp
    | cons path rest ih =>
      rw [List.foldl_cons, ih, isSome_unsetPath system, List.mem_cons, not_or, and_left_comm, and_assoc,
        ne_comm]
  rw [← unset]
  unfold applyFields
  generalize u.unset.foldl unsetPath fields = fields
  generalize u.set = pairs
  induction pairs generalizing fields with
  | nil => simp
  | cons m rest ih =>
    refine (ih (setPath fields m.1 m.2)).trans ?_
    rw [isSome_setPath system, List.exists_mem_cons_iff, ← or_assoc, or_comm (b := IsParent name m.1)]

theorem canonical_applyFields (h : fields.Canonical) (hu : u.set.Canonical) :
    (u.applyFields fields).Canonical := by
  rw [applyFields_eq]
  exact canonical_writeAll h (tidy_writes hu)

end DocumentUpdate

/-- A signed integer of 64 bits. -/
def Fits64 (i : Int) : Prop := -0x8000000000000000 ≤ i ∧ i < 0x8000000000000000

namespace Document

/-- No field of the document's own has the name of one of the store's. -/
def Unmixed (doc : Document) : Prop := ∀ name, IsSystemField name → doc.fields.get? name = none

theorem unmixed_withoutSystemFields (id : String) (time : Int) (members : Members) :
    Unmixed ⟨id, time, withoutSystemFields members⟩ := by
  rintro name (rfl | rfl)
  · exact get?_withoutSystemFields_id members
  · exact Members.get?_erase_self ..

theorem canonical_withoutSystemFields {members : Members} (h : members.Canonical) :
    (withoutSystemFields members).Canonical :=
  Members.canonical_erase (Members.canonical_erase h)

theorem withoutSystemFields_members {doc : Document} (sorted : doc.fields.Sorted) (unmixed : doc.Unmixed) :
    withoutSystemFields doc.members = doc.fields := by
  have sorted' : doc.members.Sorted := Members.sorted_insert (Members.sorted_insert sorted)
  refine (sorted_withoutSystemFields sorted').ext sorted fun name => ?_
  by_cases system : IsSystemField name
  · rw [unmixed name system]
    exact unmixed_withoutSystemFields doc.id doc.creationTime doc.members name system
  · have own : idField ≠ name ∧ creationTimeField ≠ name :=
      ⟨fun same => system (.inl same.symm), fun same => system (.inr same.symm)⟩
    rw [get?_withoutSystemFields own, get?_members own]

/-- An integer of 64 bits is read as it is. -/
private theorem int64_ofInt {i : Int} (small : Fits64 i) : Decode.int64 (.ofValue (.ofInt i)) = .ok i :=
  if_pos small

/-- A document is read back from all its fields, and its own fields are. -/
theorem decode_toValue {doc : Document} (canonical : doc.fields.Canonical) (unmixed : doc.Unmixed)
    (small : Fits64 doc.creationTime) :
    decode (.ofValue doc.toValue) = .ok doc ∧ fieldsOf doc.toValue = .ok doc.fields := by
  have sorted : doc.fields.Sorted := (Value.canonical_object.mp canonical).1
  have all : doc.members.Canonical :=
    Members.canonical_insert (Members.canonical_insert canonical trivial) trivial
  obtain ⟨sorted', values⟩ := Value.canonical_object.mp all
  have own := withoutSystemFields_members sorted unmixed
  have id : (Decode.Record.required idField Decode.text).Reads doc.members.get? doc.id :=
    Decode.Record.reads_required doc.get?_members_id rfl
  have time : (Decode.Record.required creationTimeField Decode.int64).Reads doc.members.get?
      doc.creationTime :=
    Decode.Record.reads_required (Members.get?_insert_self ..) (int64_ofInt small)
  have head : header.decode "struct Document" (.ofValue (.object doc.members)) =
      .ok (doc.id, doc.creationTime) :=
    ((id.map (f := Prod.mk)).seq time).decode (Members.Sorted.nodup sorted')
  have read : Decode.members (.ofValue (.object doc.members)) = .ok doc.members := by
    refine (Decode.valueMembers_ofMembers doc.members [] sorted' ?_ (by simp)).trans rfl
    exact Value.canonicalMembers_iff.mpr values
  refine ⟨?_, congrArg Except.ok own⟩
  change (do
    let kept ← header.decode "struct Document" (.ofValue (.object doc.members))
    let fields ← Decode.members (.ofValue (.object doc.members))
    return (⟨kept.1, kept.2, withoutSystemFields fields⟩ : Document)) = _
  rw [head, read]
  exact congrArg (fun fields => (.ok ⟨doc.id, doc.creationTime, fields⟩ : Except Decode.Error Document)) own

end Document

/-- What is written by the operation is canonical. -/
def StoreOp.Canonical : StoreOp → Prop
  | insert _ fields => fields.Canonical
  | update _ _ u => u.set.Canonical
  | get _ _ | query _ _ | delete _ _ => True

namespace MemoryStore

variable {store : MemoryStore} {table : Table} {idAt : Nat → String} {doc : Document}

theorem mem_place {new : Document} {docs : List Document} (known : doc ∈ place new docs) :
    doc = new ∨ doc ∈ docs := by
  induction docs with
  | nil => exact .inl (List.mem_singleton.mp known)
  | cons d rest ih =>
    unfold place at known
    split at known
    · exact (List.mem_cons.mp known).imp_right (List.mem_cons_of_mem _)
    · rcases List.mem_cons.mp known with rfl | known
      · exact .inr List.mem_cons_self
      · exact (ih known).imp_right (List.mem_cons_of_mem _)

/-- What is stored after something was added was stored before, or is it. -/
theorem mem_add {stamp : Stamp} {into : Table} {fields : Members}
    (known : doc ∈ (store.add stamp into fields).2.docs table) :
    doc ∈ store.docs table ∨ table = into ∧ doc = (store.newDocument stamp fields).1 := by
  rw [(store.add_placed stamp into fields).2.1] at known
  split at known
  · next same => exact (mem_place known).elim (.inr ⟨same, ·⟩) fun known => .inl (same ▸ known)
  · exact .inl known

/-- Whatever is stored after an operation was stored before, is new or was updated. -/
theorem perform_origin {now : Time.Instant} {op : StoreOp} (keyed : store.Keyed)
    (unissued : store.Unissued idAt) (known : doc ∈ (store.perform ⟨idAt, now⟩ op).2.docs table) :
    doc ∈ store.docs table ∨
    (∃ fields, op = .insert table fields ∧
      doc = (store.newDocument ⟨idAt, now⟩ (Document.withoutSystemFields fields)).1) ∨
    ∃ old u, op = .update table old.id u ∧ old ∈ store.docs table ∧
      doc = { old with fields := u.applyFields old.fields } := by
  have honours := perform_honours keyed unissued now op
  cases op with
  | get other id => exact .inl known
  | query other q => exact .inl known
  | insert other fields =>
    rcases mem_add known with known | ⟨rfl, rfl⟩
    · exact .inl known
    · exact .inr (.inl ⟨fields, rfl, rfl⟩)
  | update other id u =>
    rcases honours with ⟨front, old, new, back, -, docs, named, applied, -, -, docs', others⟩ | ⟨-, same⟩
    · by_cases here : table = other
      · subst here
        rw [docs'] at known
        rcases List.mem_append.mp known with known | known
        · exact .inl (docs ▸ List.mem_append_left _ known)
        · rcases List.mem_cons.mp known with rfl | known
          · refine .inr (.inr ⟨old, u, named ▸ rfl, ?_, DocumentUpdate.eq_of_applyTo? applied⟩)
            exact docs ▸ List.mem_append_right _ List.mem_cons_self
          · exact .inl (docs ▸ List.mem_append_right _ (List.mem_cons_of_mem _ known))
      · exact .inl (others table here ▸ known)
    · exact .inl (same ▸ known)
  | delete other id =>
    rcases honours with ⟨front, old, back, -, docs, -, docs', others⟩ | ⟨-, -, same⟩
    · by_cases here : table = other
      · subst here
        rw [docs'] at known
        refine .inl (docs ▸ ?_)
        exact (List.mem_append.mp known).elim (List.mem_append_left _)
          fun known => List.mem_append_right _ (List.mem_cons_of_mem _ known)
      · exact .inl (others table here ▸ known)
    · exact .inl (same ▸ known)

end MemoryStore

namespace Chronicle

open MemoryStore

variable {past : Chronicle} {idAt : Nat → String} {asked : List (StoreOp × Time.Instant)}
  {table : Table} {id : String}

theorem after_append (asked more : List (StoreOp × Time.Instant)) :
    past.after idAt (asked ++ more) = (past.after idAt asked).after idAt more := List.foldl_append

/-- No update that is asked of the document sets a key in a field that has the name of one of the store's. -/
def Spared (asked : List (StoreOp × Time.Instant)) (table : Table) (id : String) : Prop :=
  ∀ request ∈ asked, ∀ u, request.1 = .update table id u → ¬u.Intrudes

/-- What a document of the store is like: it can be written out, and has no field of the store's name if
nobody asked for one. -/
structure Tidy (asked : List (StoreOp × Time.Instant)) (store : MemoryStore) : Prop where
  canonical : ∀ table, ∀ doc ∈ store.docs table, doc.fields.Canonical
  dated : ∀ table, ∀ doc ∈ store.docs table, Fits64 doc.creationTime
  unmixed : ∀ table, ∀ doc ∈ store.docs table, Spared asked table doc.id → doc.Unmixed

/-- A document that is made of fields is tidy. -/
private theorem newDocument_tidy (store : MemoryStore) (stamp : Stamp) {fields : Members}
    (canonical : fields.Canonical) (dated : stamp.now.Representable) :
    let doc := (store.newDocument stamp fields).1
    doc.fields.Canonical ∧ doc.Unmixed ∧ Fits64 doc.creationTime := by
  have time :
      Fits64 (((fields.get? creationTimeField).bind (·.asInt64?)).getD stamp.now.toMilliseconds) := by
    cases given : (fields.get? creationTimeField).bind (·.asInt64?) with
    | none => exact dated.toMilliseconds_bounds
    | some time =>
      obtain ⟨value, -, read⟩ := Option.bind_eq_some_iff.mp given
      unfold Value.asInt64? at read
      split at read
      · split at read
        · next small =>
          cases read
          exact small
        · cases read
      · cases read
  unfold newDocument
  split
  all_goals
    exact ⟨Document.canonical_withoutSystemFields canonical, Document.unmixed_withoutSystemFields _ _ _, time⟩

private theorem tidy_add {store : MemoryStore} {stamp : Stamp} {into : Table} {fields : Members}
    (h : Tidy asked store) (canonical : fields.Canonical) (dated : stamp.now.Representable) :
    Tidy asked (store.add stamp into fields).2 := by
  obtain ⟨canonical, unmixed, dated⟩ := newDocument_tidy store stamp canonical dated
  refine ⟨fun table doc known => ?_, fun table doc known => ?_, fun table doc known spared => ?_⟩
  · rcases mem_add known with known | ⟨-, rfl⟩
    · exact h.canonical table doc known
    · exact canonical
  · rcases mem_add known with known | ⟨-, rfl⟩
    · exact h.dated table doc known
    · exact dated
  · rcases mem_add known with known | ⟨-, rfl⟩
    · exact h.unmixed table doc known spared
    · exact unmixed

private theorem tidy_ofSeed {stamp : Stamp} {seed : SeedData} (dated : stamp.now.Representable)
    (canonical : ∀ entry ∈ seed.entries, entry.2.Canonical) : Tidy [] (.ofSeed stamp seed) := by
  have none : Tidy [] {} := by constructor <;> intro table <;> cases table <;> exact nofun
  rw [ofSeed_eq]
  generalize seed.entries = entries at canonical
  generalize ({} : MemoryStore) = store at none ⊢
  induction entries generalizing store with
  | nil => exact none
  | cons entry rest ih =>
    rw [List.forall_mem_cons] at canonical
    exact ih canonical.2 _ (tidy_add none canonical.1 dated)

/-- One more operation leaves tidy what was tidy, as long as it writes what is canonical. -/
private theorem tidy_next (kept : past.Kept idAt) (h : Tidy asked past.store)
    {request : StoreOp × Time.Instant} (canonical : request.1.Canonical) (dated : request.2.Representable) :
    Tidy (asked ++ [request]) (past.next idAt request).store := by
  obtain ⟨op, now⟩ := request
  have shorter {table id} (spared : Spared (asked ++ [(op, now)]) table id) : Spared asked table id :=
    fun request known => spared request (List.mem_append_left _ known)
  have origin {table : Table} {doc : Document}
      (known : doc ∈ (past.store.perform ⟨idAt, now⟩ op).2.docs table) :=
    perform_origin kept.keyed kept.fresh known
  have made {fields : Members} (canonical : fields.Canonical) := newDocument_tidy past.store ⟨idAt, now⟩
    (Document.canonical_withoutSystemFields canonical) dated
  refine ⟨fun table doc known => ?_, fun table doc known => ?_, fun table doc known spared => ?_⟩
  · rcases origin known with was | ⟨fields, rfl, rfl⟩ | ⟨old, u, rfl, was, rfl⟩
    · exact h.canonical table doc was
    · exact (made canonical).1
    · exact DocumentUpdate.canonical_applyFields (h.canonical table old was) canonical
  · rcases origin known with was | ⟨fields, rfl, rfl⟩ | ⟨old, u, rfl, was, rfl⟩
    · exact h.dated table doc was
    · exact (made canonical).2.2
    · exact h.dated table old was
  · rcases origin known with was | ⟨fields, rfl, rfl⟩ | ⟨old, u, rfl, was, rfl⟩
    · exact h.unmixed table doc was (shorter spared)
    · exact (made canonical).2.1
    · have unmixed := h.unmixed table old was (shorter spared)
      have calm : ¬u.Intrudes := spared _ (List.mem_append_right _ (List.mem_singleton_self _)) u rfl
      intro name system
      rw [← Option.not_isSome_iff_eq_none, DocumentUpdate.isSome_applyFields system, unmixed name system]
      rintro (⟨m, known, inside⟩ | ⟨-, was⟩)
      · refine calm ⟨m, known, ?_⟩
        rcases system with rfl | rfl
        · exact .inl inside
        · exact .inr inside
      · cases was

theorem tidy_after (unique : ∀ m n, idAt m = idAt n → m = n) (kept : past.Kept idAt)
    (h : Tidy [] past.store) (canonical : ∀ request ∈ asked, request.1.Canonical)
    (dated : ∀ request ∈ asked, request.2.Representable) : Tidy asked (past.after idAt asked).store := by
  induction asked using List.reverseRecOn with
  | nil => exact h
  | append_singleton asked request ih =>
    rw [List.forall_mem_append, List.forall_mem_singleton] at canonical dated
    rw [after_append]
    exact tidy_next (kept.after unique asked) (ih canonical.1 dated.1) canonical.2 dated.2

theorem inserted_after {entry : Table × String} (known : entry ∈ past.inserted) :
    entry ∈ (past.after idAt asked).inserted := by
  induction asked generalizing past with
  | nil => exact known
  | cons request rest ih => exact ih (List.mem_append_left _ known)

/-- A document keeps its creation time, and no other document gets its id. -/
theorem creationTime_after (unique : ∀ m n, idAt m = idAt n → m = n) (kept : past.Kept idAt)
    {old new : Document} (was : old ∈ past.store.docs table)
    (known : new ∈ (past.after idAt asked).store.docs table) (same : new.id = old.id) :
    new.creationTime = old.creationTime := by
  induction asked using List.reverseRecOn generalizing new with
  | nil => rw [List.inj_on_of_nodup_map (kept.keyed table) known was same]
  | append_singleton asked request ih =>
    obtain ⟨op, now⟩ := request
    have later := kept.after unique asked
    rw [after_append] at known
    rcases perform_origin later.keyed later.fresh known with
      known | ⟨fields, -, rfl⟩ | ⟨before, u, -, before_known, rfl⟩
    · exact ih known same
    · have noId := Document.get?_withoutSystemFields_id fields
      have made : idAt (past.after idAt asked).store.issued = old.id := by
        simpa only [newDocument, noId] using same
      have told : (table, old.id) ∈ (past.after idAt asked).inserted :=
        inserted_after (kept.inserted (List.mem_map_of_mem was))
      exact absurd (made ▸ told) (later.unissued _ (Nat.le_refl _) table)
    · have kept : before.creationTime = old.creationTime := ih before_known same
      exact kept

end Chronicle

/-- Whatever is asked of a store that was filled from a seed, each document keeps its id and its creation
time. It has no field that the store keeps among its own, and is read back from what is shown of it, if no
update was asked of it that sets a key in a field of such a name. -/
theorem documents_keepIdentity {idAt : Nat → String} (unique : ∀ m n, idAt m = idAt n → m = n)
    {began : Time.Instant} (dated : began.Representable) {seed : SeedData}
    (foreign : Chronicle.Foreign idAt seed) (canonical : ∀ entry ∈ seed.entries, entry.2.Canonical)
    {asked : List (StoreOp × Time.Instant)} (written : ∀ request ∈ asked, request.1.Canonical)
    (times : ∀ request ∈ asked, request.2.Representable) (more : List (StoreOp × Time.Instant)) :
    let past := (Chronicle.ofSeed ⟨idAt, began⟩ seed).after idAt asked
    ∀ table, ∀ doc ∈ past.store.docs table,
      past.store.get? table doc.id = some doc ∧
      (∀ later ∈ (past.after idAt more).store.docs table, later.id = doc.id →
        later.creationTime = doc.creationTime) ∧
      (Chronicle.Spared asked table doc.id →
        doc.fields.get? idField = none ∧ doc.fields.get? creationTimeField = none ∧
        Document.decode (.ofValue doc.toValue) = .ok doc ∧
        Document.fieldsOf doc.toValue = .ok doc.fields) := by
  intro past table doc known
  have seeded := Chronicle.kept_ofSeed unique began foreign
  have kept : past.Kept idAt := seeded.after unique asked
  have tidy : Chronicle.Tidy asked past.store :=
    Chronicle.tidy_after unique seeded (Chronicle.tidy_ofSeed dated canonical) written times
  refine ⟨(MemoryStore.get?_eq_some kept.keyed).mpr ⟨known, rfl⟩, fun later here same => ?_, fun spared => ?_⟩
  · exact Chronicle.creationTime_after unique kept known here same
  · have unmixed := tidy.unmixed table doc known spared
    exact ⟨unmixed _ (.inl rfl), unmixed _ (.inr rfl),
      Document.decode_toValue (tidy.canonical table doc known) unmixed (tidy.dated table doc known)⟩

section

private def seeded : SeedData where
  records := [.ofList [("_id", .string "r"), ("_creationTime", .ofInt 5), ("stage", .string "new")]]

/-- Asks for fields of the store to be written. -/
private def asking (path : String) : List (StoreOp × Time.Instant) :=
  [(.update .records "r" { set := .ofList [("_creationTime", .ofInt 6), (path, .ofInt 1)] }, ⟨7, 0⟩)]

private def answered (path : String) : Chronicle :=
  (Chronicle.ofSeed ⟨Surroundings.marks, ⟨5, 0⟩⟩ seeded).after Surroundings.marks (asking path)

private def stored (fields : Members) : Document := ⟨"r", 5, fields.insert "stage" (.string "new")⟩

/-- Paths that are fields of the store are not written. -/
theorem documents_keepIdentity_asked : (answered "_id").store.docs .records = [stored []] ∧
    (stored []).fields.get? idField = none ∧
    Document.decode (.ofValue (stored []).toValue) = .ok (stored []) ∧
    Document.fieldsOf (stored []).toValue = .ok (stored []).fields := by
  have foreign : Chronicle.Foreign Surroundings.marks seeded := by
    intro entry known n same
    have ids : ∀ entry ∈ seeded.entries, ∀ id ∈ (entry.2.get? idField).bind (·.asString?),
      id.toList.head? ≠ some '#' := by decide +kernel
    exact Surroundings.marks_new n (ids entry known _ (by simp [same, Value.asString?])) rfl
  have canonical : ∀ entry ∈ seeded.entries, entry.2.Canonical := by
    intro entry known
    obtain ⟨fields, known, rfl⟩ := List.mem_map.mp (show entry ∈ seeded.records.map (Table.records, ·) from known)
    rw [List.mem_singleton.mp known]
    exact Members.canonical_ofList (by simp)
  have written : ∀ request ∈ asking "_id", request.1.Canonical :=
    List.forall_mem_singleton.mpr (Members.canonical_ofList (by simp))
  have epoch {s : Int} (near : s = 5 ∨ s = 7) : Time.Instant.Representable ⟨s, 0⟩ := by
    rcases near with rfl | rfl <;> exact ⟨by decide, .inl (by decide)⟩
  have there : (answered "_id").store.docs .records = [stored []] := by decide +kernel
  obtain ⟨-, -, own⟩ := documents_keepIdentity Surroundings.marks_unique (epoch (.inl rfl)) foreign canonical
    written (List.forall_mem_singleton.mpr (epoch (.inr rfl))) [] .records (stored [])
    (show stored [] ∈ (answered "_id").store.docs .records by simp [there])
  obtain ⟨noId, -, read, back⟩ := own (List.forall_mem_singleton.mpr fun u same => by
    cases same
    decide +kernel)
  exact ⟨there, noId, read, back⟩

/-- A path of a key in such a field is: a query finds it, and neither the document nor its fields are read
back from what is shown. -/
theorem systemField_mixedIn :
    let doc := stored (.ofList [("_id", .object [("x", .ofInt 1)])])
    (answered "_id.x").store.query .records { filters := [("_id.x", .ofInt 1)] } = [doc] ∧
    doc.fields.get? idField ≠ none ∧
    Document.decode (.ofValue doc.toValue) = .ok (stored []) ∧ doc ≠ stored [] ∧
    Document.fieldsOf doc.toValue = .ok (stored []).fields ∧ doc.fields ≠ (stored []).fields := by
  decide +kernel

end
end Automation
