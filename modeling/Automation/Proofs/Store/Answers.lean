import Automation.Proofs.Program.Asks
import Automation.Proofs.Program.Interleaving
import Automation.Proofs.Store.Surroundings

/-!
What an answer tells of a store: which operation was done to it, which document that inserted, updated or
deleted, and that all tables but one are as they were. New documents get ids that nobody has, so every table
keeps one document for an id.
-/
namespace Automation

namespace MemoryStore

variable {idAt : Nat → String} {store after : MemoryStore} {table : Table} {id : String}

/-- An operation concerns its own table only. -/
theorem docs_perform {stamp : Stamp} {op : StoreOp} (h : op.table ≠ table) :
    (store.perform stamp op).2.docs table = store.docs table := by
  cases op with
  | get other id => rfl
  | query other q => rfl
  | insert other fields =>
    have apart : table ≠ other := Ne.symm h
    have same : (store.newDocument stamp (Document.withoutSystemFields fields)).2.docs table =
        store.docs table := by
      unfold newDocument
      dsimp only
      split <;> cases table <;> rfl
    rw [perform, MemoryStore.insert, add, docs_setDocs_of_ne _ _ apart, same]
  | update other id u =>
    simp only [perform, MemoryStore.update]
    cases store.get? other id with
    | none => rfl
    | some doc =>
      dsimp only
      cases u.applyTo? doc with
      | none => rfl
      | some changed => exact docs_setDocs_of_ne _ _ (Ne.symm h)
  | delete other id =>
    simp only [perform, MemoryStore.delete]
    cases store.get? other id with
    | none => rfl
    | some doc => exact docs_setDocs_of_ne _ _ (Ne.symm h)

/-- What leaves a table alone leaves its documents as they are. -/
theorem docs_of_world {effect : Effect} {reply : effect.Reply}
    (w : world idAt effect store reply after) (h : Effect.On (· ≠ table) effect) :
    after.docs table = store.docs table := by
  cases effect with
  | store op =>
    obtain ⟨rfl, -⟩ | ⟨now, -, rfl⟩ := w
    · rfl
    · exact docs_perform h
  | exchange request deadline => exact congrArg (docs · table) w
  | clock => exact congrArg (docs · table) w

/-- An operation does not depend on other tables, and leaves them. -/
theorem perform_setDocs {stamp : Stamp} {op : StoreOp} {docs : List Document} (h : op.table ≠ table) :
    (store.setDocs table docs).perform stamp op =
      ((store.perform stamp op).1, (store.perform stamp op).2.setDocs table docs) := by
  have comm {other : Table} (apart : other ≠ table) (more : List Document) :
      (store.setDocs table docs).setDocs other more = (store.setDocs other more).setDocs table docs := by
    cases table <;> cases other <;> first | rfl | exact absurd rfl apart
  cases op with
  | get other id =>
    have apart : other ≠ table := h
    rw [perform, perform, get?, get?, docs_setDocs_of_ne _ _ apart]
  | query other q =>
    have apart : other ≠ table := h
    rw [perform, perform, MemoryStore.query, MemoryStore.query, docs_setDocs_of_ne _ _ apart]
  | insert other fields =>
    have noId := Document.get?_withoutSystemFields_id fields
    simp only [perform, MemoryStore.insert, add, newDocument, noId]
    cases table <;> cases other <;> first | rfl | exact absurd rfl h
  | update other id u =>
    have apart : other ≠ table := h
    simp only [perform, MemoryStore.update, get?, docs_setDocs_of_ne _ _ apart]
    cases (store.docs other).find? (·.id == id) with
    | none => rfl
    | some doc =>
      dsimp only
      cases u.applyTo? doc with
      | none => rfl
      | some changed => exact congrArg (Prod.mk _) (comm apart _)
  | delete other id =>
    have apart : other ≠ table := h
    simp only [perform, MemoryStore.delete, get?, docs_setDocs_of_ne _ _ apart]
    cases (store.docs other).find? (·.id == id) with
    | none => rfl
    | some doc => exact congrArg (Prod.mk _) (comm apart _)

/-- Who asks nothing of a table does the same whatever is in it. -/
theorem run_setDocs {α τ : Type} {around : Surroundings τ} {program : Program α} {given : α → Prop}
    {docs : List Document} (asks : program.Asks (Effect.On (· ≠ table)) given) (store : MemoryStore)
    (t : τ) : program.run around.environment (store.setDocs table docs, t) =
      ((program.run around.environment (store, t)).1,
        (program.run around.environment (store, t)).2.1.setDocs table docs,
        (program.run around.environment (store, t)).2.2) := by
  unfold Program.Asks at asks
  induction program generalizing store t with
  | done value => rfl
  | ask effect next ih =>
    obtain ⟨aside, -, goes⟩ := asks
    have rest (reply : effect.Reply) := ih reply (goes reply () trivial)
    cases effect with
    | exchange request deadline => exact rest _ _ _
    | clock => exact rest _ _ _
    | store op =>
      simp only [Program.run, Surroundings.environment, Surroundings.perform]
      cases faulty : around.fault op t with
      | mk fault t =>
        cases fault with
        | some fault => exact rest _ _ _
        | none =>
          dsimp only
          rw [perform_setDocs aside]
          exact rest _ _ _

private theorem find?_place_of_ne {doc : Document} {docs : List Document} (other : doc.id ≠ id) :
    (place doc docs).find? (·.id == id) = docs.find? (·.id == id) := by
  induction docs with
  | nil => simp [place, other]
  | cons d rest ih =>
    unfold place
    split
    · next same => simp [other, same]
    · by_cases here : d.id = id <;> simp [here, ih]

theorem get?_place_of_ne {doc : Document} (other : doc.id ≠ id) :
    (store.setDocs table (place doc (store.docs table))).get? table id = store.get? table id := by
  rw [get?, docs_setDocs_self, find?_place_of_ne other, get?]

/-- What documents are alike in stays when one takes the place of another. -/
theorem map_place {α : Type} {f : Document → α} {doc new : Document} {docs : List Document}
    (found : docs.find? (·.id == new.id) = some doc) (same : f new = f doc) :
    (place new docs).map f = docs.map f := by
  induction docs with
  | nil => cases found
  | cons d rest ih =>
    rw [List.find?_cons] at found
    by_cases here : d.id = new.id
    · simp only [here, beq_self_eq_true, Option.some.injEq] at found
      subst found
      rw [place, if_pos here, List.map_cons, List.map_cons, same]
    · simp only [beq_eq_false_iff_ne.mpr here] at found
      rw [place, if_neg here, List.map_cons, List.map_cons, ih found]

private theorem eq_of_error {stamp : Stamp} {op : StoreOp} {e : StoreError}
    (failed : (store.perform stamp op).1 = .error e) : (store.perform stamp op).2 = store := by
  cases op with
  | get table id => rfl
  | query table q => rfl
  | insert table fields => cases failed
  | update table id u =>
    unfold perform at failed ⊢
    dsimp only at failed ⊢
    split
    · next told => simp [told] at failed
    · rfl
  | delete table id =>
    unfold perform at failed ⊢
    dsimp only at failed ⊢
    split
    · next told => simp [told] at failed
    · rfl

/-- An operation that failed had no effect. -/
theorem eq_of_unanswered {op : StoreOp} {reply : StoreReply op.Answer}
    (w : world idAt (.store op) store reply after)
    (silent : ∀ answer, reply ≠ .answered (.ok answer)) : after = store := by
  obtain ⟨same, -⟩ | ⟨now, told, rfl⟩ := w
  · exact same
  · cases result : (store.perform ⟨idAt, now⟩ op).1 with
    | ok answer => exact absurd (told.trans (congrArg _ result)) (silent answer)
    | error e => exact eq_of_error result

/-- What was answered was done. -/
theorem performed {op : StoreOp} {answer : op.Answer}
    (w : world idAt (.store op) store (.answered (.ok answer)) after) :
    ∃ now, store.perform ⟨idAt, now⟩ op = (.ok answer, after) := by
  obtain ⟨-, silent⟩ | ⟨now, told, rfl⟩ := w
  · exact absurd rfl (silent answer)
  · injection told with told
    exact ⟨now, Prod.ext told.symm rfl⟩

private theorem eq_of_refused {u : DocumentUpdate}
    (h : store.update table id u = .ok (false, after)) : after = store := by
  unfold MemoryStore.update at h
  split at h
  · cases h
  · split at h <;> cases h
    rfl

/-- A turn that does not write leaves the store as it is. -/
theorem eq_of_quiet {ι : Type} {who : ι} {effect : Effect} {reply : effect.Reply}
    (w : world idAt effect store reply after)
    (quiet : (⟨who, effect, reply⟩ : Turn ι).writes = false) : after = store := by
  cases effect with
  | exchange request deadline => exact w
  | clock => exact w
  | store op =>
    rcases reply with (e | answer) | _ | crash
    · exact eq_of_unanswered w nofun
    · obtain ⟨now, told⟩ := performed w
      cases op with
      | get table id => exact (congrArg Prod.snd told).symm
      | query table q => exact (congrArg Prod.snd told).symm
      | insert table fields => cases quiet
      | delete table id => cases quiet
      | update table id u =>
        have refused : answer = false := quiet
        subst refused
        unfold perform at told
        dsimp only at told
        split at told
        · next left updated =>
          cases told
          exact eq_of_refused updated
        · cases told
    · exact eq_of_unanswered w nofun
    · exact eq_of_unanswered w nofun

/-- Who only reads leaves the store as it is. -/
theorem eq_of_reads {effect : Effect} {reply : effect.Reply}
    (w : world idAt effect store reply after) (h : effect.Reads) : after = store := by
  have quiet : (⟨(), effect, reply⟩ : Turn Unit).writes = false := by
    cases effect with
    | exchange request deadline => rfl
    | clock => rfl
    | store op =>
      cases op with
      | get table id => cases reply <;> rfl
      | query table q => cases reply <;> rfl
      | _ => exact absurd rfl (h _)
  exact eq_of_quiet w quiet

/-- What does not write to a table leaves its documents as they are. -/
theorem docs_of_unwritten {effect : Effect} {reply : effect.Reply}
    (w : world idAt effect store reply after) (h : ¬effect.Writes table) :
    after.docs table = store.docs table := by
  by_cases aside : Effect.On (· ≠ table) effect
  · exact docs_of_world w aside
  refine congrArg (docs · table) (eq_of_reads w ?_)
  cases effect with
  | exchange request deadline => exact absurd trivial aside
  | clock => exact absurd trivial aside
  | store op =>
    have here : op.table = table := not_not.mp aside
    cases op with
    | get other id => exact Effect.reads_get other id
    | query other q => exact Effect.reads_query other q
    | _ => exact absurd here h

theorem get_performed {found : Option Document}
    (w : world idAt (.store (.get table id)) store (.answered (.ok found)) after) :
    found = store.get? table id ∧ after = store := by
  obtain ⟨now, told⟩ := performed w
  cases told
  exact ⟨rfl, rfl⟩

theorem query_performed {q : Query} {found : List Document}
    (w : world idAt (.store (.query table q)) store (.answered (.ok found)) after) :
    found = store.query table q ∧ after = store := by
  obtain ⟨now, told⟩ := performed w
  cases told
  exact ⟨rfl, rfl⟩

/-- An update that expects nothing is applied. -/
theorem update_performed {u : DocumentUpdate} {applied : Bool} (free : u.expect = [])
    (w : world idAt (.store (.update table id u)) store (.answered (.ok applied)) after) :
    applied = true ∧ ∃ doc, store.get? table id = some doc ∧ after = store.setDocs table
      (place { doc with fields := u.applyFields doc.fields } (store.docs table)) := by
  obtain ⟨now, told⟩ := performed w
  simp only [perform, MemoryStore.update] at told
  cases found : store.get? table id with
  | none => simp [found] at told
  | some doc =>
    have changed : u.applyTo? doc = some { doc with fields := u.applyFields doc.fields } :=
      if_pos (by simp [DocumentUpdate.isExpected, free])
    simp only [found, changed] at told
    cases told
    exact ⟨rfl, doc, rfl, rfl⟩

end MemoryStore

/-- A change of one document. -/
inductive Edit where
  | inserted
  | updated
  | deleted
  deriving DecidableEq

/-- The documents of a table before and after the change. -/
def Edit.Makes : Edit → List Document → List Document → Prop
  | inserted, docs, later => ∃ new, (∀ old ∈ docs, old.id ≠ new.id) ∧ later = docs ++ [new]
  | updated, docs, later => ∃ front old new back, new.id = old.id ∧ docs = front ++ old :: back ∧
      later = front ++ new :: back
  | deleted, docs, later => ∃ front old back, docs = front ++ old :: back ∧ later = front ++ back

namespace MemoryStore

variable {idAt : Nat → String} {store after : MemoryStore} {table : Table} {id : String}

theorem insert_performed {fields : Json.Members} (unissued : store.Unissued idAt)
    (w : world idAt (.store (.insert table fields)) store (.answered (.ok id)) after) :
    id = idAt store.issued ∧ ∃ now, after = store.next table (made idAt store now fields) := by
  obtain ⟨now, told⟩ := performed w
  rw [perform, insert_eq unissued] at told
  cases told
  exact ⟨rfl, now, rfl⟩

theorem delete_performed
    (w : world idAt (.store (.delete table id)) store (.answered (.ok ())) after) :
    (∃ doc, store.get? table id = some doc) ∧
      after = store.setDocs table ((store.docs table).eraseP (·.id == id)) := by
  obtain ⟨now, told⟩ := performed w
  simp only [perform, MemoryStore.delete] at told
  cases found : store.get? table id with
  | none => simp [found] at told
  | some doc =>
    simp only [found, Prod.mk.injEq, true_and] at told
    exact ⟨⟨doc, rfl⟩, told.symm⟩

theorem place_split {doc : Document} (new : Document) {docs : List Document}
    (found : docs.find? (·.id == new.id) = some doc) :
    ∃ front back, docs = front ++ doc :: back ∧ place new docs = front ++ new :: back := by
  induction docs with
  | nil => cases found
  | cons d rest ih =>
    rw [List.find?_cons] at found
    by_cases here : d.id = new.id
    · simp only [here, beq_self_eq_true, Option.some.injEq] at found
      subst found
      exact ⟨[], rest, rfl, by rw [place, if_pos here]; rfl⟩
    · simp only [beq_eq_false_iff_ne.mpr here] at found
      obtain ⟨front, back, rfl, placed⟩ := ih found
      exact ⟨d :: front, back, rfl, by rw [place, if_neg here, placed]; rfl⟩

theorem inserted_of_world {fields : Json.Members} (unissued : store.Unissued idAt)
    (w : world idAt (.store (.insert table fields)) store (.answered (.ok id)) after) :
    Edit.inserted.Makes (store.docs table) (after.docs table) := by
  obtain ⟨-, now, rfl⟩ := insert_performed unissued w
  refine ⟨made idAt store now fields, unissued _ (Nat.le_refl _) table, ?_⟩
  rw [docs_next, if_pos rfl]

/-- An update that expects nothing changes one document. -/
theorem updated_of_world {u : DocumentUpdate} {applied : Bool} (free : u.expect = [])
    (w : world idAt (.store (.update table id u)) store (.answered (.ok applied)) after) :
    Edit.updated.Makes (store.docs table) (after.docs table) := by
  obtain ⟨-, doc, found, rfl⟩ := update_performed free w
  obtain rfl : doc.id = id := (mem_of_get? found).2
  let new : Document := { doc with fields := u.applyFields doc.fields }
  have here : (store.docs table).find? (·.id == new.id) = some doc := found
  obtain ⟨front, back, docs, placed⟩ := place_split _ here
  exact ⟨front, doc, new, back, rfl, docs, by rw [docs_setDocs_self, placed]⟩

theorem deleted_of_world (w : world idAt (.store (.delete table id)) store (.answered (.ok ())) after) :
    Edit.deleted.Makes (store.docs table) (after.docs table) := by
  obtain ⟨⟨doc, found⟩, rfl⟩ := delete_performed w
  obtain ⟨known, named⟩ := mem_of_get? found
  obtain ⟨old, front, back, -, -, docs, erased⟩ :=
    List.exists_of_eraseP (p := (·.id == id)) known (beq_iff_eq.mpr named)
  exact ⟨front, old, back, docs, by rw [docs_setDocs_self, erased]⟩

private theorem unissued_setDocs {docs : List Document} (unissued : store.Unissued idAt)
    (known : ∀ doc ∈ docs, ∃ old ∈ store.docs table, old.id = doc.id) :
    (store.setDocs table docs).Unissued idAt := by
  intro n le other doc here
  rw [issued_setDocs] at le
  rw [docs_setDocs] at here
  split at here
  · obtain ⟨old, was, same⟩ := known doc here
    exact same ▸ unissued n le table old was
  · exact unissued n le other doc here

/-- A table has one document for an id, and no id that is still to be made up is in use. -/
structure Numbered (idAt : Nat → String) (store : MemoryStore) : Prop where
  keyed : store.Keyed
  unissued : store.Unissued idAt

/-- Whatever is done to a store, its documents keep their ids apart. -/
theorem Numbered.of_world {effect : Effect} {reply : effect.Reply}
    (unique : ∀ m n, idAt m = idAt n → m = n) (w : world idAt effect store reply after)
    (h : store.Numbered idAt) : after.Numbered idAt := by
  obtain ⟨keyed, unissued⟩ := h
  cases effect with
  | exchange request deadline =>
    cases w
    exact ⟨keyed, unissued⟩
  | clock =>
    cases w
    exact ⟨keyed, unissued⟩
  | store op =>
    rcases w with ⟨rfl, -⟩ | ⟨now, -, rfl⟩
    · exact ⟨keyed, unissued⟩
    have does := perform_does now op keyed unissued
    generalize (store.perform ⟨idAt, now⟩ op).2 = after at does ⊢
    cases does with
    | nothing => exact ⟨keyed, unissued⟩
    | insert => exact ⟨keyed_next keyed unissued, unissued_next unique unissued⟩
    | @update table id u doc found named =>
      have ids := map_id_update (u := u) named (store.docs table)
      refine ⟨keyed_setDocs keyed (ids ▸ keyed table), unissued_setDocs unissued ?_⟩
      intro d here
      have known : d.id ∈ (store.docs table).map (·.id) := ids ▸ List.mem_map_of_mem here
      exact List.mem_map.mp known
    | @delete table id =>
      refine ⟨keyed_setDocs keyed ((keyed table).sublist (List.filter_sublist.map _)), ?_⟩
      exact unissued_setDocs unissued fun d here => ⟨d, (List.mem_filter.mp here).1, rfl⟩

end MemoryStore
end Automation
