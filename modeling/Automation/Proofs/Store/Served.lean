import Automation.Proofs.Engine.SharedRun

/-!
A store that does all it is asked: what it answers, and what it has by then.
-/
namespace Automation

namespace MemoryStore

/-- The world of a store in memory that does all it is asked, with a clock that tells times that can be
written. -/
def served (idAt : Nat → String) : World MemoryStore
  | .store op, store, reply, after => ∃ now, reply = .answered (store.perform ⟨idAt, now⟩ op).1 ∧
      after = (store.perform ⟨idAt, now⟩ op).2
  | .exchange _ _, store, _, after => after = store
  | .clock, store, time, after => time.Representable ∧ after = store

variable {idAt : Nat → String} {store after : MemoryStore} {effect : Effect} {reply : effect.Reply}
  {table : Table} {id : String}

theorem world_of_served (w : served idAt effect store reply after) :
    world idAt effect store reply after := by
  cases effect with
  | store op => exact .inr w
  | exchange request deadline => exact w
  | clock => exact w.2

theorem served_calm (effect : Effect) (store : MemoryStore) :
    served idAt effect store (calm idAt effect store).1 (calm idAt effect store).2 := by
  cases effect with
  | store op => exact ⟨⟨0, 0⟩, rfl, rfl⟩
  | exchange request deadline => rfl
  | clock =>
    have epoch : Time.Instant.Representable ⟨0, 0⟩ := ⟨by decide, .inl (by decide)⟩
    exact ⟨epoch, rfl⟩

end MemoryStore

/-- No operation of the store goes wrong, and the clock tells times that can be written. -/
structure Surroundings.Reliable {τ : Type} (around : Surroundings τ) : Prop where
  faultless : ∀ op t, (around.fault op t).1 = none
  dated : ∀ t, (around.clock t).1.Representable

namespace Surroundings.Reliable

variable {τ : Type} {around : Surroundings τ}

theorem perform (h : around.Reliable) (op : StoreOp) (store : MemoryStore) (t : τ) :
    let timed := around.clock (around.fault op t).2
    around.environment (.store op) (store, t) =
      (.answered (store.perform ⟨around.idAt, timed.1⟩ op).1,
        (store.perform ⟨around.idAt, timed.1⟩ op).2, timed.2) := by
  have faultless := h.faultless op t
  simp only [environment, Surroundings.perform]
  generalize around.fault op t = faulty at *
  obtain ⟨fault, t⟩ := faulty
  cases faultless
  rfl

theorem fits (h : around.Reliable) (effect : Effect) (s : MemoryStore × τ) :
    MemoryStore.served around.idAt effect s.1 (around.environment effect s).1
      (around.environment effect s).2.1 := by
  cases effect with
  | exchange request deadline => rfl
  | clock => exact ⟨h.dated s.2, rfl⟩
  | store op =>
    rw [h.perform op s.1 s.2]
    exact ⟨_, rfl, rfl⟩

end Surroundings.Reliable

/-- What a caller is told who has to have a document of a workspace. -/
def MemoryStore.requiredIn {ε : Type} (store : MemoryStore) (c : Connection ε) (workspaceId : String)
    (table : Table) (id : String) : Except ε Document :=
  match store.get? table id with
  | none => .error (c.failed (.notFound table id))
  | some doc => if doc.inWorkspace workspaceId then .ok doc
    else .error (c.failed (.wrongWorkspace table doc.id))

theorem Connection.run_requireIn {ε τ : Type} {around : Surroundings τ} {c : Connection ε}
    {table : Table} {id : String} {t : τ} (calm : (around.fault (.get table id) t).1 = none)
    (store : MemoryStore) (workspaceId : String) : ∃ t',
    (c.requireIn workspaceId table id).run.run around.environment (store, t) =
      ((store.requiredIn c workspaceId table id).mapError .failed, store, t') := by
  obtain ⟨now, t', asked⟩ := Surroundings.environment_calm calm store
  have got : (c.get table id).run.run around.environment (store, t) =
      (.ok (store.get? table id), store, t') := Connection.run_answered asked
  refine ⟨t', ?_⟩
  rw [MemoryStore.requiredIn, requireIn]
  cases found : store.get? table id with
  | none =>
    have missing : (c.require table id).run.run around.environment (store, t) =
        (.error (.failed (c.failed (.notFound table id))), store, t') := by
      refine (Work.run_next got).trans ?_
      rw [found]
      rfl
    exact Work.run_stop missing
  | some doc =>
    have there : (c.require table id).run.run around.environment (store, t) =
        (.ok doc, store, t') := by
      refine (Work.run_next got).trans ?_
      rw [found]
      rfl
    rw [Work.run_next there, Document.ensureWorkspace]
    dsimp only
    by_cases own : doc.inWorkspace workspaceId
    · rw [if_pos own, if_pos own]
      rfl
    · rw [if_neg own, if_neg own]
      rfl

/-- The record that a step is about is looked up in the workspace of the run. -/
theorem Engine.run_targetRecord {τ : Type} {around : Surroundings τ} (engine : Engine) {ctx : Context}
    {recordId : Option String} {id : String} {t : τ} (store : MemoryStore)
    (calm : (around.fault (.get .records id) t).1 = none)
    (target : (Command.nonBlank? recordId <|> ctx.recordId?) = some id) : ∃ t',
    (engine.targetRecord ctx recordId).run.run around.environment (store, t) =
      ((store.requiredIn engine.records ctx.workspaceId .records id).mapError .failed, store, t') := by
  obtain ⟨t', required⟩ := Connection.run_requireIn (c := engine.records) calm store ctx.workspaceId
  have named : targetId ctx recordId = .ok id := by rw [targetId, target]
  exact ⟨t', (Work.run_next (Work.run_ofExcept named)).trans required⟩

/-- Nothing goes wrong and no time passes. -/
def Surroundings.still : Surroundings Unit where
  idAt := marks
  clock t := (⟨0, 0⟩, t)
  peer _ _ t := (.unreachable, t)
  fault _ t := (none, t)

theorem Surroundings.reliable_still : still.Reliable :=
  have epoch : Time.Instant.Representable ⟨0, 0⟩ := ⟨by decide, .inl (by decide)⟩
  ⟨fun _ _ => rfl, fun _ => epoch⟩

namespace MemoryStore

variable {idAt : Nat → String} {store after : MemoryStore} {effect : Effect} {reply : effect.Reply}
  {table : Table} {id : String}

theorem get_served {reply : StoreReply (Option Document)}
    (w : served idAt (.store (.get table id)) store reply after) :
    reply = .answered (.ok (store.get? table id)) ∧ after = store := by
  obtain ⟨now, rfl, rfl⟩ := w
  exact ⟨rfl, rfl⟩

theorem query_served {q : Query} {reply : StoreReply (List Document)}
    (w : served idAt (.store (.query table q)) store reply after) :
    reply = .answered (.ok (store.query table q)) ∧ after = store := by
  obtain ⟨now, rfl, rfl⟩ := w
  exact ⟨rfl, rfl⟩

/-- An update of what is there is applied if its expectations are met. -/
theorem update_served {u : DocumentUpdate} {doc new : Document} {reply : StoreReply Bool}
    (found : store.get? table id = some doc) (applies : u.applyTo? doc = some new)
    (w : served idAt (.store (.update table id u)) store reply after) :
    reply = .answered (.ok true) ∧
      after = store.setDocs table (place new (store.docs table)) := by
  obtain ⟨now, rfl, rfl⟩ := w
  simp [perform, MemoryStore.update, found, applies]

/-- Whatever is inserted gets the next id, and is the last of its table if that id is new there. -/
theorem insert_served {fields : Json.Members} {reply : StoreReply String}
    (new : ∀ doc ∈ store.docs table, doc.id ≠ idAt store.issued)
    (w : served idAt (.store (.insert table fields)) store reply after) :
    ∃ time, reply = .answered (.ok (idAt store.issued)) ∧ after.issued = store.issued + 1 ∧
      after.docs table = store.docs table ++
        [⟨idAt store.issued, time, Document.withoutSystemFields fields⟩] := by
  obtain ⟨now, rfl, rfl⟩ := w
  have noId := Document.get?_withoutSystemFields_id fields
  have last (time : Int) :
      place ⟨idAt store.issued, time, Document.withoutSystemFields fields⟩ (store.docs table) =
        store.docs table ++ [⟨idAt store.issued, time, Document.withoutSystemFields fields⟩] :=
    place_of_not_mem new
  simp only [perform, MemoryStore.insert, add, newDocument, noId, Document.withoutSystemFields_idem,
    issued_setDocs, docs_setDocs_self, ← last, true_and]
  cases table <;> exact ⟨_, rfl⟩

/-- No id is taken back. -/
theorem issued_le (w : served idAt effect store reply after) : store.issued ≤ after.issued := by
  cases effect with
  | exchange request deadline => exact Nat.le_of_eq (congrArg issued w.symm)
  | clock => exact Nat.le_of_eq (congrArg issued w.2.symm)
  | store op =>
    obtain ⟨now, -, rfl⟩ := w
    cases op with
    | get table id => exact Nat.le_refl _
    | query table q => exact Nat.le_refl _
    | insert table fields =>
      have noId := Document.get?_withoutSystemFields_id fields
      simp only [perform, MemoryStore.insert, add, newDocument, noId, issued_setDocs]
      omega
    | update table id u =>
      simp only [perform, MemoryStore.update]
      cases store.get? table id with
      | none => exact Nat.le_refl _
      | some doc =>
        dsimp only
        cases u.applyTo? doc <;> simp
    | delete table id =>
      simp only [perform, MemoryStore.delete]
      cases store.get? table id <;> simp

end MemoryStore
end Automation
