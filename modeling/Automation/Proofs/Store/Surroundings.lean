import Automation.Proofs.Program.Contract
import Automation.Proofs.Store.Alike

/-!
A store in memory among other things that are asked: a clock, a peer and faults of the store.
-/
namespace Automation

/-- How an operation of the store may go wrong. -/
inductive StoreFault where
  | failed (error : StoreError)
  | stalled
  | crashed (crash : Crash)

def StoreFault.reply {op : StoreOp} : StoreFault → StoreReply op.Answer
  | failed e => .answered (.error e)
  | stalled => .stalled
  | crashed c => .crashed c

theorem StoreFault.reply_ne {op : StoreOp} (fault : StoreFault) (answer : op.Answer) :
    fault.reply ≠ .answered (.ok answer) := by
  cases fault <;> rintro ⟨⟩

/-- Where new ids, times, answers of the peer and faults come from. An operation with a fault has no
effect. -/
structure Surroundings (τ : Type) where
  idAt : Nat → String
  clock : τ → Time.Instant × τ
  peer : Http.Request → Duration → τ → Http.Reply × τ
  fault : StoreOp → τ → Option StoreFault × τ

namespace Surroundings

/-- Ids that are told apart by their length. -/
def marks (n : Nat) : String := String.ofList (List.replicate (n + 1) '#')

theorem marks_unique (m n : Nat) (h : marks m = marks n) : m = n := by
  have same := congrArg (·.toList.length) h
  simpa [marks] using same

theorem marks_new {id : String} (n : Nat) (h : id.toList.head? ≠ some '#') :
    id ≠ marks n := by
  rintro rfl
  simp [marks, List.replicate_succ] at h

variable {τ : Type}

/-- The reply to an operation and the store behind it. -/
def perform (around : Surroundings τ) (op : StoreOp) (store : MemoryStore) (t : τ) :
    StoreReply op.Answer × MemoryStore × τ :=
  match around.fault op t with
  | (some fault, t) => (fault.reply, store, t)
  | (none, t) =>
    let (now, t) := around.clock t
    let (answer, store) := store.perform ⟨around.idAt, now⟩ op
    (.answered answer, store, t)

def environment (around : Surroundings τ) : Program.Environment (MemoryStore × τ)
  | .store op, (store, t) => around.perform op store t
  | .exchange request deadline, (store, t) =>
    let (reply, t) := around.peer request deadline t
    (reply, store, t)
  | .clock, (store, t) =>
    let (now, t) := around.clock t
    (now, store, t)

/-- What is answered where nothing goes wrong. -/
theorem environment_calm {around : Surroundings τ} {op : StoreOp} {t : τ}
    (calm : (around.fault op t).1 = none) (store : MemoryStore) : ∃ now t',
    around.environment (.store op) (store, t) =
      (.answered (store.perform ⟨around.idAt, now⟩ op).1,
        (store.perform ⟨around.idAt, now⟩ op).2, t') := by
  simp only [environment, perform]
  generalize around.fault op t = faulty at *
  obtain ⟨fault, t⟩ := faulty
  cases calm
  exact ⟨_, _, rfl⟩

end Surroundings

namespace MemoryStore

private theorem find?_place (doc : Document) (docs : List Document) :
    (place doc docs).find? (·.id == doc.id) = some doc := by
  induction docs with
  | nil => simp [place]
  | cons d rest ih =>
    unfold place
    split
    · simp
    · next other => simp [other, ih]

theorem get?_place (store : MemoryStore) (table : Table) (doc : Document) :
    (store.setDocs table (place doc (store.docs table))).get? table doc.id = some doc := by
  rw [get?, docs_setDocs_self, find?_place]

/-- What is inserted is found by the id that is given for it. -/
theorem get?_insert (store : MemoryStore) (stamp : Stamp) (table : Table) (fields : Json.Members) :
    let added := store.insert stamp table fields
    ∃ time, added.2.get? table added.1 =
      some ⟨added.1, time, Document.withoutSystemFields fields⟩ := by
  have noId := Document.get?_withoutSystemFields_id fields
  simp only [MemoryStore.insert, add, newDocument, noId, Document.withoutSystemFields_idem]
  exact ⟨_, get?_place _ table _⟩

/-- What may be replied and become of a store while it is asked. -/
def world (idAt : Nat → String) : World MemoryStore
  | .store op, store, reply, after =>
    (after = store ∧ ∀ answer, reply ≠ .answered (.ok answer)) ∨
      ∃ now, reply = .answered (store.perform ⟨idAt, now⟩ op).1 ∧
        after = (store.perform ⟨idAt, now⟩ op).2
  | .exchange _ _, store, _, after | .clock, store, _, after => after = store

theorem world_environment {τ : Type} (around : Surroundings τ) (effect : Effect)
    (s : MemoryStore × τ) : world around.idAt effect s.1 (around.environment effect s).1
      (around.environment effect s).2.1 := by
  obtain ⟨store, t⟩ := s
  cases effect with
  | exchange request deadline => rfl
  | clock => rfl
  | store op =>
    simp only [Surroundings.environment, Surroundings.perform]
    cases faulty : around.fault op t with
    | mk fault t =>
      cases fault with
      | none => exact .inr ⟨_, rfl, rfl⟩
      | some fault => exact .inl ⟨rfl, fault.reply_ne⟩

/-- What is asked stays within the workspace. If it is also not to depend on what is stored for
others, the replies of stores that are alike are twins. -/
def within (idAt : Nat → String) (W : String) (blind : Prop) : Policy MemoryStore where
  permitted
    | .store op, store => Confined idAt W store op
    | .exchange _ _, _ | .clock, _ => True
  twins
    | .store op, store, reply, twin => blind ∧ ∃ other now, other.Sound idAt ∧ Alike W store other ∧
        reply = .answered (store.perform ⟨idAt, now⟩ op).1 ∧
        twin = .answered (other.perform ⟨idAt, now⟩ op).1
    | .exchange _ _, _, _, _ | .clock, _, _, _ => False

/-- One step that is permitted keeps a store sound and lets it grow in the workspace only. -/
theorem sound_step {idAt : Nat → String} {W : String} {blind : Prop}
    (unique : ∀ m n, idAt m = idAt n → m = n) (effect : Effect) (store : MemoryStore)
    (reply : effect.Reply) (after : MemoryStore) (sound : store.Sound idAt)
    (permitted : (within idAt W blind).permitted effect store)
    (w : world idAt effect store reply after) : after.Sound idAt ∧ Grows idAt W store after := by
  cases effect with
  | store op =>
    rcases w with ⟨rfl, -⟩ | ⟨now, -, rfl⟩
    · exact ⟨sound, .refl _⟩
    · exact sound_of_does unique sound permitted (perform_does now op sound.keyed sound.fresh.unissued)
  | exchange request deadline =>
    cases w
    exact ⟨sound, .refl _⟩
  | clock =>
    cases w
    exact ⟨sound, .refl _⟩

/-- Two runs of one program that is blind to other workspaces, in stores that are alike, end with the
same value in stores that are alike. -/
theorem run_alike {τ α : Type} {around : Surroundings τ} {W : String} {promised : α → MemoryStore → Prop}
    {program : Program α} {store other : MemoryStore} {t : τ}
    (unique : ∀ m n, around.idAt m = around.idAt n → m = n)
    (h : program.Meets (world around.idAt) (within around.idAt W True) promised store)
    (sound : store.Sound around.idAt) (sound' : other.Sound around.idAt) (alike : Alike W store other) :
    let run := program.run around.environment (store, t)
    let run' := program.run around.environment (other, t)
    run.1 = run'.1 ∧ Alike W run.2.1 run'.2.1 ∧ run.2.2 = run'.2.2 := by
  induction program generalizing store other t with
  | done value => exact ⟨rfl, alike, rfl⟩
  | ask effect next ih =>
    obtain ⟨permitted, blind, goes⟩ := h
    cases effect with
    | exchange request deadline => exact ih _ (goes _ store rfl) sound sound' alike
    | clock => exact ih _ (goes _ store rfl) sound sound' alike
    | store op =>
      simp only [Program.run, Surroundings.environment, Surroundings.perform]
      cases faulty : around.fault op t with
      | mk fault t =>
        cases fault with
        | some fault =>
          exact ih _ (goes _ store (.inl ⟨rfl, fault.reply_ne⟩)) sound sound' alike
        | none =>
          let now := (around.clock t).1
          have permitted' : Confined around.idAt W other op := alike.confined permitted
          have w : world around.idAt (.store op) store _ _ := .inr ⟨now, rfl, rfl⟩
          have same := blind _ _ ⟨trivial, other, now, sound', alike, rfl, rfl⟩
          dsimp only
          rw [← same]
          refine ih _ (goes _ _ w) ?_ ?_ (alike.perform unique sound sound' permitted)
          · exact (sound_of_does unique sound permitted
              (perform_does now op sound.keyed sound.fresh.unissued)).1
          · exact (sound_of_does unique sound' permitted'
              (perform_does now op sound'.keyed sound'.fresh.unissued)).1

/-- Between an earlier and a later store nothing happened outside of the workspace. -/
structure Isolated (W : String) (store after : MemoryStore) : Prop where
  foreign : ∀ table, (after.docs table).filter (!·.inWorkspace W) =
    (store.docs table).filter (!·.inWorkspace W)
  inserted : ∀ table, ∀ doc ∈ after.docs table, (∀ old ∈ store.docs table, old.id ≠ doc.id) →
    doc.inWorkspace W
  unmoved : ∀ table, ∀ old ∈ store.docs table, ∀ doc ∈ after.docs table, doc.id = old.id →
    doc.workspaceId? = old.workspaceId?

theorem Grows.isolated {idAt : Nat → String} {W : String} {store after : MemoryStore}
    (h : Grows idAt W store after) (sound : store.Sound idAt) : Isolated W store after where
  foreign := h.foreign
  inserted table doc known new := by
    rcases h.origin table doc known with ⟨old, known, same⟩ | ⟨inside, -⟩
    · exact absurd (Document.links_eq.mp same).1 (new old known)
    · exact inside
  unmoved table old known doc known' same := by
    rcases h.origin table doc known' with ⟨other, was, links⟩ | ⟨-, n, le, -, made⟩
    · obtain ⟨id, ws, -⟩ := Document.links_eq.mp links
      rw [List.inj_on_of_nodup_map (sound.keyed table) known was (same.symm.trans id.symm), ws]
    · exact absurd (same.symm.trans made) ((sound.fresh n le).1 table old known)

end MemoryStore
end Automation
