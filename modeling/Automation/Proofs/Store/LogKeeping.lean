import Automation.Proofs.Store.Answers

/-!
Stores whose logs are kept by somebody else. A program that asks nothing of the logs but to add to them, and
does not tell what came of that, goes alike whoever keeps them.
-/
namespace Automation

/-- Tables that a run writes to and never looks into. -/
def Table.isLog : Table → Bool
  | .auditLogs | .webhookLogs => true
  | .objectTypes | .records | .lists | .listEntries | .actions | .actionExecutions => false

/-- Who keeps the logs. Whatever is to be added to one, the keeper answers with an id or an error, or with
nothing in time, and leaves in that log what it likes. It has ids and times of its own, so that none is
taken from what else is stored. -/
structure LogKeeper (κ : Type) where
  keep : Table → Json.Members → MemoryStore → κ → Option (Except StoreError String) × List Document × κ

namespace Surroundings

variable {τ κ : Type}

/-- Whatever does not concern the keeper. -/
def aside (around : Surroundings τ) (effect : Effect) :
    MemoryStore × τ × κ → effect.Reply × MemoryStore × τ × κ
  | (store, t, k) =>
    let (reply, store, t) := around.environment effect (store, t)
    (reply, store, t, k)

/-- A store whose logs are kept by somebody else. -/
def keeping (around : Surroundings τ) (keeper : LogKeeper κ) :
    Program.Environment (MemoryStore × τ × κ)
  | .store (.insert table fields), (store, t, k) =>
    if table.isLog then
      let (answer?, docs, k) := keeper.keep table fields store k
      ((answer?.map .answered).getD .stalled, store.setDocs table docs, t, k)
    else around.aside (.store (.insert table fields)) (store, t, k)
  | effect, s => around.aside effect s

end Surroundings

namespace MemoryStore

/-- The store without what is in the logs. -/
def unlogged (store : MemoryStore) : MemoryStore := { store with auditLogs := [], webhookLogs := [] }

theorem docs_of_unlogged {store other : MemoryStore} {table : Table} (same : store.unlogged = other.unlogged)
    (h : table.isLog = false) : store.docs table = other.docs table := by
  have docs : store.unlogged.docs table = other.unlogged.docs table := congrArg (docs · table) same
  cases table with
  | auditLogs => cases h
  | webhookLogs => cases h
  | _ => exact docs

theorem unlogged_setDocs {store : MemoryStore} {table : Table} {docs : List Document}
    (h : table.isLog = true) : (store.setDocs table docs).unlogged = store.unlogged := by
  cases table <;> first | rfl | cases h

/-- Operations on other tables do not depend on the logs, and leave them. -/
theorem perform_unlogged {store : MemoryStore} {stamp : Stamp} {op : StoreOp}
    (h : op.table.isLog = false) : store.unlogged.perform stamp op =
      ((store.perform stamp op).1, (store.perform stamp op).2.unlogged) := by
  have notAudit : op.table ≠ .auditLogs := by
    rintro same
    rw [same] at h
    cases h
  have notWebhook : op.table ≠ .webhookLogs := by
    rintro same
    rw [same] at h
    cases h
  change ((store.setDocs .auditLogs []).setDocs .webhookLogs []).perform stamp op = _
  rw [perform_setDocs notWebhook, perform_setDocs notAudit]
  rfl

end MemoryStore

namespace Effect

/-- Effects that do not concern the logs. -/
abbrev Unlogged : Effect → Prop := Effect.On fun table => table.isLog = false

/-- Something is added to a log. -/
def Logs (effect : Effect) : Prop :=
  ∃ table fields, effect = .store (.insert table fields) ∧ table.isLog = true

end Effect

/-- A reply, and be it that there is none. -/
def StoreReply.Calm {α : Type} : StoreReply α → Prop
  | .answered _ | .stalled => True
  | .crashed _ => False

/-- What does not concern the logs may be asked, and something may be added to a log. No program is to tell
what came of that. -/
def Policy.unlogged : Policy Unit where
  permitted effect _ := effect.Unlogged ∨ effect.Logs
  twins
    | .store (.insert table _), _, reply, twin => table.isLog = true ∧ reply.Calm ∧ twin.Calm
    | _, _, _, _ => False

/-- Programs that do not tell what comes of the logs. -/
abbrev Program.Blind {α : Type} (program : Program α) : Prop :=
  program.Meets World.any .unlogged (fun _ _ => True) ()

namespace Surroundings

variable {τ κ κ' α : Type} (around : Surroundings τ) (keeper : LogKeeper κ) (other : LogKeeper κ')

/-- The stores are the same but for the logs, and so is all around them. -/
structure Alike (s : MemoryStore × τ × κ) (s' : MemoryStore × τ × κ') : Prop where
  store : s.1.unlogged = s'.1.unlogged
  around : s.2.1 = s'.2.1

private theorem environment_unlogged {effect : Effect} (h : effect.Unlogged) (store : MemoryStore) (t : τ) :
    around.environment effect (store.unlogged, t) =
      ((around.environment effect (store, t)).1, (around.environment effect (store, t)).2.1.unlogged,
        (around.environment effect (store, t)).2.2) := by
  cases effect with
  | exchange request deadline => rfl
  | clock => rfl
  | store op =>
    simp only [environment, Surroundings.perform]
    cases faulty : around.fault op t with
    | mk fault t =>
      cases fault with
      | some fault => rfl
      | none =>
        dsimp only
        rw [MemoryStore.perform_unlogged h]

private theorem keeping_of_unlogged {effect : Effect} (h : effect.Unlogged) (s : MemoryStore × τ × κ) :
    around.keeping keeper effect s = around.aside effect s := by
  cases effect with
  | exchange request deadline => rfl
  | clock => rfl
  | store op =>
    cases op with
    | insert table fields =>
      have notLog : table.isLog = false := h
      obtain ⟨store, t, k⟩ := s
      rw [keeping, notLog]
      rfl
    | _ => rfl

private theorem aside_alike {effect : Effect} {s : MemoryStore × τ × κ} {s' : MemoryStore × τ × κ'}
    (h : effect.Unlogged) (alike : Alike s s') :
    (around.aside effect s).1 = (around.aside effect s').1 ∧
      Alike (around.aside effect s).2 (around.aside effect s').2 := by
  obtain ⟨store, t, k⟩ := s
  obtain ⟨store', t', k'⟩ := s'
  obtain ⟨same, rfl⟩ := alike
  have ran := environment_unlogged around h store t
  have ran' := environment_unlogged around h store' t
  rw [show store.unlogged = store'.unlogged from same, ran'] at ran
  injection ran with reply rest
  injection rest with stores times
  exact ⟨reply.symm, stores.symm, times.symm⟩

private theorem keeping_of_logs {table : Table} {fields : Json.Members} (h : table.isLog = true)
    (s : MemoryStore × τ × κ) :
    (around.keeping keeper (.store (.insert table fields)) s).1.Calm ∧
      Alike s (around.keeping keeper (.store (.insert table fields)) s).2 := by
  obtain ⟨store, t, k⟩ := s
  let kept := keeper.keep table fields store k
  have keeps : around.keeping keeper (.store (.insert table fields)) (store, t, k) =
      ((kept.1.map .answered).getD .stalled, store.setDocs table kept.2.1, t, kept.2.2) := if_pos h
  rw [keeps]
  refine ⟨?_, (MemoryStore.unlogged_setDocs h).symm, rfl⟩
  cases kept.1 <;> trivial

/-- Who does not tell what comes of the logs goes alike whoever keeps them. -/
theorem blind_agrees {program : Program α} (h : program.Blind) :
    program.Agrees (around.keeping keeper) (around.keeping other) Alike := by
  intro s s' alike
  induction program generalizing s s' with
  | done value => exact ⟨rfl, alike⟩
  | ask effect next ih =>
    obtain ⟨permitted, blind, goes⟩ := h
    rcases permitted with unlogged | logs
    · simp only [Program.run, keeping_of_unlogged around _ unlogged]
      obtain ⟨same, later⟩ := aside_alike around unlogged alike
      rw [← same]
      exact ih _ (goes _ () trivial) _ _ later
    · obtain ⟨table, fields, rfl, isLog⟩ : ∃ table fields,
          effect = .store (.insert table fields) ∧ table.isLog = true := logs
      obtain ⟨calm, here⟩ := keeping_of_logs around keeper isLog s
      obtain ⟨calm', here'⟩ := keeping_of_logs around other isLog s'
      simp only [Program.run]
      rw [blind _ _ ⟨isLog, calm, calm'⟩]
      refine ih _ (goes _ () trivial) _ _ ⟨?_, ?_⟩
      · exact here.store.symm.trans (alike.store.trans here'.store)
      · exact here.around.symm.trans (alike.around.trans here'.around)

end Surroundings

open Work

/-- What does not concern the logs may be asked. -/
theorem Program.Asks.meets_unlogged {α : Type} {program : Program α} {given : α → Prop}
    (h : program.Asks Effect.Unlogged given) :
    program.Meets World.any .unlogged (fun a _ => given a) () := by
  have meets : program.Meets World.any .unlogged (fun a _ => given a ∧ True) () := by
    refine h.meets (fun _ _ unlogged _ => .inl unlogged) ?_ (fun _ _ _ _ _ _ _ => trivial) trivial
    intro effect s reply twin unlogged
    cases effect with
    | exchange request deadline => exact nofun
    | clock => exact nofun
    | store op =>
      cases op with
      | insert table fields =>
        rintro ⟨isLog, -⟩
        have notLog : table.isLog = false := unlogged
        exact absurd isLog (notLog ▸ nofun)
      | _ => exact nofun
  exact meets.mono fun _ _ post => post.1

theorem Program.Asks.blind {α : Type} {program : Program α} {given : α → Prop}
    (h : program.Asks Effect.Unlogged given) : program.Blind :=
  h.meets_unlogged.mono fun _ _ _ => trivial

namespace Work

variable {ε α β : Type}

abbrev Blind (work : Work ε α) : Prop := work.run.Blind

theorem Asks.blind {work : Work ε α} {given : α → Prop} (h : work.Asks Effect.Unlogged given) :
    work.Blind := (asks_iff.mp h).blind

/-- What is asked first does not concern the logs. -/
theorem Asks.thenBlind {work : Work ε α} {next : α → Work ε β} {given : α → Prop}
    (h : work.Asks Effect.Unlogged given) (rest : ∀ a, given a → (next a).Blind) :
    (work >>= next).Blind := by
  unfold Blind
  rw [Work.run_bind]
  refine Program.Meets.bind (asks_iff.mp h).meets_unlogged ?_
  rintro (stop | a) _ gives
  · trivial
  · exact rest a (gives a rfl)

theorem Blind.bind {work : Work ε α} {next : α → Work ε β} (h : work.Blind)
    (rest : ∀ a, (next a).Blind) : (work >>= next).Blind := by
  unfold Blind
  rw [Work.run_bind]
  refine Program.Meets.bind h ?_
  rintro (stop | a) _ _
  · trivial
  · exact rest a

theorem blind_ofProgram {program : Program α} (h : program.Blind) :
    (Work.ofProgram program : Work ε α).Blind := by
  unfold Blind Work.ofProgram
  rw [ExceptT.run_lift]
  exact Program.Meets.map h

theorem Blind.meets {work : Work ε α} {value : α → Unit → Prop} (h : work.Blind)
    (any : ∀ a, value a ()) : Work.Meets World.any .unlogged value
      (fun stop _ => stop.Fits (fun _ => True) ∧ True) work () := by
  refine Program.Meets.mono h ?_
  rintro (stop | a) _ _
  · cases stop <;> exact ⟨trivial, trivial⟩
  · exact any a

/-- Work that ignores how an insert went gets to its end unless there is a crash. -/
theorem run_ignoring_insert {ε' : Type} (c : Connection ε') (table : Table)
    (fields : Json.Members) :
    (Work.ignoring (do let _ ← c.insert table fields) : Work ε Unit).run =
      Program.ask (.store (.insert table fields)) fun reply => .done (match reply with
        | .answered _ | .stalled => .ok ()
        | .crashed crash => .error (.crashed crash)) := by
  refine congrArg (Program.ask _) (funext fun reply => ?_)
  rcases reply with (e | id) | _ | crash <;> rfl

theorem ignoring_blind {ε' : Type} (c : Connection ε') {table : Table} (h : table.isLog = true)
    (fields : Except ε' Json.Members) :
    (Work.ignoring (do
      let fields ← Work.ofExcept fields
      let _ ← c.insert table fields) : Work ε Unit).Blind := by
  cases fields with
  | error e => trivial
  | ok fields =>
    change (Work.ignoring (do let _ ← c.insert table fields) : Work ε Unit).Blind
    unfold Blind
    rw [run_ignoring_insert]
    refine ⟨.inr ⟨table, fields, rfl, h⟩, ?_, fun _ _ _ => trivial⟩
    rintro reply twin ⟨-, calm, calm'⟩
    cases reply with
    | crashed crash => exact calm.elim
    | _ =>
      cases twin with
      | crashed crash => exact calm'.elim
      | _ => rfl

end Work
end Automation
