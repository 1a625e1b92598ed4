import Automation.Proofs.Program.Contract
import Mathlib.Logic.Function.Basic

/-!
Programs that run side by side. They take turns, and a turn is one thing that one of them asks. What
each of them promises whatever the others do between its turns, it promises in every run of them all.
-/
namespace Automation

/-- What one of several programs asked and was told. -/
structure Turn (ι : Type) where
  who : ι
  effect : Effect
  reply : effect.Reply

namespace Turn

variable {ι : Type}

/-- Something in the store was changed. -/
def writes : Turn ι → Bool
  | ⟨_, .store (.insert _ _), .answered (.ok _)⟩ => true
  | ⟨_, .store (.update _ _ _), .answered (.ok applied)⟩ => applied
  | ⟨_, .store (.delete _ _), .answered (.ok _)⟩ => true
  | _ => false

/-- The store did not do what it was asked. -/
def fails : Turn ι → Bool
  | ⟨_, .store _, .answered (.ok _)⟩ => false
  | ⟨_, .store _, _⟩ => true
  | _ => false

end Turn

/-- The turns so far and the state behind them. -/
structure Past (ι σ : Type) where
  turns : List (Turn ι)
  state : σ

namespace Past

variable {ι σ : Type}

def after (past : Past ι σ) (turn : Turn ι) (state : σ) : Past ι σ := ⟨past.turns ++ [turn], state⟩

/-- The turns of one program. -/
def own [DecidableEq ι] (past : Past ι σ) (i : ι) : List (Turn ι) := past.turns.filter (·.who = i)

variable [DecidableEq ι]

theorem mem_own {past : Past ι σ} {i : ι} {turn : Turn ι} :
    turn ∈ past.own i ↔ turn ∈ past.turns ∧ turn.who = i := by
  simp [own]

theorem own_after (past : Past ι σ) (i j : ι) (effect : Effect) (reply : effect.Reply) (state : σ) :
    (past.after ⟨j, effect, reply⟩ state).own i =
      past.own i ++ if j = i then [⟨j, effect, reply⟩] else [] := by
  by_cases h : j = i <;> simp [after, own, h]

/-- The turns of one program that changed something. -/
def wrote (past : Past ι σ) (i : ι) : List (Turn ι) := (past.own i).filter (·.writes)

theorem wrote_eq {before after : Past ι σ} {i : ι} (own : after.own i = before.own i) :
    after.wrote i = before.wrote i := by
  rw [wrote, own, wrote]

theorem wrote_quiet (past : Past ι σ) (i j : ι) (effect : Effect) (reply : effect.Reply) (state : σ)
    (quiet : (⟨j, effect, reply⟩ : Turn ι).writes = false) :
    (past.after ⟨j, effect, reply⟩ state).wrote i = past.wrote i := by
  rw [wrote, own_after]
  split <;> simp [wrote, quiet]

theorem wrote_other (past : Past ι σ) {i j : ι} (other : j ≠ i) (effect : Effect)
    (reply : effect.Reply) (state : σ) :
    (past.after ⟨j, effect, reply⟩ state).wrote i = past.wrote i := by
  rw [wrote, own_after, if_neg other, List.append_nil, wrote]

theorem wrote_writes (past : Past ι σ) (i : ι) (effect : Effect) (reply : effect.Reply) (state : σ)
    (writes : (⟨i, effect, reply⟩ : Turn ι).writes = true) :
    (past.after ⟨i, effect, reply⟩ state).wrote i = past.wrote i ++ [⟨i, effect, reply⟩] := by
  rw [wrote, own_after, if_pos rfl]
  simp [wrote, writes]

end Past

namespace Program

variable {ι σ : Type} [DecidableEq ι] {α : ι → Type}

/-- A run of programs side by side: the turns that were taken, what is left of each program, and the
state behind it. Between turns the state may drift. -/
inductive Interleaved (world : World σ) (drift : σ → σ → Prop) (programs : ∀ i, Program (α i)) (s : σ) :
    List (Turn ι) → (∀ i, Program (α i)) → σ → Prop
  | begin : Interleaved world drift programs s [] programs s
  | turn {turns : List (Turn ι)} {rest : ∀ i, Program (α i)} {before after : σ} {i : ι}
      {effect : Effect} {next : effect.Reply → Program (α i)} {reply : effect.Reply}
      (run : Interleaved world drift programs s turns rest before)
      (asks : rest i = .ask effect next) (w : world effect before reply after) :
      Interleaved world drift programs s (turns ++ [⟨i, effect, reply⟩])
        (Function.update rest i (next reply)) after
  | drifts {turns : List (Turn ι)} {rest : ∀ i, Program (α i)} {before after : σ}
      (run : Interleaved world drift programs s turns rest before) (d : drift before after) :
      Interleaved world drift programs s turns rest after

/-- The value of a program that is done. -/
def value? {β : Type} : Program β → Option β
  | done value => some value
  | ask _ _ => none

theorem value?_eq_some {β : Type} {program : Program β} {value : β} :
    program.value? = some value ↔ program = .done value := by
  cases program <;> simp [value?]

/-- Lets programs take turns in the order of a list; who is done is passed over. -/
def schedule (environment : Environment σ) : List ι → (∀ i, Program (α i)) → σ →
    List (Turn ι) × (∀ i, Program (α i)) × σ
  | [], programs, s => ([], programs, s)
  | i :: order, programs, s => match programs i with
    | done _ => schedule environment order programs s
    | ask effect next =>
      let (reply, s) := environment effect s
      let (turns, last) := schedule environment order (Function.update programs i (next reply)) s
      (⟨i, effect, reply⟩ :: turns, last)

/-- What programs keep when they share a state, and how its past may grow. -/
structure Sharing (ι σ : Type) where
  kept : Past ι σ → Prop
  grows : Past ι σ → Past ι σ → Prop
  refl : ∀ past, grows past past
  trans : ∀ a b c, grows a b → grows b c → grows a c

/-- What the others do between two turns of one program. -/
structure Sharing.Elsewhere (shared : Sharing ι σ) (i : ι) (before after : Past ι σ) : Prop where
  kept : shared.kept after
  grows : shared.grows before after
  own : after.own i = before.own i

/-- The world of one program that shares a state: behind each of its turns, the others take theirs. -/
def Sharing.world (shared : Sharing ι σ) (world : World σ) (i : ι) : World (Past ι σ) :=
  fun effect before reply after => ∃ s, world effect before.state reply s ∧
    let mine := before.after ⟨i, effect, reply⟩ s
    shared.kept mine ∧ shared.grows before mine ∧ shared.Elsewhere i mine after

/-- Runs programs one after another. -/
def inTurn (environment : Environment σ) (programs : ∀ i, Program (α i)) (order : List ι) (s : σ) : σ :=
  order.foldl (fun s i => ((programs i).run environment s).2) s

variable {world : World σ} {drift : σ → σ → Prop} {programs rest : ∀ i, Program (α i)} {s after : σ}
  {shared : Sharing ι σ} {turns : List (Turn ι)}

theorem Interleaved.append {more : List (Turn ι)} {last : ∀ i, Program (α i)} {final : σ}
    (run : Interleaved world drift programs s turns rest after)
    (others : Interleaved world drift rest after more last final) :
    Interleaved world drift programs s (turns ++ more) last final := by
  induction others with
  | begin => rwa [List.append_nil]
  | turn _ asks w ih =>
    rw [← List.append_assoc]
    exact .turn ih asks w
  | drifts _ d ih => exact .drifts ih d

/-- Every order in which programs may take turns makes a run of them. -/
theorem interleaved_schedule {environment : Environment σ}
    (fits : ∀ effect s, world effect s (environment effect s).1 (environment effect s).2)
    {order : List ι} {ran : List (Turn ι) × (∀ i, Program (α i)) × σ}
    (h : ran = schedule environment order programs s) :
    Interleaved world drift programs s ran.1 ran.2.1 ran.2.2 := by
  induction order generalizing programs s ran with
  | nil =>
    subst h
    exact .begin
  | cons i order ih =>
    unfold schedule at h
    split at h
    · exact ih h
    · next effect next asks =>
      subst h
      have first : Interleaved world drift programs s _ _ _ := .turn .begin asks (fits effect s)
      exact first.append (ih rfl)

section

variable {τ : Type} {environment : Environment τ} {view : τ → σ} {t : τ}

/-- A program may take its turns in a row, up to its end. -/
theorem Interleaved.finish (fits : ∀ effect t,
      world effect (view t) (environment effect t).1 (view (environment effect t).2))
    (run : Interleaved world drift programs s turns rest (view t)) (i : ι) :
    ∃ more, Interleaved world drift programs s more
      (Function.update rest i (.done ((rest i).run environment t).1))
      (view ((rest i).run environment t).2) := by
  generalize left : rest i = program
  induction program generalizing turns rest t with
  | done value =>
    have same : Function.update rest i (.done value) = rest := by rw [← left, Function.update_eq_self]
    exact ⟨turns, by rwa [Program.run, same]⟩
  | ask effect next ih =>
    have run := run.turn left (fits effect t)
    obtain ⟨more, run⟩ := ih _ run (Function.update_self ..)
    rw [Function.update_idem] at run
    exact ⟨more, run⟩

/-- Programs may be run one after another. -/
theorem Interleaved.inTurn (fits : ∀ effect t,
      world effect (view t) (environment effect t).1 (view (environment effect t).2))
    (run : Interleaved world drift programs s turns rest (view t)) {order : List ι}
    (distinct : order.Nodup) (left : ∀ i ∈ order, rest i = programs i) :
    ∃ more last, Interleaved world drift programs s more last
      (view (Program.inTurn environment programs order t)) ∧
      (∀ i ∈ order, ∃ value, last i = .done value) ∧ ∀ i ∉ order, last i = rest i := by
  induction order generalizing turns rest t with
  | nil => exact ⟨turns, rest, run, nofun, fun _ _ => rfl⟩
  | cons i order ih =>
    rw [List.nodup_cons] at distinct
    rw [List.forall_mem_cons] at left
    obtain ⟨more, run⟩ := run.finish fits i
    rw [left.1] at run
    have others (j : ι) (known : j ∈ order) : j ≠ i := fun same => distinct.1 (same ▸ known)
    obtain ⟨turns, last, run, done, idle⟩ := ih run distinct.2 fun j known => by
      rw [Function.update_of_ne (others j known)]
      exact left.2 j known
    refine ⟨turns, last, run, ?_, fun j apart => ?_⟩
    · rw [List.forall_mem_cons]
      refine ⟨⟨_, (idle i distinct.1).trans (Function.update_self ..)⟩, done⟩
    · rw [List.mem_cons, not_or] at apart
      rw [idle j apart.2, Function.update_of_ne apart.1]

end

theorem Sharing.Elsewhere.refl {i : ι} {past : Past ι σ} (h : shared.kept past) :
    shared.Elsewhere i past past := ⟨h, shared.refl past, rfl⟩

theorem Sharing.Elsewhere.trans {i : ι} {a b c : Past ι σ} (h : shared.Elsewhere i a b)
    (h' : shared.Elsewhere i b c) : shared.Elsewhere i a c :=
  ⟨h'.kept, shared.trans a b c h.grows h'.grows, h'.own.trans h.own⟩

/-- Behind a turn of a program, it has had this one more. -/
theorem Sharing.own_of_world {i : ι} {effect : Effect} {reply : effect.Reply} {before later : Past ι σ}
    (w : shared.world world i effect before reply later) :
    later.own i = before.own i ++ [⟨i, effect, reply⟩] := by
  obtain ⟨s, -, -, -, elsewhere⟩ := w
  rw [elsewhere.own, Past.own_after, if_pos rfl]

/-- Programs that do nothing but what they may keep what is shared, and so does the drift. -/
structure Sharing.Holds (shared : Sharing ι σ) (world : World σ) (drift : σ → σ → Prop)
    (policy : ι → Policy (Past ι σ)) : Prop where
  turn : ∀ past i effect reply s, shared.kept past → (policy i).permitted effect past →
    world effect past.state reply s → shared.kept (past.after ⟨i, effect, reply⟩ s) ∧
      shared.grows past (past.after ⟨i, effect, reply⟩ s)
  drifts : ∀ past s, shared.kept past → drift past.state s →
    shared.kept ⟨past.turns, s⟩ ∧ shared.grows past ⟨past.turns, s⟩

/-- Each program keeps its promise from here on, whatever the others do first. -/
structure Sharing.Pending (shared : Sharing ι σ) (world : World σ) (policy : ι → Policy (Past ι σ))
    (promised : ∀ i, α i → Past ι σ → Prop) (programs : ∀ i, Program (α i)) (past : Past ι σ) :
    Prop where
  kept : shared.kept past
  meets : ∀ i later, shared.Elsewhere i past later →
    (programs i).Meets (shared.world world i) (policy i) (promised i) later

variable {policy : ι → Policy (Past ι σ)} {promised : ∀ i, α i → Past ι σ → Prop}

theorem Sharing.Pending.here {past : Past ι σ} (h : shared.Pending world policy promised programs past)
    (i : ι) : (programs i).Meets (shared.world world i) (policy i) (promised i) past :=
  h.meets i past (.refl h.kept)

/-- A program that has ended has kept its promise. -/
theorem Sharing.Pending.ended {past : Past ι σ} (h : shared.Pending world policy promised programs past)
    {i : ι} {result : α i} (done : programs i = .done result) : promised i result past := by
  have own := h.here i
  rw [done] at own
  exact own

private theorem pending_turn (holds : shared.Holds world drift policy) {past : Past ι σ}
    (h : shared.Pending world policy promised rest past) {i : ι} {effect : Effect}
    {next : effect.Reply → Program (α i)} {reply : effect.Reply} (asks : rest i = .ask effect next)
    (w : world effect past.state reply s) :
    let later := past.after ⟨i, effect, reply⟩ s
    shared.Pending world policy promised (Function.update rest i (next reply)) later ∧
      shared.grows past later := by
  intro later
  have own := h.here i
  rw [asks] at own
  obtain ⟨permitted, -, goes⟩ := own
  obtain ⟨kept, grows⟩ := holds.turn past i effect reply s h.kept permitted w
  refine ⟨⟨kept, fun j last elsewhere => ?_⟩, grows⟩
  by_cases same : j = i
  · subst same
    rw [Function.update_self]
    exact goes reply last ⟨s, w, kept, grows, elsewhere⟩
  · rw [Function.update_of_ne same]
    have others : shared.Elsewhere j past later := by
      refine ⟨kept, grows, ?_⟩
      rw [Past.own_after, if_neg (Ne.symm same), List.append_nil]
    exact h.meets j last (others.trans elsewhere)

private theorem pending_drifts (holds : shared.Holds world drift policy) {past : Past ι σ}
    (h : shared.Pending world policy promised rest past) (d : drift past.state s) :
    shared.Pending world policy promised rest ⟨past.turns, s⟩ ∧ shared.grows past ⟨past.turns, s⟩ := by
  obtain ⟨kept, grows⟩ := holds.drifts past s h.kept d
  refine ⟨⟨kept, fun j last elsewhere => h.meets j last ?_⟩, grows⟩
  exact Sharing.Elsewhere.trans ⟨kept, grows, rfl⟩ elsewhere

/-- Whatever turns are taken, what is left of each program still keeps its promise. -/
theorem Interleaved.pending (holds : shared.Holds world drift policy) {before : List (Turn ι)}
    (run : Interleaved world drift programs s turns rest after)
    (start : shared.Pending world policy promised programs ⟨before, s⟩) :
    shared.Pending world policy promised rest ⟨before ++ turns, after⟩ ∧
      shared.grows ⟨before, s⟩ ⟨before ++ turns, after⟩ := by
  induction run with
  | begin =>
    rw [List.append_nil]
    exact ⟨start, shared.refl _⟩
  | turn _ asks w ih =>
    obtain ⟨pending, grown⟩ := pending_turn holds ih.1 asks w
    rw [← List.append_assoc]
    exact ⟨pending, shared.trans _ _ _ ih.2 grown⟩
  | drifts _ d ih =>
    obtain ⟨pending, grown⟩ := pending_drifts holds ih.1 d
    exact ⟨pending, shared.trans _ _ _ ih.2 grown⟩

/-- A program that keeps its promise whatever others do keeps it when it runs alone. -/
theorem Sharing.meets_alone {α : Type} (holds : shared.Holds world drift policy) {i : ι}
    {program : Program α} {ends : α → Past ι σ → Prop} {past : Past ι σ} (kept : shared.kept past)
    (h : program.Meets (shared.world world i) (policy i) ends past) :
    program.Meets world .free (fun value s => ∃ turns, ends value ⟨turns, s⟩) past.state := by
  induction program generalizing past with
  | done value => exact ⟨past.turns, h⟩
  | ask effect next ih =>
    refine meets_ask.mpr fun reply after w => ?_
    obtain ⟨kept', grows⟩ := holds.turn past i effect reply after kept h.1 w
    exact ih reply kept' (h.2.2 reply _ ⟨after, w, kept', grows, .refl kept'⟩)

end Program
end Automation
