import Automation.Program

/-!
Contracts of programs. A program meets a contract in a world when each thing it asks is permitted and
each value it ends with is as promised, whatever the world replies. It may also be asked not to tell
some replies apart.
-/
namespace Automation

/-- The replies that may come and the states that may lie behind them. -/
abbrev World (σ : Type) := (effect : Effect) → σ → effect.Reply → σ → Prop

/-- The world in which one environment replies. -/
def Program.Environment.world {σ : Type} (environment : Program.Environment σ) : World σ :=
  fun effect s reply next => environment effect s = (reply, next)

/-- What may be asked, and which replies are twins: what follows is the same for both. -/
structure Policy (σ : Type) where
  permitted : Effect → σ → Prop := fun _ _ => True
  twins : (effect : Effect) → σ → effect.Reply → effect.Reply → Prop := fun _ _ _ _ => False

/-- Anything goes. -/
abbrev Policy.free {σ : Type} : Policy σ := {}

namespace Program

variable {α β σ τ : Type}

def Meets (world : World σ) (policy : Policy σ) (promised : α → σ → Prop) : Program α → σ → Prop
  | done value, s => promised value s
  | ask effect next, s => policy.permitted effect s ∧
      (∀ reply twin, policy.twins effect s reply twin → next reply = next twin) ∧
      ∀ reply after, world effect s reply after → (next reply).Meets world policy promised after

/-- The states of an environment while a program runs, the first and the last one among them. -/
def path (environment : Environment σ) : Program α → σ → List σ
  | done _, s => [s]
  | ask effect next, s =>
    s :: path environment (next (environment effect s).1) (environment effect s).2

variable {world : World σ} {policy : Policy σ}

@[simp] theorem meets_done {promised : α → σ → Prop} {value : α} {s : σ} :
    (done value).Meets world policy promised s ↔ promised value s := Iff.rfl

@[simp] theorem meets_pure {promised : α → σ → Prop} {value : α} {s : σ} :
    (pure value : Program α).Meets world policy promised s ↔ promised value s := Iff.rfl

/-- What is asked may be told apart if nothing has a twin. -/
theorem meets_ask {effect : Effect} {next : effect.Reply → Program α} {promised : α → σ → Prop}
    {s : σ} : (ask effect next).Meets world .free promised s ↔
      ∀ reply after, world effect s reply after → (next reply).Meets world .free promised after :=
  ⟨fun h => h.2.2, fun h => ⟨trivial, nofun, h⟩⟩

theorem Meets.mono {first second : α → σ → Prop} {program : Program α} {s : σ}
    (h : program.Meets world policy first s)
    (weaker : ∀ value after, first value after → second value after) :
    program.Meets world policy second s := by
  induction program generalizing s with
  | done value => exact weaker value s h
  | ask effect next ih => exact ⟨h.1, h.2.1, fun reply after w => ih reply (h.2.2 reply after w)⟩

theorem Meets.bind {first : α → σ → Prop} {promised : β → σ → Prop} {program : Program α}
    {next : α → Program β} {s : σ} (h : program.Meets world policy first s)
    (rest : ∀ value after, first value after → (next value).Meets world policy promised after) :
    (program >>= next).Meets world policy promised s := by
  change (program.bind next).Meets world policy promised s
  induction program generalizing s with
  | done value => exact rest value s h
  | ask effect more ih =>
    refine ⟨h.1, fun reply twin same => ?_, fun reply after w => ih reply (h.2.2 reply after w)⟩
    exact congrArg (·.bind next) (h.2.1 reply twin same)

theorem Meets.map {promised : β → σ → Prop} {program : Program α} {f : α → β} {s : σ}
    (h : program.Meets world policy (fun value after => promised (f value) after) s) :
    (f <$> program).Meets world policy promised s := by
  rw [map_eq_pure_bind]
  exact h.bind fun _ _ post => post

theorem meets_true (program : Program α) (s : σ) :
    program.Meets world .free (fun _ _ => True) s := by
  induction program generalizing s with
  | done value => trivial
  | ask effect next ih => exact meets_ask.mpr fun reply after _ => ih reply after

/-- What each permitted step keeps and does, a whole program keeps and does; its own proof may
rely on both from step to step. -/
theorem Meets.steadily {kept : σ → Prop} {grows : σ → σ → Prop} {promised : α → σ → Prop}
    {program : Program α} {s : σ} (refl : ∀ s, kept s → grows s s)
    (trans : ∀ a b c, kept a → grows a b → grows b c → grows a c)
    (step : ∀ effect s reply after, kept s → policy.permitted effect s →
      world effect s reply after → kept after ∧ grows s after)
    (h : program.Meets (fun effect s reply after =>
      world effect s reply after ∧ kept after ∧ grows s after) policy promised s)
    (start : kept s) :
    program.Meets world policy
      (fun value after => promised value after ∧ kept after ∧ grows s after) s := by
  induction program generalizing s with
  | done value => exact ⟨h, start, refl s start⟩
  | ask effect next ih =>
    refine ⟨h.1, h.2.1, fun reply after w => ?_⟩
    obtain ⟨valid, moved⟩ := step effect s reply after start h.1 w
    refine (ih reply (h.2.2 reply after ⟨w, valid, moved⟩) valid).mono ?_
    rintro value last ⟨ends, lasts, later⟩
    exact ⟨ends, lasts, trans s after last start moved later⟩

/-- Where all steps end in states of a kind, so does a program that starts in one. -/
theorem Meets.kept {kept : σ → Prop} {promised : α → σ → Prop} {program : Program α} {s : σ}
    (h : program.Meets world policy promised s)
    (step : ∀ effect s reply after, world effect s reply after → kept after) (start : kept s) :
    program.Meets world policy (fun value after => promised value after ∧ kept after) s := by
  induction program generalizing s with
  | done value => exact ⟨h, start⟩
  | ask effect next ih =>
    refine ⟨h.1, h.2.1, ?_⟩
    intro reply after w
    exact ih reply (h.2.2 reply after w) (step effect s reply after w)

variable {environment : Environment σ}

@[simp] theorem head?_path (program : Program α) (s : σ) :
    (program.path environment s).head? = some s := by
  cases program <;> rfl

@[simp] theorem getLast?_path (program : Program α) (s : σ) :
    (program.path environment s).getLast? = some (program.run environment s).2 := by
  induction program generalizing s with
  | done value => rfl
  | ask effect next ih => rw [path, List.getLast?_cons, ih]; rfl

theorem run_bind {program : Program α} {next : α → Program β} {s : σ} :
    (program >>= next).run environment s =
      (next (program.run environment s).1).run environment (program.run environment s).2 := by
  change (program.bind next).run environment s = _
  induction program generalizing s with
  | done value => rfl
  | ask effect rest ih => exact ih _

theorem meets_world {promised : α → σ → Prop} {program : Program α} {s : σ} :
    program.Meets environment.world .free promised s ↔
      promised (program.run environment s).1 (program.run environment s).2 := by
  induction program generalizing s with
  | done value => rfl
  | ask effect next ih =>
    rw [meets_ask]
    constructor
    · exact fun h => (ih _).mp (h _ _ rfl)
    · intro h reply after w
      rw [Program.run, show environment effect s = (reply, after) from w] at h
      exact (ih reply).mpr h

/-- What a program promises holds where it ends in an environment whose steps the world allows. -/
theorem Meets.run {promised : α → τ → Prop} {world : World τ} {program : Program α} (view : σ → τ)
    (fits : ∀ effect s, world effect (view s) (environment effect s).1 (view (environment effect s).2))
    {s : σ} (h : program.Meets world .free promised (view s)) :
    promised (program.run environment s).1 (view (program.run environment s).2) := by
  induction program generalizing s with
  | done value => exact h
  | ask effect next ih => exact ih _ (h.2.2 _ _ (fits effect s))

/-- What each permitted step keeps and does holds all along the path of an environment whose steps
the world allows. -/
theorem Meets.path {kept : τ → Prop} {g : τ → τ → Prop} {promised : α → τ → Prop}
    {world : World τ} {policy : Policy τ} {program : Program α} (view : σ → τ)
    (fits : ∀ effect s, world effect (view s) (environment effect s).1 (view (environment effect s).2))
    (trans : ∀ a b c, kept a → g a b → g b c → g a c)
    (step : ∀ effect s reply after, kept s → policy.permitted effect s →
      world effect s reply after → kept after ∧ g s after)
    {s : σ} (h : program.Meets world policy promised (view s)) (start : kept (view s)) :
    (∀ t ∈ program.path environment s, kept (view t)) ∧
      (program.path environment s).Pairwise fun a b => g (view a) (view b) := by
  induction program generalizing s with
  | done value => simpa [Program.path] using start
  | ask effect next ih =>
    have w := fits effect s
    obtain ⟨valid, moved⟩ := step _ _ _ _ start h.1 w
    obtain ⟨all, pairs⟩ := ih _ (h.2.2 _ _ w) valid
    simp only [Program.path, List.mem_cons, forall_eq_or_imp, List.pairwise_cons]
    refine ⟨⟨start, all⟩, fun t ht => ?_, pairs⟩
    cases hn : next (environment effect s).1 with
    | done value =>
      simp only [hn, Program.path, List.mem_singleton] at ht
      exact ht ▸ moved
    | ask other rest =>
      simp only [hn, Program.path, List.mem_cons, List.pairwise_cons] at ht pairs
      rcases ht with rfl | ht
      · exact moved
      · exact trans _ _ _ start moved (pairs.1 t ht)

/-- A program gives the same in both environments, and leaves them alike. -/
def Agrees (environment : Environment σ) (other : Environment τ) (alike : σ → τ → Prop)
    (program : Program α) : Prop :=
  ∀ s t, alike s t → (program.run environment s).1 = (program.run other t).1 ∧
    alike (program.run environment s).2 (program.run other t).2

end Program
end Automation
