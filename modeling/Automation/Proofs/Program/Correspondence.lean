import Automation.Proofs.Program.Work

/-!
Two programs side by side, each in an environment of its own. They correspond when what they give is related
wherever they start from states that are alike, and the states they leave are alike again.
-/
namespace Automation

/-- The values show the same in a view and, if nothing is to be left out of account, they are the same. -/
def UpTo {α β : Type} (exact : Prop) (view : α → β) (a a' : α) : Prop := view a = view a' ∧ (exact → a = a')

namespace UpTo

variable {α β γ : Type} {exact : Prop} {view : α → β} {a a' : α}

theorem refl (exact : Prop) (view : α → β) (a : α) : UpTo exact view a a := ⟨rfl, fun _ => rfl⟩

/-- What is made of both shows the same if no more is told of it than what shows of them. -/
theorem map {δ : Type} {f : α → γ} {view' : γ → δ} (h : UpTo exact view a a')
    (told : view a = view a' → view' (f a) = view' (f a')) : UpTo exact view' (f a) (f a') :=
  ⟨told h.1, fun same => congrArg f (h.2 same)⟩

end UpTo

namespace Program

variable {α α' β β' σ τ : Type}

def Corresponds (environment : Environment σ) (other : Environment τ) (alike : σ → τ → Prop)
    (related : α → α' → Prop) (program : Program α) (program' : Program α') : Prop :=
  ∀ s t, alike s t → related (program.run environment s).1 (program'.run other t).1 ∧
    alike (program.run environment s).2 (program'.run other t).2

variable {environment : Environment σ} {other : Environment τ} {alike : σ → τ → Prop}
  {related : α → α' → Prop} {program : Program α} {program' : Program α'}

theorem corresponds_pure {a : α} {a' : α'} (h : related a a') :
    Corresponds environment other alike related (pure a) (pure a') :=
  fun _ _ same => ⟨h, same⟩

theorem Corresponds.bind {next : α → Program β} {next' : α' → Program β'} {last : β → β' → Prop}
    (h : Corresponds environment other alike related program program')
    (rest : ∀ a a', related a a' →
      Corresponds environment other alike last (next a) (next' a')) :
    Corresponds environment other alike last (program >>= next) (program' >>= next') := by
  intro s t same
  obtain ⟨ends, later⟩ := h s t same
  rw [run_bind, run_bind]
  exact rest _ _ ends _ _ later

/-- What is asked first may be followed by anything, once the replies are related. -/
theorem Corresponds.ask {effect effect' : Effect} {next : effect.Reply → Program β}
    {next' : effect'.Reply → Program β'} {replies : effect.Reply → effect'.Reply → Prop}
    {last : β → β' → Prop}
    (h : Corresponds environment other alike replies (perform effect) (perform effect'))
    (rest : ∀ reply reply', replies reply reply' →
      Corresponds environment other alike last (next reply) (next' reply')) :
    Corresponds environment other alike last (.ask effect next) (.ask effect' next') :=
  h.bind rest

end Program

/-- Either both fail, and with the same error, or what they give is related. -/
inductive Paired {ε α α' : Type} (related : α → α' → Prop) : Except ε α → Except ε α' → Prop
  | failed (error : ε) : Paired related (.error error) (.error error)
  | given {a : α} {a' : α'} (h : related a a') : Paired related (.ok a) (.ok a')

namespace Paired

variable {ε α γ : Type} {related : α → α → Prop} {twins : γ → γ → Prop} {x x' : Except ε α}

theorem map {f : α → γ} (h : Paired related x x') (each : ∀ a a', related a a' → twins (f a) (f a')) :
    Paired twins (f <$> x) (f <$> x') := by
  cases h with
  | failed error => exact .failed error
  | given h => exact .given (each _ _ h)

theorem seq {functions : (α → γ) → (α → γ) → Prop} {f f' : Except ε (α → γ)}
    (h : Paired functions f f') (h' : Paired related x x')
    (each : ∀ g g' a a', functions g g' → related a a' → twins (g a) (g' a')) :
    Paired twins (f <*> x) (f' <*> x') := by
  cases h with
  | failed error => exact .failed error
  | given h =>
    cases h' with
    | failed error => exact .failed error
    | given h' => exact .given (each _ _ _ _ h h')

end Paired

namespace Work

open Program (Corresponds)

variable {ε α α' β β' σ τ : Type} {environment : Program.Environment σ} {other : Program.Environment τ}
  {alike : σ → τ → Prop} {related : α → α' → Prop}

theorem corresponds_ofProgram {program : Program α} {program' : Program α'}
    (h : Corresponds environment other alike related program program') :
    Corresponds environment other alike (Paired related)
      (Work.ofProgram program : Work ε α).run (Work.ofProgram program' : Work ε α').run := by
  unfold Work.ofProgram
  rw [ExceptT.run_lift, ExceptT.run_lift, map_eq_pure_bind, map_eq_pure_bind]
  exact h.bind fun a a' same => Program.corresponds_pure (.given same)

theorem corresponds_ofExcept {x : Except ε α} {x' : Except ε α'} (h : Paired related x x') :
    Corresponds environment other alike (Paired related) (Work.ofExcept x).run (Work.ofExcept x').run := by
  cases h with
  | failed e => exact Program.corresponds_pure (.failed _)
  | given same => exact Program.corresponds_pure (.given same)

/-- Work goes on alike behind work that did. -/
theorem corresponds_bind {work : Work ε α} {work' : Work ε α'} {next : α → Work ε β}
    {next' : α' → Work ε β'} {last : β → β' → Prop}
    (h : Corresponds environment other alike (Paired related) work.run work'.run)
    (rest : ∀ a a', related a a' →
      Corresponds environment other alike (Paired last) (next a).run (next' a').run) :
    Corresponds environment other alike (Paired last) (work >>= next).run (work' >>= next').run := by
  rw [run_bind, run_bind]
  refine Program.Corresponds.bind h ?_
  rintro _ _ (error | same)
  · exact Program.corresponds_pure (.failed error)
  · exact rest _ _ same

end Work
end Automation
