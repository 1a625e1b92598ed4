import Automation.Http.Basic
import Automation.Store.Operation

/-!
Programs that ask a store, an HTTP peer and a clock. A program is a tree: it has a branch for every
reply, whatever the ones it asks choose to do.
-/
namespace Automation

/-- What a collaborator leaves behind when it breaks down instead of failing. -/
inductive Crash where
  | saying (text : String)
  | silent
  deriving DecidableEq

def Crash.message : Crash → String
  | saying text => text
  | silent => "panic with non-string payload"

/-- What may come of an operation of the store. One that stalls never answers. -/
inductive StoreReply (α : Type) where
  | answered (result : Except StoreError α)
  | stalled
  | crashed (crash : Crash)

/-- Something asked from outside. -/
inductive Effect where
  | store (op : StoreOp)
  | exchange (request : Http.Request) (deadline : Duration)
  | clock

abbrev Effect.Reply : Effect → Type
  | store op => StoreReply op.Answer
  | exchange _ _ => Http.Reply
  | clock => Time.Instant

inductive Program (α : Type) where
  | done (value : α)
  | ask (effect : Effect) (next : effect.Reply → Program α)

namespace Program

variable {α β : Type}

protected def bind (program : Program α) (f : α → Program β) : Program β :=
  match program with
  | done value => f value
  | ask effect next => ask effect fun reply => (next reply).bind f

instance : Monad Program where
  pure := done
  bind := Program.bind

@[simp] theorem pure_bind (a : α) (f : α → Program β) : (done a).bind f = f a := rfl

theorem bind_done (program : Program α) : program.bind done = program := by
  induction program with
  | done value => rfl
  | ask effect next ih => simp [Program.bind, ih]

theorem bind_assoc {γ : Type} (program : Program α) (f : α → Program β) (g : β → Program γ) :
    (program.bind f).bind g = program.bind fun a => (f a).bind g := by
  induction program with
  | done value => rfl
  | ask effect next ih => simp [Program.bind, ih]

instance : LawfulMonad Program :=
  LawfulMonad.mk' Program bind_done (fun _ _ => rfl) bind_assoc

def perform (effect : Effect) : Program effect.Reply := ask effect done

def now : Program Time.Instant := perform .clock

def exchange (request : Http.Request) (deadline : Duration) : Program Http.Reply :=
  perform (.exchange request deadline)

/-- Those who are asked: they have a state of their own. -/
abbrev Environment (σ : Type) := (effect : Effect) → σ → effect.Reply × σ

/-- The value of a program and the state it leaves its environment in. -/
def run {σ : Type} (environment : Environment σ) : Program α → σ → α × σ
  | done value, s => (value, s)
  | ask effect next, s =>
    let (reply, s) := environment effect s
    run environment (next reply) s

end Program
end Automation
