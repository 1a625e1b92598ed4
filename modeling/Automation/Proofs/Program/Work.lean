import Automation.Proofs.Program.Contract
import Automation.Work

/-!
Contracts of work that may stop: one promise for its value and one for the reason why it stopped.
-/
namespace Automation

namespace Work

variable {ε ε' α β σ : Type}

/-- The two promises as one about the result. -/
def Promise (value : α → σ → Prop) (stop : Stop ε → σ → Prop) : Except (Stop ε) α → σ → Prop
  | .ok a, s => value a s
  | .error e, s => stop e s

def Meets (world : World σ) (policy : Policy σ) (value : α → σ → Prop)
    (stop : Stop ε → σ → Prop) (work : Work ε α) (s : σ) : Prop :=
  Program.Meets world policy (Promise value stop) work.run s

variable {world : World σ} {policy : Policy σ} {stop : Stop ε → σ → Prop} {s : σ}

theorem meets_pure {value : α → σ → Prop} {a : α} :
    Meets world policy value stop (pure a : Work ε α) s ↔ value a s := Iff.rfl

theorem meets_fail {value : α → σ → Prop} {e : ε} :
    Meets world policy value stop (Work.fail e : Work ε α) s ↔ stop (.failed e) s := Iff.rfl

/-- What becomes of a result when there is more to do. -/
def resume (next : α → Work ε β) : Except (Stop ε) α → Program (Except (Stop ε) β)
  | .ok a => (next a).run
  | .error e => .done (.error e)

theorem run_bind (work : Work ε α) (next : α → Work ε β) :
    (work >>= next).run = work.run >>= resume next := by
  rw [ExceptT.run_bind]
  congr 1
  funext result
  cases result <;> rfl

theorem meets_any (work : Work ε α) (s : σ) :
    Meets world .free (fun _ _ => True) (fun _ _ => True) work s :=
  (Program.meets_true work.run s).mono fun result _ _ => by cases result <;> trivial

theorem Meets.mono {first second : α → σ → Prop} {stop stop' : Stop ε → σ → Prop} {work : Work ε α}
    (h : Meets world policy first stop work s)
    (weaker : ∀ a after, first a after → second a after)
    (stops : ∀ e after, stop e after → stop' e after) :
    Meets world policy second stop' work s :=
  Program.Meets.mono h fun result after post => by
    cases result with
    | ok a => exact weaker a after post
    | error e => exact stops e after post

theorem Meets.unstopped {value : α → σ → Prop} {work : Work ε α}
    (h : Meets world policy value (fun _ _ => False) work s) : Meets world policy value stop work s :=
  h.mono (fun _ _ post => post) fun _ _ => False.elim

theorem Meets.bind {first : α → σ → Prop} {value : β → σ → Prop} {work : Work ε α}
    {next : α → Work ε β} (h : Meets world policy first stop work s)
    (rest : ∀ a after, first a after → Meets world policy value stop (next a) after) :
    Meets world policy value stop (work >>= next) s := by
  unfold Meets
  rw [run_bind]
  refine Program.Meets.bind h fun result after post => ?_
  cases result with
  | ok a => exact rest a after post
  | error e => exact post

theorem meets_ofProgram {value : α → σ → Prop} {program : Program α}
    (h : program.Meets world policy value s) :
    Meets world policy value stop (Work.ofProgram program) s := by
  unfold Meets Work.ofProgram
  rw [ExceptT.run_lift]
  exact Program.Meets.map h

/-- Work that is run on its own, with what becomes of either result. -/
private theorem meets_settled {first : α → σ → Prop} {value : β → σ → Prop}
    {stop' : Stop ε' → σ → Prop} {work : Work ε' α} {next : Except (Stop ε') α → Work ε β}
    (h : Meets world policy first stop' work s)
    (ends : ∀ a after, first a after → Meets world policy value stop (next (.ok a)) after)
    (stops : ∀ e after, stop' e after → Meets world policy value stop (next (.error e)) after) :
    Meets world policy value stop (Work.ofProgram work.run >>= next) s :=
  (meets_ofProgram h).bind fun result after post => by
    cases result with
    | ok a => exact ends a after post
    | error e => exact stops e after post

theorem Meets.mapError {value : α → σ → Prop} {f : ε' → ε} {work : Work ε' α}
    (h : Meets world policy value (fun e after => match e with
      | .failed e => stop (.failed (f e)) after
      | .crashed c => stop (.crashed c) after) work s) :
    Meets world policy value stop (Work.mapError f work) s :=
  meets_settled h (fun _ _ post => post) fun e _ post => by cases e <;> exact post

theorem Meets.ignoring {value : Unit → σ → Prop} {work : Work ε' α}
    (h : Meets world policy (fun _ => value ()) (fun e after => match e with
      | .failed _ => value () after
      | .crashed c => stop (.crashed c) after) work s) :
    Meets world policy value stop (Work.ignoring work) s :=
  meets_settled h (fun _ _ post => post) fun e _ post => by cases e <;> exact post

variable {environment : Program.Environment σ} {after : σ}

theorem run_ofProgram (program : Program α) : (Work.ofProgram program : Work ε α).run.run environment s =
    (.ok (program.run environment s).1, (program.run environment s).2) := by
  unfold Work.ofProgram
  rw [ExceptT.run_lift, map_eq_pure_bind, Program.run_bind]
  rfl

theorem run_ofExcept {result : Except ε α} {a : α} (h : result = .ok a) :
    (Work.ofExcept result).run.run environment s = (.ok a, s) := by
  rw [h]
  rfl

/-- What follows a value runs where the work for it ended. -/
theorem run_next {work : Work ε α} {next : α → Work ε β} {a : α}
    (h : work.run.run environment s = (.ok a, after)) :
    (work >>= next).run.run environment s = (next a).run.run environment after := by
  rw [run_bind, Program.run_bind, h]
  rfl

/-- Nothing follows work that stopped. -/
theorem run_stop {work : Work ε α} {next : α → Work ε β} {stop : Stop ε}
    (h : work.run.run environment s = (.error stop, after)) :
    (work >>= next).run.run environment s = (.error stop, after) := by
  rw [run_bind, Program.run_bind, h]
  rfl

/-- Work that came to its end did so in all its parts. -/
theorem run_split {work : Work ε α} {next : α → Work ε β} {b : β}
    (h : (work >>= next).run.run environment s = (.ok b, after)) :
    ∃ a mid, work.run.run environment s = (.ok a, mid) ∧
      (next a).run.run environment mid = (.ok b, after) := by
  rw [run_bind, Program.run_bind] at h
  generalize work.run.run environment s = ran at h
  obtain ⟨result, mid⟩ := ran
  cases result with
  | error stop => cases h
  | ok a => exact ⟨a, mid, rfl, h⟩

theorem run_ignoring {work : Work ε' α}
    (calm : ∀ crash, (work.run.run environment s).1 ≠ .error (.crashed crash)) :
    (Work.ignoring work : Work ε Unit).run.run environment s =
      (.ok (), (work.run.run environment s).2) := by
  unfold Work.ignoring
  rw [run_next (run_ofProgram _)]
  cases result : (work.run.run environment s).1 with
  | ok a => rfl
  | error stop =>
    cases stop with
    | failed e => rfl
    | crashed crash => exact absurd result (calm crash)

end Work

/-- A failure, or a crash of the kind. -/
def Stop.Fits {ε : Type} (crash : Crash → Prop) : Stop ε → Prop
  | .failed _ => True
  | .crashed c => crash c

namespace Work

variable {ε ε' α β σ : Type} {world : World σ} {kept : σ → Prop} {crash : Crash → Prop}

/-- The work leaves a state of the kind behind whatever is replied, and gives a value of the kind or
stops. -/
def Steady (world : World σ) (kept : σ → Prop) (crash : Crash → Prop) (given : α → Prop)
    (work : Work ε α) : Prop :=
  ∀ s, kept s → Meets world .free (fun a after => given a ∧ kept after)
    (fun stop after => stop.Fits crash ∧ kept after) work s

theorem steady_pure {g : α → Prop} {a : α} (h : g a) :
    Steady world kept crash g (pure a : Work ε α) :=
  fun _ start => meets_pure.mpr ⟨h, start⟩

theorem steady_fail {g : α → Prop} (e : ε) :
    Steady world kept crash g (Work.fail e : Work ε α) :=
  fun _ start => meets_fail.mpr ⟨trivial, start⟩

theorem steady_ofExcept {g : α → Prop} {result : Except ε α}
    (h : ∀ a, result = .ok a → g a) : Steady world kept crash g (Work.ofExcept result) := by
  cases result with
  | ok a => exact steady_pure (h a rfl)
  | error e => exact steady_fail e

theorem steady_any {result : Except ε α} :
    Steady world kept crash (fun _ => True) (Work.ofExcept result) :=
  steady_ofExcept fun _ _ => trivial

theorem Steady.bind {first : α → Prop} {given : β → Prop} {work : Work ε α} {next : α → Work ε β}
    (h : Steady world kept crash first work)
    (rest : ∀ a, first a → Steady world kept crash given (next a)) :
    Steady world kept crash given (work >>= next) :=
  fun s start => (h s start).bind fun a after post => rest a post.1 after post.2

theorem Steady.mapError {g : α → Prop} {f : ε' → ε} {work : Work ε' α}
    (h : Steady world kept crash g work) :
    Steady world kept crash g (Work.mapError f work) :=
  fun s start => Meets.mapError
    ((h s start).mono (fun _ _ post => post) fun stop _ post => by cases stop <;> exact post)

theorem Steady.ignoring {g : α → Prop} {work : Work ε' α}
    (h : Steady world kept crash g work) :
    Steady world kept crash (fun _ => True) (Work.ignoring work : Work ε Unit) :=
  fun s start => Meets.ignoring ((h s start).mono (fun _ _ post => ⟨trivial, post.2⟩)
    fun stop _ post => by cases stop <;> exact post)

theorem steady_ofProgram {g : α → Prop} {program : Program α}
    (h : ∀ s, kept s → program.Meets world .free (fun a after => g a ∧ kept after) s) :
    Steady world kept crash g (Work.ofProgram program : Work ε α) :=
  fun s start => meets_ofProgram (h s start)

end Work

namespace Work

variable {ε ε' α β σ : Type} {world : World σ} {raised : ε → Prop}

/-- Whatever is replied, the work fails with errors of the kind only. -/
def Raises (world : World σ) (raised : ε → Prop) (work : Work ε α) : Prop :=
  ∀ s, Meets world .free (fun _ _ => True) (fun stop _ => ∀ e, stop = .failed e → raised e) work s

theorem raises_pure (a : α) : Raises world raised (pure a : Work ε α) := fun _ => trivial

theorem raises_fail {e : ε} (h : raised e) : Raises world raised (Work.fail e : Work ε α) := by
  rintro s _ ⟨⟩
  exact h

theorem raises_ofExcept {result : Except ε α} (h : ∀ e, result = .error e → raised e) :
    Raises world raised (Work.ofExcept result) := by
  cases result with
  | ok a => exact raises_pure a
  | error e => exact raises_fail (h e rfl)

theorem raises_ofProgram (program : Program α) :
    Raises world raised (Work.ofProgram program : Work ε α) :=
  fun s => meets_ofProgram (Program.meets_true program s)

theorem raises_ignoring (work : Work ε' α) :
    Raises world raised (Work.ignoring work : Work ε Unit) :=
  fun s => Meets.ignoring ((meets_any work s).mono (fun _ _ _ => trivial) fun stop _ _ => by
    cases stop with
    | failed e => trivial
    | crashed crash => exact nofun)

theorem Raises.bind {work : Work ε α} {next : α → Work ε β} (h : Raises world raised work)
    (rest : ∀ a, Raises world raised (next a)) : Raises world raised (work >>= next) :=
  fun s => (h s).bind fun a after _ => rest a after

theorem Raises.mono {more : ε → Prop} {work : Work ε α} (h : Raises world raised work)
    (weaker : ∀ e, raised e → more e) : Raises world more work :=
  fun s => (h s).mono (fun _ _ _ => trivial) fun _ _ post e failed => weaker e (post e failed)

theorem Raises.mapError {f : ε' → ε} {work : Work ε' α}
    (h : Raises world (fun e => raised (f e)) work) : Raises world raised (Work.mapError f work) :=
  fun s => Meets.mapError ((h s).mono (fun _ _ _ => trivial) fun stop _ post => by
    cases stop with
    | failed e =>
      rintro _ ⟨⟩
      exact post e rfl
    | crashed crash => exact nofun)

end Work

namespace Connection

variable {ε : Type} {σ : Type} {world : World σ} {raised : ε → Prop} {c : Connection ε}

/-- A caller may make of each failure of the store an error of the kind. -/
structure Raises (raised : ε → Prop) (c : Connection ε) : Prop where
  failed : ∀ e, raised (c.failed e)
  stalled : raised c.stalled

theorem Raises.ask (h : c.Raises raised) (op : StoreOp) : Work.Raises world raised (c.ask op) := by
  refine (Work.raises_ofProgram _).bind fun reply => ?_
  rcases reply with (e | answer) | _ | crash
  · exact Work.raises_fail (h.failed e)
  · exact Work.raises_pure answer
  · exact Work.raises_fail h.stalled
  · exact fun s => nofun

theorem Raises.requireIn (h : c.Raises raised) (workspaceId : String) (table : Table) (id : String) :
    Work.Raises world raised (c.requireIn workspaceId table id) := by
  have required : Work.Raises world raised (c.require table id) := by
    refine (h.ask (.get table id)).bind fun found => ?_
    cases found with
    | none => exact Work.raises_fail (h.failed _)
    | some doc => exact Work.raises_pure doc
  refine required.bind fun doc => ?_
  split
  · exact Work.raises_pure doc
  · exact Work.raises_fail (h.failed _)

end Connection

namespace Connection

variable {ε α σ : Type} {world : World σ} {policy : Policy σ} {stop : Stop ε → σ → Prop} {s : σ}

/-- What a caller makes of the reply to an operation. -/
def understood (c : Connection ε) {op : StoreOp} :
    StoreReply op.Answer → Except (Stop ε) op.Answer
  | .answered (.ok answer) => .ok answer
  | .answered (.error e) => .error (.failed (c.failed e))
  | .stalled => .error (.failed c.stalled)
  | .crashed crash => .error (.crashed crash)

theorem understood_eq_ok {c : Connection ε} {op : StoreOp} {reply : StoreReply op.Answer}
    {answer : op.Answer} : c.understood reply = .ok answer ↔ reply = .answered (.ok answer) := by
  rcases reply with (e | answer') | _ | crash <;> simp [understood]

theorem run_ask (c : Connection ε) (op : StoreOp) :
    (c.ask op).run = Program.ask (.store op) fun reply => .done (c.understood reply) := by
  unfold Connection.ask
  rw [Work.run_bind, Work.ofProgram, ExceptT.run_lift]
  change Program.ask _ _ = _
  congr 1
  funext reply
  rcases reply with (e | answer) | _ | crash <;> rfl

theorem run_asked {c : Connection ε} {op : StoreOp} {environment : Program.Environment σ}
    {reply : StoreReply op.Answer} {after : σ} (h : environment (.store op) s = (reply, after)) :
    (c.ask op).run.run environment s = (c.understood reply, after) := by
  rw [run_ask, Program.run, h]
  rfl

theorem run_answered {c : Connection ε} {op : StoreOp} {environment : Program.Environment σ}
    {answer : op.Answer} {after : σ}
    (h : environment (.store op) s = (.answered (.ok answer), after)) :
    (c.ask op).run.run environment s = (.ok answer, after) := run_asked h

/-- An operation, and what is done with the answer. -/
theorem meets_askThen {c : Connection ε} {op : StoreOp} {next : op.Answer → Work ε α}
    {value : α → σ → Prop} (permitted : policy.permitted (.store op) s)
    (blind : ∀ reply twin, policy.twins (.store op) s reply twin →
      Work.resume next (c.understood reply) = Work.resume next (c.understood twin))
    (h : ∀ reply after, world (.store op) s reply after →
      Work.Promise (fun a => Work.Meets world policy value stop (next a)) stop
        (c.understood reply) after) :
    Work.Meets world policy value stop (c.ask op >>= next) s := by
  unfold Work.Meets
  rw [Work.run_bind, run_ask]
  refine ⟨permitted, blind, fun reply after w => ?_⟩
  have post := h reply after w
  change (Work.resume next (c.understood reply)).Meets world policy _ after
  cases understood : c.understood reply <;> rw [understood] at post <;> exact post

theorem meets_ask {c : Connection ε} {op : StoreOp} {value : op.Answer → σ → Prop}
    (permitted : policy.permitted (.store op) s)
    (blind : ∀ reply twin, policy.twins (.store op) s reply twin →
      c.understood reply = c.understood twin)
    (h : ∀ reply after, world (.store op) s reply after →
      Work.Promise value stop (c.understood reply) after) :
    Work.Meets world policy value stop (c.ask op) s := by
  unfold Work.Meets
  rw [run_ask]
  exact ⟨permitted, fun reply twin same => congrArg Program.done (blind reply twin same), h⟩

end Connection
end Automation
