import Automation.Proofs.Program.Work

/-!
What programs ask at all, and what they give, whatever is replied. What every effect of a kind keeps,
a program that asks nothing else keeps.
-/
namespace Automation

/-- Nothing is known of the replies. -/
abbrev World.any : World Unit := fun _ _ _ _ => True

/-- Effects of a kind may be asked. -/
abbrev Policy.only (kind : Effect → Prop) : Policy Unit where
  permitted effect _ := kind effect

/-- Effects that leave all other tables of the store alone. -/
def Effect.On (tables : Table → Prop) : Effect → Prop
  | .store op => tables op.table
  | .exchange _ _ | .clock => True

theorem Effect.On.mono {tables others : Table → Prop} {effect : Effect} (h : Effect.On tables effect)
    (weaker : ∀ table, tables table → others table) : Effect.On others effect := by
  cases effect with
  | store op => exact weaker op.table h
  | exchange request deadline => trivial
  | clock => trivial

/-- Effects that may change a table. -/
def Effect.Writes (table : Table) : Effect → Prop
  | .store (.insert other _) | .store (.update other _ _) | .store (.delete other _) => other = table
  | .store (.get _ _) | .store (.query _ _) | .exchange _ _ | .clock => False

/-- Effects that change no table. -/
def Effect.Reads (effect : Effect) : Prop := ∀ table, ¬effect.Writes table

theorem Effect.On.not_writes {table : Table} {effect : Effect} (h : Effect.On (· ≠ table) effect) :
    ¬effect.Writes table := by
  cases effect with
  | exchange request deadline => exact nofun
  | clock => exact nofun
  | store op => cases op <;> first | exact h | exact nofun

/-- What concerns one table changes no other one. -/
theorem Effect.On.not_writes_other {table other : Table} {effect : Effect}
    (h : Effect.On (· = other) effect) (apart : other ≠ table) : ¬effect.Writes table :=
  Effect.On.not_writes (h.mono fun _ same => same ▸ apart)

theorem Effect.reads_get (table : Table) (id : String) : Effect.Reads (.store (.get table id)) :=
  fun _ => nofun

theorem Effect.reads_query (table : Table) (q : Query) : Effect.Reads (.store (.query table q)) :=
  fun _ => nofun

namespace Program

variable {α σ : Type} {kind more : Effect → Prop} {given other : α → Prop} {program : Program α}

/-- Whatever is replied, the program asks nothing but effects of the kind, and gives a value of the
kind if it ends. -/
def Asks (kind : Effect → Prop) (given : α → Prop) (program : Program α) : Prop :=
  program.Meets World.any (Policy.only kind) (fun a _ => given a) ()

theorem Asks.mono (h : program.Asks kind given) (weaker : ∀ effect, kind effect → more effect)
    (gives : ∀ a, given a → other a) : program.Asks more other := by
  unfold Asks at h ⊢
  induction program with
  | done value => exact gives value h
  | ask effect next ih =>
    exact ⟨weaker effect h.1, nofun, fun reply _ _ => ih reply (h.2.2 reply () trivial)⟩

/-- What effects of the kind keep, and are permitted to do while it is kept, the program keeps. -/
theorem Asks.meets {world : World σ} {policy : Policy σ} {kept : σ → Prop} {s : σ}
    (h : program.Asks kind given)
    (permitted : ∀ effect s, kind effect → kept s → policy.permitted effect s)
    (sighted : ∀ effect s reply twin, kind effect → ¬policy.twins effect s reply twin)
    (step : ∀ effect s reply after, kind effect → kept s → world effect s reply after → kept after)
    (start : kept s) : program.Meets world policy (fun a after => given a ∧ kept after) s := by
  unfold Asks at h
  induction program generalizing s with
  | done value => exact ⟨h, start⟩
  | ask effect next ih =>
    obtain ⟨asked, -, goes⟩ := h
    refine ⟨permitted effect s asked start, fun reply twin same => ?_, fun reply after w => ?_⟩
    · exact absurd same (sighted effect s reply twin asked)
    · exact ih reply (goes reply () trivial) (step effect s reply after asked start w)

theorem asks_now (h : kind .clock) : now.Asks kind fun _ => True :=
  ⟨h, nofun, fun _ _ _ => trivial⟩

end Program

namespace Work

variable {ε ε' α β σ : Type} {kind more : Effect → Prop} {given other : α → Prop} {work : Work ε α}

/-- Whatever is replied, the work asks nothing but effects of the kind, and gives a value of the kind
if it does not stop. -/
def Asks (kind : Effect → Prop) (given : α → Prop) (work : Work ε α) : Prop :=
  Meets World.any (Policy.only kind) (fun a _ => given a) (fun _ _ => True) work ()

theorem asks_iff : work.Asks kind given ↔
    work.run.Asks kind fun result => ∀ a, result = .ok a → given a := by
  refine ⟨fun h => Program.Meets.mono h ?_, fun h => Program.Meets.mono h ?_⟩
  · rintro (stop | a) _ post
    · exact nofun
    · rintro _ ⟨⟩
      exact post
  · rintro (stop | a) _ post
    · trivial
    · exact post a rfl

theorem Asks.mono (h : work.Asks kind given) (weaker : ∀ effect, kind effect → more effect)
    (gives : ∀ a, given a → other a) : work.Asks more other :=
  asks_iff.mpr ((asks_iff.mp h).mono weaker fun _ post a same => gives a (post a same))

theorem Asks.on {tables others : Table → Prop} (h : work.Asks (Effect.On tables) given)
    (weaker : ∀ table, tables table → others table) : work.Asks (Effect.On others) given :=
  h.mono (fun _ aside => aside.mono weaker) fun _ post => post

theorem Asks.meets {world : World σ} {policy : Policy σ} {kept : σ → Prop} {s : σ}
    (h : work.Asks kind given)
    (permitted : ∀ effect s, kind effect → kept s → policy.permitted effect s)
    (sighted : ∀ effect s reply twin, kind effect → ¬policy.twins effect s reply twin)
    (step : ∀ effect s reply after, kind effect → kept s → world effect s reply after → kept after)
    (start : kept s) :
    work.Meets world policy (fun a after => given a ∧ kept after) (fun _ after => kept after) s := by
  refine Program.Meets.mono ((asks_iff.mp h).meets permitted sighted step start) ?_
  rintro (stop | a) after ⟨post, kept⟩
  · exact kept
  · exact ⟨post a rfl, kept⟩

theorem asks_pure {a : α} (h : given a) : (pure a : Work ε α).Asks kind given := h

theorem asks_fail (e : ε) : (Work.fail e : Work ε α).Asks kind given := trivial

theorem asks_ofExcept {result : Except ε α} (h : ∀ a, result = .ok a → given a) :
    (Work.ofExcept result).Asks kind given := by
  cases result with
  | ok a => exact h a rfl
  | error e => trivial

theorem Asks.bind {next : α → Work ε β} {given' : β → Prop} (h : work.Asks kind given)
    (rest : ∀ a, given a → (next a).Asks kind given') : (work >>= next).Asks kind given' :=
  Meets.bind h fun a _ post => rest a post

theorem asks_ofProgram {program : Program α} (h : program.Asks kind given) :
    (Work.ofProgram program : Work ε α).Asks kind given := meets_ofProgram h

theorem Asks.mapError {f : ε' → ε} {work : Work ε' α} (h : work.Asks kind given) :
    (Work.mapError f work).Asks kind given :=
  Meets.mapError (Meets.mono h (fun _ _ post => post) fun stop _ _ => by cases stop <;> trivial)

theorem Asks.ignoring {work : Work ε' α} (h : work.Asks kind given) :
    (Work.ignoring work : Work ε Unit).Asks kind fun _ => True :=
  Meets.ignoring (Meets.mono h (fun _ _ _ => trivial) fun stop _ _ => by cases stop <;> trivial)

end Work

namespace Connection

variable {ε : Type} {c : Connection ε} {kind : Effect → Prop}

theorem asks_ask {op : StoreOp} (h : kind (.store op)) : (c.ask op).Asks kind fun _ => True :=
  meets_ask h (fun _ _ => nofun) fun reply _ _ => by cases c.understood reply <;> trivial

theorem asks_requireIn {workspaceId : String} {table : Table} {id : String}
    (h : kind (.store (.get table id))) :
    (c.requireIn workspaceId table id).Asks kind fun _ => True := by
  have required : (c.require table id).Asks kind fun _ => True := by
    refine (asks_ask h).bind fun found _ => ?_
    cases found with
    | none => exact Work.asks_fail _
    | some doc => exact Work.asks_pure trivial
  refine required.bind fun doc _ => ?_
  split
  · exact Work.asks_pure trivial
  · exact Work.asks_fail _

theorem asks_first {table : Table} {q : Query}
    (h : kind (.store (.query table { q with limit := some 1 }))) :
    (c.first table q).Asks kind fun _ => True :=
  (asks_ask h).bind fun _ _ => Work.asks_pure trivial

theorem asks_patch {table : Table} {id : String} {fields : Json.Members}
    (h : kind (.store (.update table id { set := fields }))) :
    (c.patch table id fields).Asks kind fun _ => True :=
  (asks_ask h).bind fun _ _ => Work.asks_pure trivial

end Connection
end Automation

/-!
What a program has asked in an environment, in the order in which it did. An environment that takes notes of
it makes no difference to the program.
-/
namespace Automation

namespace Program

variable {α β σ : Type} {environment : Environment σ} {program : Program α}

/-- Each thing that is asked, with the state in which it is. -/
def asked (environment : Environment σ) : Program α → σ → List (Effect × σ)
  | done _, _ => []
  | ask effect next, s =>
    (effect, s) :: asked environment (next (environment effect s).1) (environment effect s).2

theorem asked_bind {next : α → Program β} {s : σ} : (program >>= next).asked environment s =
    program.asked environment s ++
      (next (program.run environment s).1).asked environment (program.run environment s).2 := by
  change (program.bind next).asked environment s = _
  induction program generalizing s with
  | done value => rfl
  | ask effect rest ih => exact congrArg (List.cons _) (ih _)

/-- In any environment nothing is asked that is not of the kind. -/
theorem Asks.asked {kind : Effect → Prop} {given : α → Prop} (h : program.Asks kind given) (s : σ) :
    ∀ turn ∈ program.asked environment s, kind turn.1 := by
  unfold Asks at h
  induction program generalizing s with
  | done value => exact fun turn known => absurd known List.not_mem_nil
  | ask effect next ih => exact List.forall_mem_cons.mpr ⟨h.1, ih _ (h.2.2 _ () trivial) _⟩

/-- An environment that takes notes of all it is asked. -/
def Environment.noting (environment : Environment σ) : Environment (σ × List (Effect × σ)) :=
  fun effect noted =>
    let (reply, after) := environment effect noted.1
    (reply, after, noted.2 ++ [(effect, noted.1)])

theorem run_noting (program : Program α) (s : σ) (notes : List (Effect × σ)) :
    program.run environment.noting (s, notes) = ((program.run environment s).1,
      (program.run environment s).2, notes ++ program.asked environment s) := by
  induction program generalizing s notes with
  | done value => rw [asked, List.append_nil]; rfl
  | ask effect next ih =>
    rw [Program.run, Environment.noting]
    dsimp only
    rw [ih, List.append_assoc]
    rfl

theorem agrees_noting (program : Program α) :
    program.Agrees environment.noting environment fun noted s => noted.1 = s := by
  rintro ⟨s, notes⟩ _ rfl
  rw [run_noting]
  exact ⟨rfl, rfl⟩

end Program

namespace Work

variable {ε α β σ : Type} {environment : Program.Environment σ}

theorem asked_bind {work : Work ε α} {next : α → Work ε β} {s : σ} :
    (work >>= next).run.asked environment s = work.run.asked environment s ++
      (resume next (work.run.run environment s).1).asked environment (work.run.run environment s).2 := by
  rw [run_bind, Program.asked_bind]

theorem asked_ofProgram {program : Program α} {s : σ} :
    (Work.ofProgram program : Work ε α).run.asked environment s = program.asked environment s := by
  unfold Work.ofProgram
  rw [ExceptT.run_lift, map_eq_pure_bind, Program.asked_bind]
  exact List.append_nil _

end Work
end Automation
