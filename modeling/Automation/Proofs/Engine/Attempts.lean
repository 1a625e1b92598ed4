import Automation.Engine.Lifecycle
import Automation.Proofs.Engine.ContextFlow
import Automation.Proofs.Engine.Interpretation
import Automation.Proofs.Step.Preorder

/-!
The history of a run: all steps that are attempted in it, wherever they are nested, in the order in which
they begin. What is so of each part of a run is so of the whole history, and what contexts hand on holds
wherever something is attempted later on.
-/
namespace Automation

open Json (Value)

/-- A step that was attempted: the context it ran in, and the state in which it began. -/
structure Attempt (σ : Type) where
  step : Step
  ctx : Context
  state : σ

/-- What was attempted, and in which context. -/
def Attempt.place {σ : Type} (a : Attempt σ) : Step × Context := (a.step, a.ctx)

namespace Engine

variable {σ : Type}

/-- The attempts within the iterations of a loop, one iteration after another. -/
def attemptsEach (environment : Program.Environment σ) (body : Value → Nat → Program Trace)
    (within : Value → Nat → σ → List (Attempt σ)) (index : Nat) : List Value → σ → List (Attempt σ)
  | [], _ => []
  | item :: rest, s =>
    let ran := (body item index).run environment s
    within item index s ++ match iterationStop index ran.1 with
      | some _ => []
      | none => attemptsEach environment body within (index + 1) rest ran.2

mutual
/-- The step itself, and then the steps in its branch or in the iterations of its body. -/
def attempts (engine : Engine) (environment : Program.Environment σ) :
    Step → Context → σ → List (Attempt σ)
  | ⟨id, type, name, config, thenSteps, elseSteps, steps⟩, ctx, s =>
    let step : Step := ⟨id, type, name, config, thenSteps, elseSteps, steps⟩
    ⟨step, ctx, s⟩ :: match Command.parse type id (Template.resolve ctx config) with
      | .ok (.condition conditions subject) =>
        let looked := (engine.subjectValue ctx subject).run.run environment s
        match looked.1 with
        | .ok value =>
          if Condition.allHold conditions value then
            attemptsAll engine environment thenSteps ctx looked.2
          else attemptsAll engine environment elseSteps ctx looked.2
        | .error _ => []
      | .ok (.loop settings) =>
        match engine.loopBounds ctx id (Step.loopDepth step) settings.maxIterations with
        | .ok (max, depth) =>
          let looked := (engine.loopItems ctx settings max).run.run environment s
          match looked.1 with
          | .ok items =>
            attemptsEach environment
              (fun item index => engine.runSequence steps (ctx.atItem item index depth))
              (fun item index => attemptsAll engine environment steps (ctx.atItem item index depth)) 0
              (items.take max) looked.2
          | .error _ => []
        | .error _ => []
      | _ => []
termination_by structural step => step

/-- The attempts of steps one after another, until one does not complete. -/
def attemptsAll (engine : Engine) (environment : Program.Environment σ) :
    List Step → Context → σ → List (Attempt σ)
  | [], _, _ => []
  | step :: rest, ctx, s =>
    let started := (Program.now.run environment s).2
    let ran := (engine.runStep step ctx).run environment started
    attempts engine environment step ctx started ++ match ran.1 with
      | .completed output next =>
        attemptsAll engine environment rest (next.withOutput step.id output)
          (Program.now.run environment ran.2).2
      | _ => []
termination_by structural steps => steps
end

/-- All that is attempted in a run of an action. -/
def runAttempts (engine : Engine) (environment : Program.Environment σ) (action : Action)
    (occasion : Occasion) (s : σ) : List (Attempt σ) :=
  let started := (engine.start action occasion).run.run environment s
  match started.1 with
  | .ok executionId =>
    engine.attemptsAll environment action.steps (firstContext action occasion executionId) started.2
  | .error _ => []

/-- The context belongs to the run. -/
structure OfRun (run ctx : Context) : Prop where
  workspace : ctx.workspaceId = run.workspaceId
  actor : ctx.actorId = run.actorId
  execution : ctx.executionId = run.executionId

theorem OfRun.withOutput {run ctx : Context} {stepId : String} {output : Value} (h : OfRun run ctx) :
    OfRun run (ctx.withOutput stepId output) := ⟨h.workspace, h.actor, h.execution⟩

theorem OfRun.atItem {run ctx : Context} {item : Value} {index depth : Nat} (h : OfRun run ctx) :
    OfRun run (ctx.atItem item index depth) := ⟨h.workspace, h.actor, h.execution⟩

/-- What each part of a run does to the state, and adds to the history, for steps whose contexts are of a
kind. -/
structure Recounts (engine : Engine) (environment : Program.Environment σ) (scope : Context → Prop)
    (moves : σ → List (Attempt σ) → σ → Prop) : Prop where
  refl : ∀ s, moves s [] s
  append : ∀ a b c attempts more, moves a attempts b → moves b more c → moves a (attempts ++ more) c
  withOutput : ∀ ctx stepId output, scope ctx → scope (ctx.withOutput stepId output)
  atItem : ∀ ctx item index depth, scope ctx → scope (ctx.atItem item index depth)
  clock : ∀ s, moves s [] (Program.now.run environment s).2
  plain : ∀ step ctx s, scope ctx → step.type ≠ .condition → step.type ≠ .loop →
    moves s [⟨step, ctx, s⟩] ((engine.runStep step ctx).run environment s).2
  nesting : ∀ step ctx s, scope ctx → step.type = .condition ∨ step.type = .loop →
    moves s [⟨step, ctx, s⟩] s
  subject : ∀ ctx subject s, scope ctx →
    moves s [] ((engine.subjectValue ctx subject).run.run environment s).2
  items : ∀ ctx settings max s, scope ctx →
    moves s [] ((engine.loopItems ctx settings max).run.run environment s).2

variable {engine : Engine} {environment : Program.Environment σ} {scope : Context → Prop}
  {moves : σ → List (Attempt σ) → σ → Prop} {ctx : Context} {s : σ}

private theorem iterate_recounts (h : engine.Recounts environment scope moves)
    {body : Value → Nat → Program Trace} {within : Value → Nat → σ → List (Attempt σ)}
    (each : ∀ item index s, moves s (within item index s) ((body item index).run environment s).2)
    (items : List Value) (index : Nat) (s : σ) :
    moves s (attemptsEach environment body within index items s)
      ((iterate body index items).run environment s).2 := by
  induction items generalizing index s with
  | nil => exact h.refl s
  | cons item rest ih =>
    have ran := each item index s
    rw [attemptsEach, iterate, Program.run_bind]
    refine h.append _ _ _ _ _ ran ?_
    cases stops : iterationStop index ((body item index).run environment s).1 with
    | some stop => exact h.refl _
    | none =>
      dsimp only
      rw [Program.run_bind]
      exact ih (index + 1) _

/-- A context that a step leaves is of the kind. -/
def StepOutcome.Within (scope : Context → Prop) : StepOutcome → Prop
  | .completed _ ctx => scope ctx
  | .failed _ _ | .crashed _ => True

/-- A context that steps leave is of the kind. -/
def Ending.Within (scope : Context → Prop) : Ending → Prop
  | .finished ctx => scope ctx
  | .aborted _ | .crashed _ => True

private theorem within_ofStop (stop : Stop StepError) :
    StepOutcome.Within scope (StepOutcome.ofStop stop) := by
  cases stop <;> trivial

private theorem within_branch {holds : Bool} {trace : Trace} (h : Ending.Within scope trace.ending) :
    StepOutcome.Within scope (branchOutcome holds trace) := by
  obtain ⟨results, ending⟩ := trace
  unfold branchOutcome
  cases ending with
  | crashed crash => trivial
  | aborted e => trivial
  | finished next =>
    dsimp only
    split
    · trivial
    · exact h

private theorem within_loop (hc : scope ctx) {truncated : Bool} {iterations : Iterations} :
    StepOutcome.Within scope (loopOutcome ctx truncated iterations) := by
  obtain ⟨results, stop⟩ := iterations
  unfold loopOutcome
  cases stop with
  | none => exact hc
  | some stop => cases stop <;> trivial

private theorem runCondition_recounts (h : engine.Recounts environment scope moves) (hc : scope ctx)
    (conditions : List Condition) {subject : Subject} {thenBranch elseBranch : Context → Program Trace}
    {inThen inElse : σ → List (Attempt σ)}
    (ofThen : ∀ s, moves s (inThen s) ((thenBranch ctx).run environment s).2 ∧
      Ending.Within scope ((thenBranch ctx).run environment s).1.ending)
    (ofElse : ∀ s, moves s (inElse s) ((elseBranch ctx).run environment s).2 ∧
      Ending.Within scope ((elseBranch ctx).run environment s).1.ending) (s : σ) :
    let looked := (engine.subjectValue ctx subject).run.run environment s
    let ran := (engine.runCondition ctx conditions subject thenBranch elseBranch).run environment s
    moves s (match looked.1 with
      | .ok value => if Condition.allHold conditions value then inThen looked.2 else inElse looked.2
      | .error _ => []) ran.2 ∧ StepOutcome.Within scope ran.1 := by
  have looks := h.subject ctx subject s hc
  unfold runCondition
  rw [Program.run_bind]
  generalize (engine.subjectValue ctx subject).run.run environment s = looked at looks
  obtain ⟨result, after⟩ := looked
  cases result with
  | error stop => exact ⟨looks, within_ofStop stop⟩
  | ok value =>
    dsimp only at looks ⊢
    by_cases holds : Condition.allHold conditions value = true
    · obtain ⟨moved, left⟩ := ofThen after
      simp only [holds, if_true]
      rw [Program.run_bind]
      exact ⟨h.append _ _ _ [] _ looks moved, within_branch left⟩
    · obtain ⟨moved, left⟩ := ofElse after
      simp only [holds, Bool.false_eq_true, if_false]
      rw [Program.run_bind]
      exact ⟨h.append _ _ _ [] _ looks moved, within_branch left⟩

private theorem runLoop_recounts (h : engine.Recounts environment scope moves) (hc : scope ctx)
    {stepId : String} {loopDepth : Nat} {settings : LoopSettings} {body : Context → Program Trace}
    {within : Context → σ → List (Attempt σ)}
    (each : ∀ ctx s, scope ctx → moves s (within ctx s) ((body ctx).run environment s).2) (s : σ) :
    let ran := (engine.runLoop ctx stepId loopDepth settings body).run environment s
    moves s (match engine.loopBounds ctx stepId loopDepth settings.maxIterations with
      | .ok (max, depth) =>
        let looked := (engine.loopItems ctx settings max).run.run environment s
        match looked.1 with
        | .ok items =>
          attemptsEach environment (fun item index => body (ctx.atItem item index depth))
            (fun item index => within (ctx.atItem item index depth)) 0 (items.take max) looked.2
        | .error _ => []
      | .error _ => []) ran.2 ∧ StepOutcome.Within scope ran.1 := by
  unfold runLoop
  cases bounds : engine.loopBounds ctx stepId loopDepth settings.maxIterations with
  | error e =>
    exact ⟨h.refl s, trivial⟩
  | ok admitted =>
    obtain ⟨max, depth⟩ := admitted
    have looks := h.items ctx settings max s hc
    dsimp only
    rw [Program.run_bind]
    generalize (engine.loopItems ctx settings max).run.run environment s = looked at looks
    obtain ⟨result, after⟩ := looked
    cases result with
    | error stop => exact ⟨looks, within_ofStop stop⟩
    | ok items =>
      dsimp only at looks ⊢
      rw [Program.run_bind]
      refine ⟨h.append _ _ _ [] _ looks ?_, within_loop hc⟩
      refine iterate_recounts h ?_ (items.take max) 0 after
      intro item index s
      exact each _ s (h.atItem ctx item index depth hc)

mutual
theorem runStep_recounts (h : engine.Recounts environment scope moves) : ∀ (step : Step)
    (ctx : Context) (s : σ), scope ctx →
      moves s (engine.attempts environment step ctx s)
        ((engine.runStep step ctx).run environment s).2 ∧
      StepOutcome.Within scope ((engine.runStep step ctx).run environment s).1
  | ⟨id, type, name, config, thenSteps, elseSteps, steps⟩, ctx, s, hc => by
    let step : Step := ⟨id, type, name, config, thenSteps, elseSteps, steps⟩
    have plain := h.plain step ctx s hc
    have nesting := h.nesting step ctx s hc
    unfold attempts
    unfold runStep at plain ⊢
    cases parsed : Command.parse type id (Template.resolve ctx config) with
    | error e =>
      refine ⟨?_, trivial⟩
      by_cases nests : type = .condition ∨ type = .loop
      · exact nesting nests
      · obtain ⟨notCondition, notLoop⟩ := not_or.mp nests
        have moved := plain notCondition notLoop
        simp only [step, parsed] at moved
        exact moved
    | ok command =>
      cases command with
      | primitive p =>
        obtain ⟨notCondition, notLoop, -⟩ := Command.suits_of_parse parsed
        have moved := plain notCondition notLoop
        simp only [step, parsed] at moved
        refine ⟨moved, ?_⟩
        dsimp only
        rw [primitiveOutcome, Program.run_bind]
        cases (Program.run environment (engine.runPrimitive ctx id p).run s).1 with
        | ok output => exact hc
        | error stop => exact within_ofStop stop
      | condition conditions subject =>
        obtain ⟨moved, left⟩ := runCondition_recounts h hc conditions
          (fun s => runSequence_recounts h thenSteps ctx s hc)
          (fun s => runSequence_recounts h elseSteps ctx s hc) s
        exact ⟨h.append _ _ _ [_] _ (nesting (.inl (Command.suits_of_parse parsed))) moved, left⟩
      | loop settings =>
        obtain ⟨moved, left⟩ := runLoop_recounts h hc
          (fun inner s hc => (runSequence_recounts h steps inner s hc).1) s
        exact ⟨h.append _ _ _ [_] _ (nesting (.inr (Command.suits_of_parse parsed))) moved, left⟩
termination_by structural step => step

theorem runSequence_recounts (h : engine.Recounts environment scope moves) : ∀ (steps : List Step)
    (ctx : Context) (s : σ), scope ctx →
      moves s (engine.attemptsAll environment steps ctx s)
        ((engine.runSequence steps ctx).run environment s).2 ∧
      Ending.Within scope ((engine.runSequence steps ctx).run environment s).1.ending
  | [], ctx, s, hc => ⟨h.refl s, hc⟩
  | step :: rest, ctx, s, hc => by
    have starts := h.clock s
    unfold attemptsAll runSequence
    rw [Program.run_bind, Program.run_bind]
    generalize (Program.now.run environment s) = started at starts
    obtain ⟨startedAt, began⟩ := started
    obtain ⟨moved, left⟩ := runStep_recounts h step ctx began hc
    dsimp only
    generalize (engine.runStep step ctx).run environment began = ran at moved left
    obtain ⟨outcome, after⟩ := ran
    have here := h.append _ _ _ [] _ starts moved
    cases outcome with
    | crashed crash => exact ⟨h.append _ _ _ _ _ here (h.refl after), trivial⟩
    | failed e output =>
      refine ⟨h.append _ _ _ _ _ here (h.clock after), ?_⟩
      change Ending.Within scope (if e.isFatal then .aborted e else .finished ctx)
      split
      · trivial
      · exact hc
    | completed output next =>
      have ends := h.clock after
      rw [Program.run_bind]
      generalize Program.now.run environment after = ended at ends
      obtain ⟨completedAt, later⟩ := ended
      obtain ⟨more, left⟩ := runSequence_recounts h rest (next.withOutput step.id output) later
        (h.withOutput next step.id output left)
      dsimp only
      rw [Program.run_bind]
      exact ⟨h.append _ _ _ _ _ here (h.append _ _ _ [] _ ends more), left⟩
termination_by structural steps => steps
end

variable {σ' : Type} {other : Program.Environment σ'} {alike : σ → σ' → Prop}

/-- The parts of a run give the same in both environments, and leave them alike. -/
structure Agrees (engine : Engine) (environment : Program.Environment σ)
    (other : Program.Environment σ') (alike : σ → σ' → Prop) : Prop where
  clock : Program.now.Agrees environment other alike
  step : ∀ step ctx, (engine.runStep step ctx).Agrees environment other alike
  sequence : ∀ steps ctx, (engine.runSequence steps ctx).Agrees environment other alike
  subject : ∀ ctx subject, (engine.subjectValue ctx subject).run.Agrees environment other alike
  items : ∀ ctx settings max, (engine.loopItems ctx settings max).run.Agrees environment other alike

private theorem attemptsEach_agree {body : Value → Nat → Program Trace}
    {within : Value → Nat → σ → List (Attempt σ)} {within' : Value → Nat → σ' → List (Attempt σ')}
    (agrees : ∀ item index, (body item index).Agrees environment other alike)
    (each : ∀ item index s s', alike s s' →
      (within item index s).map Attempt.place = (within' item index s').map Attempt.place)
    (items : List Value) (index : Nat) {s : σ} {s' : σ'} (same : alike s s') :
    (attemptsEach environment body within index items s).map Attempt.place =
      (attemptsEach other body within' index items s').map Attempt.place := by
  induction items generalizing index s s' with
  | nil => rfl
  | cons item rest ih =>
    obtain ⟨result, later⟩ := agrees item index s s' same
    rw [attemptsEach, attemptsEach, List.map_append, List.map_append, each item index s s' same]
    rw [← result]
    cases iterationStop index ((body item index).run environment s).1 with
    | some stop => rfl
    | none =>
      dsimp only
      rw [ih (index + 1) later]

mutual
theorem attempts_agree (h : engine.Agrees environment other alike) : ∀ (step : Step) (ctx : Context)
    (s : σ) (s' : σ'), alike s s' → (engine.attempts environment step ctx s).map Attempt.place =
      (engine.attempts other step ctx s').map Attempt.place
  | ⟨id, type, name, config, thenSteps, elseSteps, steps⟩, ctx, s, s', same => by
    unfold attempts
    rw [List.map_cons, List.map_cons]
    refine congrArg (List.cons _) ?_
    cases Command.parse type id (Template.resolve ctx config) with
    | error e => rfl
    | ok command =>
      cases command with
      | primitive p => rfl
      | condition conditions subject =>
        obtain ⟨result, later⟩ := h.subject ctx subject s s' same
        dsimp only
        rw [← result]
        cases ((engine.subjectValue ctx subject).run.run environment s).1 with
        | error stop => rfl
        | ok value =>
          dsimp only
          split
          · exact attemptsAll_agree h thenSteps ctx _ _ later
          · exact attemptsAll_agree h elseSteps ctx _ _ later
      | loop settings =>
        dsimp only
        split
        · next max depth _ =>
          obtain ⟨result, later⟩ := h.items ctx settings max s s' same
          rw [← result]
          cases ((engine.loopItems ctx settings max).run.run environment s).1 with
          | error stop => rfl
          | ok items =>
            refine attemptsEach_agree (fun item index => h.sequence steps _) ?_ (items.take max) 0 later
            intro item index s s' same
            exact attemptsAll_agree h steps _ s s' same
        · rfl
termination_by structural step => step

theorem attemptsAll_agree (h : engine.Agrees environment other alike) : ∀ (steps : List Step)
    (ctx : Context) (s : σ) (s' : σ'), alike s s' →
      (engine.attemptsAll environment steps ctx s).map Attempt.place =
        (engine.attemptsAll other steps ctx s').map Attempt.place
  | [], _, _, _, _ => rfl
  | step :: rest, ctx, s, s', same => by
    obtain ⟨-, began⟩ := h.clock s s' same
    obtain ⟨result, after⟩ := h.step step ctx _ _ began
    unfold attemptsAll
    rw [List.map_append, List.map_append, attempts_agree h step ctx _ _ began, ← result]
    congr 1
    split
    · next output next _ =>
      obtain ⟨-, later⟩ := h.clock _ _ after
      exact attemptsAll_agree h rest _ _ _ later
    · rfl
termination_by structural steps => steps
end

end Engine

open Step (listing)

/-- What contexts hand on as long as all steps are of a kind. -/
structure Context.Inherited (kind : Step → Prop) (holds : Context → Prop) : Prop where
  behind : ∀ ctx step output, (∀ inner ∈ listing [step], kind inner) → holds ctx →
    holds (ctx.behind step output)
  atItem : ∀ ctx item index, holds ctx → holds (ctx.atItem item index (ctx.nestingDepth + 1))

namespace Engine

variable {σ : Type} {environment : Program.Environment σ} {engine : Engine} {kind : Step → Prop}
  {holds : Context → Prop} {a : Attempt σ}

/-- What is attempted within a loop is attempted within the iteration over one of its items. -/
theorem mem_attemptsEach {body : Value → Nat → Program Trace} {within : Value → Nat → σ → List (Attempt σ)}
    {items : List Value} {index : Nat} {s : σ}
    (h : a ∈ attemptsEach environment body within index items s) :
    ∃ i item before, items[i]? = some item ∧ a ∈ within item (index + i) before := by
  induction items generalizing index s with
  | nil => cases h
  | cons item rest ih =>
    rw [attemptsEach, List.mem_append] at h
    rcases h with here | later
    · exact ⟨0, item, s, rfl, here⟩
    · cases stops : iterationStop index ((body item index).run environment s).1 with
      | some stop =>
        rw [stops] at later
        cases later
      | none =>
        rw [stops] at later
        obtain ⟨i, item, before, there, inside⟩ := ih later
        exact ⟨i + 1, item, before, there, by rwa [Nat.add_right_comm] at inside⟩

/-- Besides a loop itself its body is attempted, with one of its items. -/
theorem mem_attempts_loop {step : Step} {ctx : Context} {s : σ} {settings : LoopSettings}
    (parsed : Command.parse step.type step.id (Template.resolve ctx step.config) = .ok (.loop settings))
    (h : a ∈ engine.attempts environment step ctx s) :
    a = ⟨step, ctx, s⟩ ∨ ∃ max items i item before,
      ((engine.loopItems ctx settings max).run.run environment s).1 = .ok items ∧
      (items.take max)[i]? = some item ∧
      a ∈ engine.attemptsAll environment step.steps (ctx.atItem item i (ctx.nestingDepth + 1)) before := by
  obtain ⟨id, type, name, config, thenSteps, elseSteps, steps⟩ := step
  unfold attempts at h
  rw [parsed, List.mem_cons] at h
  refine h.imp_right fun inside => ?_
  dsimp only at inside
  split at inside
  · next max depth bounds =>
    cases depth_of_loopBounds bounds
    split at inside
    · next items read =>
      obtain ⟨i, item, before, there, inside⟩ := mem_attemptsEach inside
      rw [Nat.zero_add] at inside
      exact ⟨max, items, i, item, before, read, there, inside⟩
    · cases inside
  · cases inside

mutual
/-- Whatever is attempted with a step inherits from the context of the step. -/
theorem attempts_inherit (h : Context.Inherited kind holds) : ∀ (step : Step) (ctx : Context) (s : σ),
    (∀ inner ∈ listing [step], kind inner) → holds ctx →
      ∀ a ∈ engine.attempts environment step ctx s, holds a.ctx
  | ⟨id, type, name, config, thenSteps, elseSteps, steps⟩, ctx, s, own, start, a, attempted => by
    let step : Step := ⟨id, type, name, config, thenSteps, elseSteps, steps⟩
    have inside (part : Step.Part) : ∀ inner ∈ listing (step.part part), kind inner :=
      fun inner among => own inner (Step.mem_listing_of_part among)
    cases parsed : Command.parse type id (Template.resolve ctx config) with
    | error e =>
      unfold attempts at attempted
      rw [parsed, List.mem_singleton] at attempted
      exact attempted ▸ start
    | ok command =>
      cases command with
      | primitive p =>
        unfold attempts at attempted
        rw [parsed, List.mem_singleton] at attempted
        exact attempted ▸ start
      | condition conditions subject =>
        unfold attempts at attempted
        rw [parsed, List.mem_cons] at attempted
        obtain rfl | attempted := attempted
        · exact start
        dsimp only at attempted
        split at attempted
        · split at attempted
          · exact attemptsAll_inherit h thenSteps ctx _ (inside .thenSteps) start a attempted
          · exact attemptsAll_inherit h elseSteps ctx _ (inside .elseSteps) start a attempted
        · cases attempted
      | loop settings =>
        obtain rfl | ⟨max, items, i, item, before, -, -, attempted⟩ := mem_attempts_loop parsed attempted
        · exact start
        · exact attemptsAll_inherit h steps _ before (inside .steps) (h.atItem ctx item i start) a attempted
termination_by structural step => step

theorem attemptsAll_inherit (h : Context.Inherited kind holds) : ∀ (steps : List Step) (ctx : Context)
    (s : σ), (∀ inner ∈ listing steps, kind inner) → holds ctx →
      ∀ a ∈ engine.attemptsAll environment steps ctx s, holds a.ctx
  | [], ctx, s, own, start, a, attempted => by cases attempted
  | step :: rest, ctx, s, own, start, a, attempted => by
    rw [Step.listing_first, List.forall_mem_append] at own
    obtain ⟨first, others⟩ := own
    unfold attemptsAll at attempted
    dsimp only at attempted
    rw [List.mem_append] at attempted
    rcases attempted with here | later
    · exact attempts_inherit h step ctx _ first start a here
    · split at later
      · next output next completed =>
        rw [withOutput_completed completed] at later
        exact attemptsAll_inherit h rest _ _ others (h.behind ctx step output first start) a later
      · cases later
termination_by structural steps => steps
end

end Engine
end Automation
