import Automation.Proofs.Engine.ClosingOnce
import Automation.Proofs.Engine.Halting
import Automation.Proofs.Engine.Raising
import Automation.Proofs.Engine.Visits
import Automation.Proofs.Store.Served

/-!
Loops are refused for their nesting all at once or not at all. How deep loops are nested in a step is known
before it runs, and at no step in it does the depth of the context exceed that.
-/
namespace Automation

/-- A step failed because loops are nested too deep. -/
def StepOutcome.NestedTooDeep : StepOutcome → Prop
  | .failed (.loopNestingExceeded _ _) _ => True
  | _ => False

/-- How often a loop may run its body, as its settings tell when it is attempted. -/
def Attempt.loopBound? {σ : Type} (a : Attempt σ) : Option Nat :=
  match Command.parse a.step.type a.step.id (Template.resolve a.ctx a.step.config) with
  | .ok (.loop settings) => settings.maxIterations
  | _ => none

namespace Engine

variable {σ : Type} {world : World σ} {engine : Engine} {environment : Program.Environment σ}
  {ctx : Context} {step : Step} {s : σ}

/-- A context that a run makes use of: its first one, those in which steps are attempted, those that they
leave when they complete, and those of the iterations of loops. -/
inductive Occurs (engine : Engine) (environment : Program.Environment σ) (action : Action)
    (occasion : Occasion) (s : σ) : Context → Prop
  | first {executionId : String}
      (started : ((engine.start action occasion).run.run environment s).1 = .ok executionId) :
      Occurs engine environment action occasion s (firstContext action occasion executionId)
  | attempted {a : Attempt σ} (h : a ∈ engine.runAttempts environment action occasion s) :
      Occurs engine environment action occasion s a.ctx
  | left {a : Attempt σ} {output : Json.Value} {next : Context}
      (h : a ∈ engine.runAttempts environment action occasion s)
      (completed : ((engine.runStep a.step a.ctx).run environment a.state).1 = .completed output next) :
      Occurs engine environment action occasion s (next.withOutput a.step.id output)
  | iteration {a : Attempt σ} {settings : LoopSettings} {max depth : Nat} (item : Json.Value)
      (index : Nat) (h : a ∈ engine.runAttempts environment action occasion s)
      (bounds : engine.loopBounds a.ctx a.step.id a.step.loopDepth settings.maxIterations =
        .ok (max, depth)) :
      Occurs engine environment action occasion s (a.ctx.atItem item index depth)

/-- No step that ended early ends its loop with the error of a refusal. -/
private theorem plain_of_iterated {steps : List Step} {iterations : Iterations} {e : StepError}
    (h : Iterated (fun _ => Runs steps) 0 iterations) (stops : iterations.stop = some (.failed e)) :
    e.Plain := by
  have ends := iterationsEnd_of_iterated h
  unfold IterationsEnd at ends
  rw [stops] at ends
  obtain ⟨passed, before, r, text, -, -, -, -, -, -, fatal, other⟩ := ends
  by_cases known : StepError.FatalText text
  · obtain ⟨cause, ended, rfl⟩ := known
    intro refusal
    rw [fatal ⟨cause, ended, rfl⟩] at refusal
    exact StepError.plain_fatal ended refusal
  · rw [other known]
    exact StepError.plain_iterationFailed _ _ _

private theorem fails_loop {truncated : Bool} {iterations : Iterations} {steps : List Step}
    (h : Iterated (fun _ => Runs steps) 0 iterations) {e : StepError} {output : Option Json.Value}
    (failed : loopOutcome ctx truncated iterations = .failed e output) : e.Plain := by
  unfold loopOutcome at failed
  cases stops : iterations.stop with
  | none =>
    rw [stops] at failed
    cases failed
  | some stop =>
    rw [stops] at failed
    cases stop with
    | crashed crash => cases failed
    | failed cause =>
      cases failed
      exact plain_of_iterated h stops

/-- A loop that fails has not been admitted, or else with an error that is not that of a refusal. -/
private theorem runStep_loop (loop : step.type = .loop) (s : σ) :
    (engine.runStep step ctx).Meets world .free (fun outcome _ => ∀ e output,
      outcome = .failed e output → e.Plain ∨ ∃ maxIterations,
        engine.loopBounds ctx step.id step.loopDepth maxIterations = .error e) s := by
  obtain ⟨id, type, name, config, thenSteps, elseSteps, steps⟩ := step
  cases (show type = .loop from loop)
  unfold runStep
  split
  · next e parsed =>
    rintro _ _ ⟨⟩
    have known (name : String) : StepType.loop ≠ .unknown name := by
      intro same
      cases same
    exact .inl (plain_parse known parsed)
  · next p parsed => exact absurd rfl (Command.suits_of_parse parsed).2.1
  · next conditions subject parsed => cases Command.suits_of_parse parsed
  · next settings parsed =>
    refine (meets_boundedLoop (l := fun _ => Runs steps) trivial
      (fun max s _ => looks_plainly raises_loopItems s) fun max depth bounds item index s _ =>
        (runSequence_runs steps _ s).mono fun _ _ ran => ⟨ran, trivial⟩).mono ?_
    rintro _ _ ⟨⟨cause, refused, rfl⟩ | ⟨stop, plain, rfl⟩ | ⟨truncated, iterations, ran, rfl⟩, -⟩
    · rintro _ _ ⟨⟩
      exact .inr ⟨settings.maxIterations, refused⟩
    · intro e output failed
      cases stop with
      | crashed crash => cases failed
      | failed cause =>
        cases failed
        exact .inl (plain e rfl)
    · intro e output failed
      exact .inl (fails_loop ran failed)

/-- A loop is not refused for its nesting where the limit is not exceeded. -/
private theorem not_nestedTooDeep (loop : step.type = .loop)
    (shallow : ctx.nestingDepth + step.loopDepth ≤ engine.config.maxLoopNesting) :
    ¬((engine.runStep step ctx).run environment s).1.NestedTooDeep := by
  have fails : ∀ e output, ((engine.runStep step ctx).run environment s).1 = .failed e output →
      e.Plain ∨ ∃ maxIterations,
        engine.loopBounds ctx step.id step.loopDepth maxIterations = .error e :=
    Program.meets_world.mp (runStep_loop loop s)
  unfold StepOutcome.NestedTooDeep
  split
  · next depth most output refused =>
    intro _
    rcases fails _ _ refused with plain | ⟨maxIterations, refused⟩
    · exact plain ⟨_, .nestedTooDeep depth most, rfl⟩
    · have level : 0 < step.loopDepth := Step.loopDepth_pos loop
      rw [loopBounds_eq] at refused
      split at refused
      · rw [if_neg (by omega : ¬engine.config.maxLoopNesting < ctx.nestingDepth + 1),
          if_neg (Nat.not_lt.mpr shallow)] at refused
        split at refused <;> cases refused
      · cases refused
  · exact id

/-- A loop that is nested too deep, or in which another one would be, asks nothing and runs nothing. -/
private theorem refused_of_deep {a : Attempt σ} {n : Nat} (bound : a.loopBound? = some n)
    (positive : 1 ≤ n) (few : n ≤ engine.config.maxLoopIterations)
    (deep : engine.config.maxLoopNesting < a.ctx.nestingDepth + a.step.loopDepth) :
    ∃ depth, engine.config.maxLoopNesting < depth ∧ engine.runStep a.step a.ctx =
        pure (.failed (.loopNestingExceeded depth engine.config.maxLoopNesting) none) ∧
      engine.attempts environment a.step a.ctx a.state = [a] := by
  obtain ⟨⟨id, type, name, config, thenSteps, elseSteps, steps⟩, ctx, s⟩ := a
  obtain ⟨n, rfl⟩ := Nat.exists_eq_add_of_le' positive
  unfold Attempt.loopBound? at bound
  split at bound
  · next settings parsed =>
    dsimp only at parsed deep ⊢
    let step : Step := ⟨id, type, name, config, thenSteps, elseSteps, steps⟩
    have refused : ∃ depth, engine.config.maxLoopNesting < depth ∧
        engine.loopBounds ctx id step.loopDepth settings.maxIterations =
          .error (.loopNestingExceeded depth engine.config.maxLoopNesting) := by
      rw [bound, loopBounds_eq]
      dsimp only
      rw [if_neg (Nat.not_lt.mpr few)]
      by_cases full : engine.config.maxLoopNesting < ctx.nestingDepth + 1
      · exact ⟨_, full, if_pos full⟩
      · rw [if_neg full]
        exact ⟨_, deep, if_pos deep⟩
    obtain ⟨depth, above, refused⟩ := refused
    refine ⟨depth, above, ?_, ?_⟩
    · unfold runStep
      rw [parsed]
      dsimp only
      unfold runLoop
      rw [refused]
    · unfold attempts
      rw [parsed]
      dsimp only
      rw [refused]
  · cases bound

/-- A loop that is nested too deep, or in which another one would be, fails before it reads its items and
before a step of its body is attempted. In any other loop, wherever it stands and however often it runs,
no loop is refused for its nesting. And no context of a run is deeper than loops may nest. -/
theorem loops_refused_wholly (engine : Engine) (environment : Program.Environment σ) (action : Action)
    (occasion : Occasion) (s : σ) :
    let limit := engine.config.maxLoopNesting
    (∀ a ∈ engine.runAttempts environment action occasion s, ∀ n, a.loopBound? = some n →
      1 ≤ n → n ≤ engine.config.maxLoopIterations →
      (limit < a.ctx.nestingDepth + a.step.loopDepth → ∃ depth, limit < depth ∧
        engine.runStep a.step a.ctx = pure (.failed (.loopNestingExceeded depth limit) none) ∧
        engine.attempts environment a.step a.ctx a.state = [a]) ∧
      (a.ctx.nestingDepth + a.step.loopDepth ≤ limit →
        ∀ b ∈ engine.attempts environment a.step a.ctx a.state, b.step.type = .loop →
          ¬((engine.runStep b.step b.ctx).run environment b.state).1.NestedTooDeep)) ∧
    ∀ ctx, engine.Occurs environment action occasion s ctx → ctx.nestingDepth ≤ limit := by
  intro limit
  refine ⟨fun a _ n bound positive few => ⟨?_, ?_⟩, ?_⟩
  · intro deep
    exact refused_of_deep bound positive few deep
  · intro shallow b inside loop
    obtain ⟨way, found, depth, -⟩ := stands_of_attempts inside
    have within := Step.loopsOn_le found
    have shallower : b.ctx.nestingDepth + b.step.loopDepth ≤ limit := by omega
    exact not_nestedTooDeep loop shallower
  · have bounded {a : Attempt σ} (h : a ∈ engine.runAttempts environment action occasion s) :
        a.ctx.nestingDepth ≤ limit := by
      rw [← map_runVisits] at h
      obtain ⟨v, there, rfl⟩ := List.mem_map.mp h
      exact (stands_of_runVisits there).2.2
    intro ctx occurs
    cases occurs with
    | first started => exact Nat.zero_le limit
    | attempted h => exact bounded h
    | left h completed => exact (nestingDepth_completed completed).trans_le (bounded h)
    | iteration item index h bounds =>
      obtain ⟨rfl, -, admitted, -⟩ := admitted_of_loopBounds bounds
      exact admitted

section

private def twice (id : String) (steps : List Step) : Step :=
  ⟨id, .loop, none, .ofPairs [("source", .string "array"), ("items", .array [.ofInt 1, .ofInt 2]),
    ("maxIterations", .ofInt 5)], [], [], steps⟩

/-- Three loops in one another, the last of them in a branch, and then four. -/
private def nesting : Action where
  __ := noSteps
  steps := [
    twice "admitted" [twice "second" [⟨"check", .condition, none, .ofPairs [("conditions", .array [])],
      [twice "third" []], [], []⟩]],
    twice "refused" [twice "second" [twice "third" [twice "fourth" []]]]]

private def asked : Occasion := ⟨.manual, none, none⟩

/-- With the usual limit the first loop and all that are in it run, and of the other one nothing does. -/
theorem loops_refused_wholly_nesting :
    let attempts := bareEngine.runAttempts Surroundings.still.environment nesting asked ({}, ())
    attempts.map (·.step.id) = ["admitted", "second", "check", "third", "check", "third", "second",
      "check", "third", "check", "third", "refused"] ∧
    (∃ a ∈ attempts, a.step.id = "admitted" ∧
      ∀ b ∈ bareEngine.attempts Surroundings.still.environment a.step a.ctx a.state,
        b.step.type = .loop →
        ¬((bareEngine.runStep b.step b.ctx).run Surroundings.still.environment b.state).1.NestedTooDeep) ∧
    (∃ a ∈ attempts, a.step.id = "refused" ∧ ∃ depth, 3 < depth ∧
      bareEngine.runStep a.step a.ctx = pure (.failed (.loopNestingExceeded depth 3) none)) ∧
    ∀ a ∈ attempts, a.ctx.nestingDepth ≤ 3 := by
  intro attempts
  obtain ⟨nests, bounded⟩ :=
    loops_refused_wholly bareEngine Surroundings.still.environment nesting asked ({}, ())
  have first : ∃ a ∈ attempts, a.step.id = "admitted" ∧ a.loopBound? = some 5 ∧
      a.ctx.nestingDepth + a.step.loopDepth ≤ 3 := by decide +kernel
  have last : ∃ a ∈ attempts, a.step.id = "refused" ∧ a.loopBound? = some 5 ∧
      3 < a.ctx.nestingDepth + a.step.loopDepth := by decide +kernel
  obtain ⟨a, known, named, bound, shallow⟩ := first
  obtain ⟨b, among, called, limit, deep⟩ := last
  refine ⟨by decide +kernel, ⟨a, known, named, ?_⟩, ⟨b, among, called, ?_⟩, ?_⟩
  · exact (nests a known 5 bound (by decide) (by decide)).2 shallow
  · obtain ⟨depth, above, fails, -⟩ := (nests b among 5 limit (by decide) (by decide)).1 deep
    exact ⟨depth, above, fails⟩
  · intro a known
    exact bounded a.ctx (.attempted known)

end

end Engine
end Automation
