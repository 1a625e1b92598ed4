import Automation.Proofs.Engine.Interpretation
import Automation.Proofs.Execution
import Mathlib.Tactic.Choose

/-!
What a sequence of steps leaves in the context behind it, read from the results it reports: the outputs
of its completed steps and of the branches that were taken, but nothing of a loop body or of a branch
that failed. Each iteration of a loop starts over from the context of the loop.
-/
namespace Automation

open Json (Value Members)

/-- The output of a step that completed. -/
def StepResult.completedOutput? (r : StepResult) : Option Value :=
  if r.isFailed then none else r.output

/-- The output of a step that completed, as its result is told. -/
def toldOutput? (result : Value) : Option Value :=
  if result.member? "status" = some (.string StepStatus.completed.name) then result.member? "output"
  else none

namespace Step

mutual
/-- What a step that completed leaves to those behind it, by the ids of the steps: of a condition, all
that its branch leaves and then its own output; of any other step, its output alone. -/
def leaves : Step → Value → List (String × Value)
  | ⟨id, type, _, _, thenSteps, elseSteps, _⟩, output =>
    (if type = .condition then
      if output.member? "branch" = some (.string "then") then leavesAll thenSteps (toldResults output)
      else leavesAll elseSteps (toldResults output)
    else []) ++ [(id, output)]
termination_by structural step => step

/-- What steps leave whose results are told. -/
def leavesAll : List Step → List Value → List (String × Value)
  | [], _ => []
  | step :: rest, results => match results with
    | [] => []
    | result :: results =>
      ((toldOutput? result).map (leaves step)).getD [] ++ leavesAll rest results
termination_by structural steps => steps
end

end Step

namespace Context

/-- The context behind a step that completed. -/
def behind (ctx : Context) (step : Step) (output : Value) : Context :=
  { ctx with previous := some output, stepOutputs := ctx.stepOutputs.merge (step.leaves output) }

/-- The context behind steps with these results. -/
def after (ctx : Context) (steps : List Step) (results : List StepResult) : Context :=
  { ctx with
    previous := (results.filterMap (·.completedOutput?)).getLast?.or ctx.previous
    stepOutputs := ctx.stepOutputs.merge (Step.leavesAll steps (results.map (·.encode))) }

end Context

theorem StepResult.told_encode (r : StepResult) : toldOutput? r.encode = r.completedOutput? := by
  have status : r.encode.member? "status" = some (.string r.status.name) := r.member?_encode "status"
  have output : r.encode.member? "output" = r.output := r.member?_encode "output"
  rw [toldOutput?, status, output, completedOutput?, isFailed]
  cases r.status <;> rfl

/-- What the steps of a branch leave is left by their condition too. -/
theorem Step.leaves_branch {step : Step} (condition : step.type = .condition) (holds : Bool)
    (results : List StepResult) : step.leaves (Engine.branchOutput holds results) =
      leavesAll (if holds then step.thenSteps else step.elseSteps) (results.map (·.encode)) ++
        [(step.id, Engine.branchOutput holds results)] := by
  obtain ⟨id, type, name, config, thenSteps, elseSteps, steps⟩ := step
  rw [leaves, if_pos condition, toldResults_branchOutput, member?_branchOutput]
  cases holds <;> rfl

namespace Context

variable {ctx : Context} {step : Step} {rest : List Step} {r : StepResult}

theorem after_nil (ctx : Context) (steps : List Step) : ctx.after steps [] = ctx := by
  have none' : Step.leavesAll steps [] = [] := by cases steps <;> rfl
  simp [after, none', Members.merge]

theorem after_failed (failed : r.isFailed = true) : ctx.after (step :: rest) [r] = ctx := by
  have none' : r.completedOutput? = none := if_pos failed
  have nothing : Step.leavesAll (step :: rest) [r.encode] = [] := by
    cases rest <;> simp [Step.leavesAll, r.told_encode, none']
  simp [after, none', nothing, Members.merge]

theorem after_completed {output : Value} (completed : r.completedOutput? = some output)
    (results : List StepResult) :
    ctx.after (step :: rest) (r :: results) = (ctx.behind step output).after rest results := by
  have outputs : ((r :: results).filterMap (·.completedOutput?)).getLast? =
      (results.filterMap (·.completedOutput?)).getLast?.or (some output) := by
    rw [List.filterMap_cons_some completed, List.getLast?_cons]
    cases (results.filterMap (·.completedOutput?)).getLast? <;> rfl
  have told : Step.leavesAll (step :: rest) ((r :: results).map (·.encode)) =
      step.leaves output ++ Step.leavesAll rest (results.map (·.encode)) := by
    simp [Step.leavesAll, r.told_encode, completed]
  rw [after, outputs, told, after, behind]
  simp [Members.merge]

/-- A step that is no condition leaves its output alone. -/
theorem withOutput_plain (other : step.type ≠ .condition) (output : Value) :
    ctx.withOutput step.id output = ctx.behind step output := by
  obtain ⟨id, type, name, config, thenSteps, elseSteps, steps⟩ := step
  simp [withOutput, behind, Step.leaves, Members.merge, show type ≠ .condition from other]

/-- Behind a condition that completed are the outputs of its branch and its own. -/
theorem withOutput_branch (condition : step.type = .condition) (holds : Bool)
    (results : List StepResult) :
    let branch := if holds then step.thenSteps else step.elseSteps
    let output := Engine.branchOutput holds results
    (ctx.after branch results).withOutput step.id output = ctx.behind step output := by
  intro branch output
  rw [withOutput, behind, step.leaves_branch condition]
  simp [after, Members.merge, branch, output]

end Context

namespace Engine

variable {σ : Type}

/-- The result of a step that came out so. -/
def StepOutcome.Gives (r : StepResult) : StepOutcome → Prop
  | .completed output _ => r.isFailed = false ∧ r.output = some output
  | .failed _ output => r.isFailed = true ∧ r.output = output
  | .crashed _ => False

/-- The step gave the result when it was run in the context. -/
def Attempted (engine : Engine) (environment : Program.Environment σ) (step : Step) (ctx : Context)
    (r : StepResult) : Prop :=
  ∃ s, StepOutcome.Gives r ((engine.runStep step ctx).run environment s).1

/-- The steps gave the results when they were run in the context. -/
def Ran (engine : Engine) (environment : Program.Environment σ) (steps : List Step) (ctx : Context)
    (results : List StepResult) : Prop :=
  ∃ s, ((engine.runSequence steps ctx).run environment s).1.results = results

mutual
/-- What is inside the output of a step ran in a context made from that of the step: a branch in the
same one, and each iteration of a loop in the same one with its own item, place and depth. -/
inductive StepScoped (engine : Engine) (environment : Program.Environment σ) :
    Step → Context → Option Value → Prop
  | plain {step : Step} {ctx : Context} {output : Option Value} (hc : step.type ≠ .condition)
      (hl : step.type ≠ .loop) : StepScoped engine environment step ctx output
  | bare {step : Step} {ctx : Context} : StepScoped engine environment step ctx none
  | branch {step : Step} {ctx : Context} {holds : Bool} {results : List StepResult}
      (hc : step.type = .condition)
      (ran : Ran engine environment (if holds then step.thenSteps else step.elseSteps) ctx results)
      (inside : SequenceScoped engine environment
        (if holds then step.thenSteps else step.elseSteps) ctx results) :
      StepScoped engine environment step ctx (some (branchOutput holds results))
  | loop {step : Step} {ctx : Context} {truncated : Bool} {iterations : List (List StepResult)}
      (hl : step.type = .loop) (items : Nat → Value)
      (ran : ∀ index results, iterations[index]? = some results → Ran engine environment step.steps
        (ctx.atItem (items index) index (ctx.nestingDepth + 1)) results)
      (inside : ∀ index results, iterations[index]? = some results →
        SequenceScoped engine environment step.steps
          (ctx.atItem (items index) index (ctx.nestingDepth + 1)) results) :
      StepScoped engine environment step ctx (some (loopOutput truncated iterations))

/-- Each step was attempted in the context that the steps before it leave. -/
inductive SequenceScoped (engine : Engine) (environment : Program.Environment σ) :
    List Step → Context → List StepResult → Prop
  | ended {steps : List Step} {ctx : Context} : SequenceScoped engine environment steps ctx []
  | halted {step : Step} {rest : List Step} {ctx : Context} {r : StepResult}
      (attempted : Attempted engine environment step ctx r) (failed : r.isFailed = true)
      (inside : StepScoped engine environment step ctx r.output) :
      SequenceScoped engine environment (step :: rest) ctx [r]
  | next {step : Step} {rest : List Step} {ctx : Context} {r : StepResult} {output : Value}
      {results : List StepResult} (attempted : Attempted engine environment step ctx r)
      (completed : r.completedOutput? = some output)
      (inside : StepScoped engine environment step ctx (some output))
      (others : SequenceScoped engine environment rest (ctx.behind step output) results) :
      SequenceScoped engine environment (step :: rest) ctx (r :: results)
end

/-- What a step leaves behind in the context, and where what is inside it ran. -/
def StepFlows (engine : Engine) (environment : Program.Environment σ) (step : Step) (ctx : Context) :
    StepOutcome → Prop
  | .completed output next => next.withOutput step.id output = ctx.behind step output ∧
      StepScoped engine environment step ctx (some output)
  | .failed _ output => StepScoped engine environment step ctx output
  | .crashed _ => True

/-- What steps leave behind in the context, and where what is inside them ran. -/
def Flows (engine : Engine) (environment : Program.Environment σ) (steps : List Step) (ctx : Context)
    (trace : Trace) : Prop :=
  (∀ next, trace.ending = .finished next → next = ctx.after steps trace.results) ∧
    SequenceScoped engine environment steps ctx trace.results

variable {engine : Engine} {environment : Program.Environment σ} {ctx : Context}

private theorem flows_ofStop {step : Step} (stop : Stop StepError) :
    StepFlows engine environment step ctx (StepOutcome.ofStop stop) := by
  cases stop with
  | failed e => exact .bare
  | crashed crash => trivial

/-- A condition leaves what its branch leaves, unless that failed. -/
private theorem flows_branch {step : Step} (condition : step.type = .condition) {holds : Bool}
    {trace : Trace}
    (ran : Ran engine environment (if holds then step.thenSteps else step.elseSteps) ctx trace.results)
    (flows : Flows engine environment (if holds then step.thenSteps else step.elseSteps) ctx trace) :
    StepFlows engine environment step ctx (branchOutcome holds trace) := by
  obtain ⟨results, ending⟩ := trace
  obtain ⟨left, within⟩ := flows
  have inside : StepScoped engine environment step ctx (some (branchOutput holds results)) :=
    .branch condition ran within
  unfold branchOutcome
  cases ending with
  | crashed crash => trivial
  | aborted e => exact inside
  | finished next =>
    dsimp only
    split
    · exact inside
    · refine ⟨?_, inside⟩
      rw [left next rfl]
      exact Context.withOutput_branch condition holds results

/-- A body ran from the context of its loop. -/
private def BodyRan (engine : Engine) (environment : Program.Environment σ) (step : Step)
    (ctx : Context) (index : Nat) (trace : Trace) : Prop :=
  ∃ item, Ran engine environment step.steps (ctx.atItem item index (ctx.nestingDepth + 1))
      trace.results ∧
    SequenceScoped engine environment step.steps
      (ctx.atItem item index (ctx.nestingDepth + 1)) trace.results

private theorem bodies_of_iterated {step : Step} {place : Nat} {iterations : Iterations}
    (h : Iterated (BodyRan engine environment step ctx) place iterations) (index : Nat) :
    ∃ item, ∀ results, iterations.results[index]? = some results →
      Ran engine environment step.steps
        (ctx.atItem item (place + index) (ctx.nestingDepth + 1)) results ∧
      SequenceScoped engine environment step.steps
        (ctx.atItem item (place + index) (ctx.nestingDepth + 1)) results := by
  induction h generalizing index with
  | exhausted => exact ⟨.null, nofun⟩
  | stopped ran stops =>
    obtain ⟨item, ran⟩ := ran
    refine ⟨item, fun results there => ?_⟩
    cases index with
    | zero =>
      cases there
      exact ran
    | succ index => cases there
  | next ran goes rest ih =>
    cases index with
    | zero =>
      obtain ⟨item, ran⟩ := ran
      refine ⟨item, fun results there => ?_⟩
      cases there
      exact ran
    | succ index =>
      obtain ⟨item, more⟩ := ih index
      refine ⟨item, fun results there => ?_⟩
      rw [Nat.add_right_comm] at more
      exact more results there

/-- A loop leaves its output alone, whatever its iterations left. -/
private theorem flows_loop {step : Step} (loop : step.type = .loop) {truncated : Bool}
    {iterations : Iterations} (h : Iterated (BodyRan engine environment step ctx) 0 iterations) :
    StepFlows engine environment step ctx (loopOutcome ctx truncated iterations) := by
  have bodies := bodies_of_iterated h
  simp only [Nat.zero_add] at bodies
  choose items bodies using bodies
  have inside : StepScoped engine environment step ctx
      (some (loopOutput truncated iterations.results)) :=
    .loop loop items (fun index results there => (bodies index results there).1)
      fun index results there => (bodies index results there).2
  have other : step.type ≠ .condition := by
    rw [loop]
    exact nofun
  obtain ⟨results, stop⟩ := iterations
  unfold loopOutcome
  cases stop with
  | none => exact ⟨Context.withOutput_plain other _, inside⟩
  | some stop =>
    cases stop with
    | failed e => exact inside
    | crashed crash => trivial

mutual
private theorem runStep_flows : ∀ (step : Step) (ctx : Context) (s : σ),
    (engine.runStep step ctx).Meets environment.world .free
      (fun outcome _ => StepFlows engine environment step ctx outcome) s
  | ⟨id, type, name, config, thenSteps, elseSteps, steps⟩, ctx, s => by
    unfold runStep
    split
    · exact .bare
    · next p parsed =>
      obtain ⟨hc, hl, -⟩ := Command.suits_of_parse parsed
      refine (Program.meets_true (engine.runPrimitive ctx id p).run s).bind fun result after _ => ?_
      cases result with
      | ok output => exact ⟨Context.withOutput_plain hc output, .plain hc hl⟩
      | error stop => exact flows_ofStop stop
    · next conditions subject parsed =>
      have hc : type = .condition := Command.suits_of_parse parsed
      refine (meets_runCondition (l := fun holds trace =>
        Ran engine environment (if holds then thenSteps else elseSteps) ctx trace.results ∧
          Flows engine environment (if holds then thenSteps else elseSteps) ctx trace)
        (meets_anything _ s) fun holds s _ => Program.meets_world.mpr ?_).mono ?_
      · cases holds
        · exact ⟨⟨⟨s, rfl⟩, Program.meets_world.mp (runSequence_flows elseSteps ctx s)⟩, trivial⟩
        · exact ⟨⟨⟨s, rfl⟩, Program.meets_world.mp (runSequence_flows thenSteps ctx s)⟩, trivial⟩
      · rintro outcome _ ⟨⟨stop, -, rfl⟩ | ⟨holds, trace, ⟨ran, flows⟩, rfl⟩, -⟩
        · exact flows_ofStop stop
        · exact flows_branch hc ran flows
    · next settings parsed =>
      have hl : type = .loop := Command.suits_of_parse parsed
      let step : Step := ⟨id, type, name, config, thenSteps, elseSteps, steps⟩
      refine (meets_boundedLoop (l := BodyRan engine environment step ctx) trivial
        (fun _ s _ => meets_anything _ s) fun max depth bounds item index s _ =>
          Program.meets_world.mpr ?_).mono ?_
      · cases depth_of_loopBounds bounds
        let inner := ctx.atItem item index (ctx.nestingDepth + 1)
        obtain ⟨-, inside⟩ := Program.meets_world.mp (runSequence_flows steps inner s)
        exact ⟨⟨item, ⟨s, rfl⟩, inside⟩, trivial⟩
      · rintro outcome _ ⟨⟨e, -, rfl⟩ | ⟨stop, -, rfl⟩ | ⟨truncated, iterations, ran, rfl⟩, -⟩
        · exact .bare
        · exact flows_ofStop stop
        · exact flows_loop hl ran
termination_by structural step => step

/-- Steps run in the contexts that those before them leave. -/
private theorem runSequence_flows : ∀ (steps : List Step) (ctx : Context) (s : σ),
    (engine.runSequence steps ctx).Meets environment.world .free
      (fun trace _ => Flows engine environment steps ctx trace) s
  | [], ctx, s => ⟨fun next ended => by cases ended; exact (ctx.after_nil []).symm, .ended⟩
  | step :: rest, ctx, s => by
    refine Program.meets_ask.mpr fun startedAt s _ => ?_
    have came : (engine.runStep step ctx).Meets environment.world .free (fun outcome _ =>
        (∃ s, ((engine.runStep step ctx).run environment s).1 = outcome) ∧
          StepFlows engine environment step ctx outcome) s :=
      Program.meets_world.mpr ⟨⟨s, rfl⟩, Program.meets_world.mp (runStep_flows step ctx s)⟩
    refine came.bind fun outcome s ⟨ran, flows⟩ => ?_
    cases outcome with
    | crashed crash => exact ⟨nofun, .ended⟩
    | failed e output =>
      refine Program.meets_ask.mpr fun completedAt s _ => ⟨fun next ended => ?_, ?_⟩
      · by_cases fatal : e.isFatal = true
        · simp [fatal] at ended
        · simp only [fatal, Bool.false_eq_true, if_false, Ending.finished.injEq] at ended
          rw [← ended]
          exact (Context.after_failed rfl).symm
      · obtain ⟨s, ran⟩ := ran
        refine .halted ⟨s, ?_⟩ rfl flows
        rw [ran]
        exact ⟨rfl, rfl⟩
    | completed output next =>
      refine Program.meets_ask.mpr fun completedAt s _ => ?_
      obtain ⟨behind, inside⟩ := flows
      rw [behind]
      refine (runSequence_flows rest _ s).bind fun trace s ⟨left, others⟩ => ?_
      refine ⟨fun last ended => ?_, .next ?_ rfl inside others⟩
      · rw [left last ended]
        exact (Context.after_completed rfl _).symm
      · obtain ⟨s, ran⟩ := ran
        refine ⟨s, ?_⟩
        rw [ran]
        exact ⟨rfl, rfl⟩
termination_by structural steps => steps
end

/-- A step that completes leaves its output in the context, and what the steps of its branch left. -/
theorem withOutput_completed {step : Step} {s : σ} {output : Value} {next : Context}
    (completed : ((engine.runStep step ctx).run environment s).1 = .completed output next) :
    next.withOutput step.id output = ctx.behind step output := by
  have flows : StepFlows engine environment step ctx ((engine.runStep step ctx).run environment s).1 :=
    Program.meets_world.mp (runStep_flows step ctx s)
  rw [completed] at flows
  exact flows.1

/-- Steps that come to an end leave in the context what their results tell, and all that ran inside
them did so in a context of its own. -/
theorem runSequence_context (engine : Engine) (environment : Program.Environment σ)
    (steps : List Step) (ctx : Context) (s : σ) :
    let trace := ((engine.runSequence steps ctx).run environment s).1
    (∀ next, trace.ending = .finished next → next = ctx.after steps trace.results) ∧
      SequenceScoped engine environment steps ctx trace.results :=
  Program.meets_world.mp (runSequence_flows steps ctx s)

end Engine
end Automation
