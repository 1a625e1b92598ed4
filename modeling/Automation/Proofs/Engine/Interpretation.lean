import Automation.Engine.Sequence
import Automation.Proofs.Program.Work
import Automation.Proofs.Step.Command

/-!
Rules for running steps. What holds of all that steps do by themselves holds of every run of steps,
whatever is nested in them.
-/
namespace Automation.Engine

variable {σ : Type} {world : World σ} {policy : Policy σ} {kept : σ → Prop}
  {engine : Engine} {ctx : Context} {s : σ}

/-- Nothing is asked of what work by itself does. -/
theorem meets_anything {ε α : Type} (work : Work ε α) (s : σ) :
    Work.Meets world .free (fun _ _ => True) (fun _ _ => True ∧ True) work s :=
  (Work.meets_any work s).mono (fun _ _ _ => trivial) fun _ _ _ => ⟨trivial, trivial⟩

/-- A step that does one thing. -/
theorem runStep_primitive {step : Step} {p : Primitive}
    (parsed : Command.parse step.type step.id (Template.resolve ctx step.config) = .ok (.primitive p)) :
    engine.runStep step ctx = engine.primitiveOutcome ctx step.id p := by
  obtain ⟨id, type, name, config, thenSteps, elseSteps, steps⟩ := step
  dsimp only at parsed
  unfold runStep
  rw [parsed]

/-- What comes of a step is made of what came of its work, and takes nothing else. -/
theorem run_primitiveOutcome (engine : Engine) (environment : Program.Environment σ) (ctx : Context)
    (stepId : String) (p : Primitive) (s : σ) :
    ((engine.primitiveOutcome ctx stepId p).run environment s).2 =
      ((engine.runPrimitive ctx stepId p).run.run environment s).2 := by
  rw [primitiveOutcome, Program.run_bind]
  rcases ((engine.runPrimitive ctx stepId p).run.run environment s).1 with stop | output <;> rfl

/-- Iterations from place `index` on, each of which left a trace of the kind. -/
inductive Iterated (left : Nat → Trace → Prop) : Nat → Iterations → Prop
  | exhausted {index : Nat} : Iterated left index ⟨[], none⟩
  | stopped {index : Nat} {trace : Trace} {stop : Stop StepError} (h : left index trace)
      (stops : iterationStop index trace = some stop) :
      Iterated left index ⟨[trace.results], some stop⟩
  | next {index : Nat} {trace : Trace} {others : Iterations} (h : left index trace)
      (goes : iterationStop index trace = none) (rest : Iterated left (index + 1) others) :
      Iterated left index ⟨trace.results :: others.results, others.stop⟩

theorem meets_iterate {body : Json.Value → Nat → Program Trace} {left : Nat → Trace → Prop}
    (h : ∀ item index s, kept s →
      (body item index).Meets world policy (fun t after => left index t ∧ kept after) s)
    (items : List Json.Value) (index : Nat) (start : kept s) :
    (iterate body index items).Meets world policy
      (fun iterations after => Iterated left index iterations ∧ kept after) s := by
  induction items generalizing index s with
  | nil => exact ⟨.exhausted, start⟩
  | cons item rest ih =>
    refine (h item index s start).bind fun trace after ⟨ran, valid⟩ => ?_
    cases stops : iterationStop index trace with
    | some stop => exact ⟨.stopped ran stops, valid⟩
    | none =>
      refine (ih (index + 1) valid).bind fun others last ⟨more, valid⟩ => ?_
      exact ⟨.next ran stops more, valid⟩

theorem meets_runCondition {conditions : List Condition} {subject : Subject}
    {thenBranch elseBranch : Context → Program Trace} {stops : Stop StepError → Prop}
    {l : Bool → Trace → Prop}
    (look : Work.Meets world policy (fun _ after => kept after)
      (fun stop after => stops stop ∧ kept after) (engine.subjectValue ctx subject) s)
    (branches : ∀ holds s, kept s →
      (if holds = true then thenBranch ctx else elseBranch ctx).Meets world policy
        (fun t after => l holds t ∧ kept after) s) :
    (engine.runCondition ctx conditions subject thenBranch elseBranch).Meets world policy
      (fun outcome after => ((∃ stop, stops stop ∧ outcome = StepOutcome.ofStop stop) ∨
        ∃ holds trace, l holds trace ∧ outcome = branchOutcome holds trace) ∧ kept after) s := by
  refine Program.Meets.bind look fun result after post => ?_
  cases result with
  | error stop => exact ⟨.inl ⟨stop, post.1, rfl⟩, post.2⟩
  | ok value =>
    have branch := branches (Condition.allHold conditions value) after post
    by_cases holds : Condition.allHold conditions value = true
    all_goals
      simp only [holds] at branch ⊢
      refine branch.bind fun trace last ran => ?_
      exact ⟨.inr ⟨_, trace, ran.1, rfl⟩, ran.2⟩

/-- The bounds of a loop, with the errors in the order in which they are looked for. -/
theorem loopBounds_eq (engine : Engine) (ctx : Context) (stepId : String) (loopDepth : Nat)
    (maxIterations : Option Nat) :
    engine.loopBounds ctx stepId loopDepth maxIterations = match maxIterations with
      | some (n + 1) =>
        if engine.config.maxLoopIterations < n + 1 then
          .error (.iterationLimitExceeded (n + 1) engine.config.maxLoopIterations)
        else if engine.config.maxLoopNesting < ctx.nestingDepth + 1 then
          .error (.loopNestingExceeded (ctx.nestingDepth + 1) engine.config.maxLoopNesting)
        else if engine.config.maxLoopNesting < ctx.nestingDepth + loopDepth then
          .error (.loopNestingExceeded (ctx.nestingDepth + loopDepth) engine.config.maxLoopNesting)
        else .ok (n + 1, ctx.nestingDepth + 1)
      | _ => .error (.validation ("Loop step '" ++ stepId ++
          "' requires maxIterations of at least 1")) := by
  rcases maxIterations with _ | _ | n
  · rfl
  · rfl
  · unfold loopBounds Context.bodyDepth
    by_cases many : engine.config.maxLoopIterations < n + 1
    · simp [many, bind, Except.bind]
    · by_cases deep : engine.config.maxLoopNesting < ctx.nestingDepth + 1
      · simp [many, deep, bind, Except.bind]
      · by_cases nested : engine.config.maxLoopNesting < ctx.nestingDepth + loopDepth
        · simp [many, deep, nested, bind, Except.bind]
        · simp [many, deep, nested, bind, Except.bind, pure, Except.pure]

/-- What is so when the engine admits a loop: its items are bounded, and it and the loops in it are not
nested too deep. -/
theorem admitted_of_loopBounds {stepId : String} {loopDepth max depth : Nat}
    {maxIterations : Option Nat}
    (ok : engine.loopBounds ctx stepId loopDepth maxIterations = .ok (max, depth)) :
    depth = ctx.nestingDepth + 1 ∧ max ≤ engine.config.maxLoopIterations ∧
      ctx.nestingDepth + 1 ≤ engine.config.maxLoopNesting ∧
      ctx.nestingDepth + loopDepth ≤ engine.config.maxLoopNesting := by
  rw [loopBounds_eq] at ok
  split at ok
  · split at ok
    · cases ok
    · next few =>
      split at ok
      · cases ok
      · next shallow =>
        split at ok
        · cases ok
        · next inside =>
          cases ok
          exact ⟨rfl, Nat.not_lt.mp few, Nat.not_lt.mp shallow, Nat.not_lt.mp inside⟩
  · cases ok

/-- The body of a loop stands one level deeper than the loop. -/
theorem depth_of_loopBounds {stepId : String} {loopDepth max depth : Nat} {maxIterations : Option Nat}
    (ok : engine.loopBounds ctx stepId loopDepth maxIterations = .ok (max, depth)) :
    depth = ctx.nestingDepth + 1 :=
  (admitted_of_loopBounds ok).1

/-- A loop runs its body within the bounds that the engine admits it with. -/
theorem meets_boundedLoop {stepId : String} {loopDepth : Nat} {settings : LoopSettings}
    {body : Context → Program Trace} {stops : Stop StepError → Prop} {l : Nat → Trace → Prop}
    (start : kept s)
    (read : ∀ max s, kept s → Work.Meets world policy (fun _ after => kept after)
      (fun stop after => stops stop ∧ kept after) (engine.loopItems ctx settings max) s)
    (bodies : ∀ max depth,
      engine.loopBounds ctx stepId loopDepth settings.maxIterations = .ok (max, depth) →
      ∀ item index s, kept s → (body (ctx.atItem item index depth)).Meets world policy
        (fun t after => l index t ∧ kept after) s) :
    (engine.runLoop ctx stepId loopDepth settings body).Meets world policy
      (fun outcome after =>
        ((∃ e, engine.loopBounds ctx stepId loopDepth settings.maxIterations = .error e ∧
          outcome = .failed e none) ∨
        (∃ stop, stops stop ∧ outcome = StepOutcome.ofStop stop) ∨
        ∃ truncated iterations, Iterated l 0 iterations ∧
          outcome = loopOutcome ctx truncated iterations) ∧ kept after) s := by
  unfold runLoop
  split
  · next e refused => exact ⟨.inl ⟨e, refused, rfl⟩, start⟩
  · next max depth bounds =>
    refine Program.Meets.bind (read max s start) fun result after post => ?_
    cases result with
    | error stop => exact ⟨.inr (.inl ⟨stop, post.1, rfl⟩), post.2⟩
    | ok items =>
      refine (meets_iterate (bodies max depth bounds) _ 0 post).bind fun iterations last ran => ?_
      exact ⟨.inr (.inr ⟨_, iterations, ran.1, rfl⟩), ran.2⟩

theorem meets_runLoop {stepId : String} {loopDepth : Nat} {settings : LoopSettings}
    {body : Context → Program Trace} {stops : Stop StepError → Prop} {l : Nat → Trace → Prop}
    (start : kept s)
    (read : ∀ max s, kept s → Work.Meets world policy (fun _ after => kept after)
      (fun stop after => stops stop ∧ kept after) (engine.loopItems ctx settings max) s)
    (bodies : ∀ item index depth s, kept s →
      (body (ctx.atItem item index depth)).Meets world policy
        (fun t after => l index t ∧ kept after) s) :
    (engine.runLoop ctx stepId loopDepth settings body).Meets world policy
      (fun outcome after => ((∃ e, outcome = .failed e none) ∨
        (∃ stop, stops stop ∧ outcome = StepOutcome.ofStop stop) ∨
        ∃ truncated iterations, Iterated l 0 iterations ∧
          outcome = loopOutcome ctx truncated iterations) ∧ kept after) s := by
  refine (meets_boundedLoop start read fun _ depth _ item index => bodies item index depth).mono ?_
  rintro outcome after ⟨⟨e, -, rfl⟩ | ran, valid⟩
  · exact ⟨.inl ⟨e, rfl⟩, valid⟩
  · exact ⟨.inr ran, valid⟩

/-- What steps keep and leave: the states and contexts they run in, the outputs and times of their
results, and the crashes they may end with. -/
structure Conduct (σ : Type) where
  kept : σ → Prop := fun _ => True
  context : Context → Prop := fun _ => True
  output : Json.Value → Prop := fun _ => True
  time : Time.Instant → Prop := fun _ => True
  crash : Crash → Prop := fun _ => True

namespace Conduct

def Result (c : Conduct σ) (r : StepResult) : Prop :=
  (∀ v ∈ r.output, c.output v) ∧ c.time r.startedAt ∧ c.time r.completedAt

def Leaves (c : Conduct σ) (trace : Trace) : Prop :=
  (∀ r ∈ trace.results, c.Result r) ∧ match trace.ending with
    | .finished ctx => c.context ctx
    | .aborted _ => True
    | .crashed crash => c.crash crash

def Outcome (c : Conduct σ) : StepOutcome → Prop
  | .completed output ctx => c.output output ∧ c.context ctx
  | .failed _ output => ∀ v ∈ output, c.output v
  | .crashed crash => c.crash crash

end Conduct

/-- All that steps do by themselves is in line with a conduct. -/
structure Follows (engine : Engine) (world : World σ) (policy : Policy σ)
    (c : Conduct σ) : Prop where
  clock : ∀ s, c.kept s → Program.Meets world policy (fun t after => c.time t ∧ c.kept after)
    Program.now s
  withOutput : ∀ ctx stepId output, c.context ctx → c.output output →
    c.context (ctx.withOutput stepId output)
  atItem : ∀ ctx item index depth, c.context ctx → c.context (ctx.atItem item index depth)
  primitive : ∀ ctx stepId p s, c.context ctx → p.Canonical → c.kept s →
    Work.Meets world policy (fun v after => c.output v ∧ c.kept after)
      (fun stop after => stop.Fits c.crash ∧ c.kept after) (engine.runPrimitive ctx stepId p) s
  subject : ∀ ctx subject s, c.context ctx → c.kept s →
    Work.Meets world policy (fun _ after => c.kept after)
      (fun stop after => stop.Fits c.crash ∧ c.kept after) (engine.subjectValue ctx subject) s
  items : ∀ ctx settings max s, c.context ctx → c.kept s →
    Work.Meets world policy (fun _ after => c.kept after)
      (fun stop after => stop.Fits c.crash ∧ c.kept after) (engine.loopItems ctx settings max) s
  branch : ∀ holds results, (∀ r ∈ results, c.Result r) → c.output (branchOutput holds results)
  loop : ∀ truncated iterations, (∀ results ∈ iterations, ∀ r ∈ results, c.Result r) →
    c.output (loopOutput truncated iterations)

namespace Conduct

variable {c : Conduct σ}

theorem Leaves.crash {trace : Trace} {crash : Crash} (h : c.Leaves trace)
    (ended : trace.ending = .crashed crash) : c.crash crash := by
  obtain ⟨-, left⟩ := h
  rw [ended] at left
  exact left

theorem outcome_ofStop {stop : Stop StepError} (h : stop.Fits c.crash) :
    c.Outcome (StepOutcome.ofStop stop) := by
  cases stop with
  | failed e => exact nofun
  | crashed crash => exact h

theorem outcome_branch (f : engine.Follows world policy c) {holds : Bool} {trace : Trace}
    (h : c.Leaves trace) : c.Outcome (branchOutcome holds trace) := by
  have out := f.branch holds trace.results h.1
  obtain ⟨results, ending⟩ := trace
  unfold branchOutcome
  cases ending with
  | crashed crash => exact h.2
  | aborted e => rintro v ⟨⟩; exact out
  | finished ctx =>
    dsimp only
    split
    · rintro v ⟨⟩; exact out
    · exact ⟨out, h.2⟩

private theorem iterated_results {index : Nat} {iterations : Iterations}
    (h : Iterated (fun _ => c.Leaves) index iterations) :
    (∀ results ∈ iterations.results, ∀ r ∈ results, c.Result r) ∧
      ∀ stop ∈ iterations.stop, stop.Fits c.crash := by
  induction h with
  | exhausted => simp
  | @stopped index trace stop ran stops =>
    refine ⟨by simpa using ran.1, ?_⟩
    rintro _ ⟨⟩
    obtain ⟨results, ending⟩ := trace
    cases ending with
    | crashed crash =>
      cases stops
      exact ran.2
    | aborted e =>
      cases stops
      trivial
    | finished ctx =>
      obtain ⟨r, _, rfl⟩ := Option.map_eq_some_iff.mp stops
      trivial
  | next ran _ _ ih => exact ⟨List.forall_mem_cons.mpr ⟨ran.1, ih.1⟩, ih.2⟩

theorem outcome_loop (f : engine.Follows world policy c) {truncated : Bool}
    {iterations : Iterations} (hc : c.context ctx)
    (h : Iterated (fun _ => c.Leaves) 0 iterations) :
    c.Outcome (loopOutcome ctx truncated iterations) := by
  obtain ⟨results, stops⟩ := iterated_results h
  have out := f.loop truncated iterations.results results
  obtain ⟨_, stop⟩ := iterations
  unfold loopOutcome
  cases stop with
  | none => exact ⟨out, hc⟩
  | some stop =>
    cases stop with
    | failed e => rintro v ⟨⟩; exact out
    | crashed crash => exact stops _ rfl

end Conduct

variable {c : Conduct σ}

theorem primitiveOutcome_follows (f : engine.Follows world policy c) {stepId : String}
    {p : Primitive} (hc : c.context ctx) (hp : p.Canonical) (start : c.kept s) :
    (engine.primitiveOutcome ctx stepId p).Meets world policy
      (fun outcome after => c.Outcome outcome ∧ c.kept after) s := by
  refine Program.Meets.bind (f.primitive ctx stepId p s hc hp start) fun result after post => ?_
  cases result with
  | ok output => exact ⟨⟨post.1, hc⟩, post.2⟩
  | error stop => exact ⟨c.outcome_ofStop post.1, post.2⟩

mutual
theorem runStep_follows (f : engine.Follows world policy c) : ∀ (step : Step) (ctx : Context)
    (s : σ), c.context ctx → c.kept s → (engine.runStep step ctx).Meets world policy
      (fun outcome after => c.Outcome outcome ∧ c.kept after) s
  | ⟨id, type, name, config, thenSteps, elseSteps, steps⟩, ctx, s, hc, start => by
    unfold runStep
    split
    · exact ⟨nofun, start⟩
    · next p parsed =>
      exact primitiveOutcome_follows f hc (Command.suits_of_parse parsed).2.2 start
    · next conditions subject _ =>
      refine (meets_runCondition (l := fun _ => c.Leaves) (f.subject ctx subject s hc start)
        fun holds s valid => ?_).mono ?_
      · cases holds
        · exact runSequence_follows f elseSteps ctx s hc valid
        · exact runSequence_follows f thenSteps ctx s hc valid
      · rintro outcome after ⟨⟨stop, ends, rfl⟩ | ⟨holds, trace, ran, rfl⟩, valid⟩
        · exact ⟨c.outcome_ofStop ends, valid⟩
        · exact ⟨c.outcome_branch f ran, valid⟩
    · next settings _ =>
      refine (meets_runLoop (l := fun _ => c.Leaves) start
        (fun max s => f.items ctx settings max s hc)
        fun item index depth s valid => runSequence_follows f steps _ s
          (f.atItem ctx item index depth hc) valid).mono ?_
      rintro outcome after ⟨⟨e, rfl⟩ | ⟨stop, ends, rfl⟩ | ⟨truncated, iterations, ran, rfl⟩, valid⟩
      · exact ⟨nofun, valid⟩
      · exact ⟨c.outcome_ofStop ends, valid⟩
      · exact ⟨c.outcome_loop f hc ran, valid⟩
termination_by structural step => step

/-- A run of steps is in line with what its steps do by themselves. -/
theorem runSequence_follows (f : engine.Follows world policy c) : ∀ (steps : List Step)
    (ctx : Context) (s : σ), c.context ctx → c.kept s →
      (engine.runSequence steps ctx).Meets world policy
        (fun trace after => c.Leaves trace ∧ c.kept after) s
  | [], ctx, s, hc, start => ⟨⟨nofun, hc⟩, start⟩
  | step :: rest, ctx, s, hc, start => by
    refine (f.clock s start).bind fun startedAt s ⟨began, start⟩ => ?_
    refine (runStep_follows f step ctx s hc start).bind fun outcome s ⟨came, start⟩ => ?_
    cases outcome with
    | crashed crash => exact ⟨⟨nofun, came⟩, start⟩
    | failed e output =>
      refine (f.clock s start).bind fun completedAt s ⟨ended, start⟩ => ⟨⟨?_, ?_⟩, start⟩
      · exact List.forall_mem_singleton.mpr ⟨came, began, ended⟩
      · by_cases fatal : e.isFatal = true
        · simp only [fatal, if_true]
        · simpa only [fatal, Bool.false_eq_true, if_false] using hc
    | completed output next =>
      refine (f.clock s start).bind fun completedAt s ⟨ended, start⟩ => ?_
      have hn := f.withOutput next step.id output came.2 came.1
      refine (runSequence_follows f rest _ s hn start).bind fun trace s ⟨ran, start⟩ => ?_
      refine ⟨⟨List.forall_mem_cons.mpr ⟨⟨?_, began, ended⟩, ran.1⟩, ran.2⟩, start⟩
      rintro v ⟨⟩
      exact came.1
termination_by structural steps => steps
end

end Automation.Engine
