import Automation.Engine.Lifecycle
import Automation.Proofs.Engine.Raising
import Automation.Proofs.Engine.SharedRun
import Automation.Proofs.Execution
import Automation.Proofs.Validation

/-!
No step of an action without issues is refused when the action runs, however deep inside others it
stands and whatever the store, the peers and the tools reply.
-/
namespace Automation.Engine

open Json (Value)
open Validation (Faultless Sound childDepth)

variable {σ : Type}

/-- If the result tells of a refusal, somebody else than the engine gave that error to its step. -/
def Blameless (engine : Engine) (environment : Program.Environment σ) (result : Value) : Prop :=
  ∀ text, RefusalText text → result.member? "error" = some (.string text) →
    ∃ type e, result.member? "stepType" = some (.string type.name) ∧ e.message = text ∧
      engine.Foreign environment type e

/-- The engine refused no step whose result is told here, at whatever level. -/
def Unrefused (engine : Engine) (environment : Program.Environment σ) (results : List Value) : Prop :=
  ∀ result, Told result results → engine.Blameless environment result

variable {engine : Engine} {environment : Program.Environment σ} {ctx : Context} {step : Step}
  {depth : Nat}

/-- With the tools and the guard that every engine can have, no result tells of a refusal. -/
theorem Unrefused.builtIn {results : List Value} {rules : Url.Guard}
    (builtIn : engine.tools = Toolbox.recordTools) (guarded : engine.judge = rules.judge)
    (h : engine.Unrefused environment results) {result : Value} (told : Told result results)
    {text : String} (refusal : RefusalText text) : result.member? "error" ≠ some (.string text) := by
  intro error
  obtain ⟨type, e, -, rfl, foreign⟩ := h result told text refusal error
  exact foreign.plain builtIn guarded refusal

private theorem unrefused_nil : engine.Unrefused environment [] := by
  intro result told
  cases told with
  | here h => cases h
  | inside h => cases h

private theorem Unrefused.cons {result : Value} {rest : List Value}
    (own : engine.Blameless environment result)
    (inside : engine.Unrefused environment (insideResult result))
    (others : engine.Unrefused environment rest) : engine.Unrefused environment (result :: rest) := by
  intro r told
  cases told with
  | here h =>
    rcases List.mem_cons.mp h with rfl | h
    · exact own
    · exact others r (.here h)
  | inside h deeper =>
    rcases List.mem_cons.mp h with rfl | h
    · exact inside r deeper
    · exact others r (.inside h deeper)

private theorem unrefused_iterations {iterations : List (List StepResult)}
    (h : ∀ results ∈ iterations, engine.Unrefused environment (results.map (·.encode))) :
    engine.Unrefused environment (iterations.flatMap fun results => results.map (·.encode)) := by
  intro r told
  cases told with
  | here known =>
    obtain ⟨results, place, known⟩ := List.mem_flatMap.mp known
    exact h results place r (.here known)
  | inside known deeper =>
    obtain ⟨results, place, known⟩ := List.mem_flatMap.mp known
    exact h results place r (.inside known deeper)

private theorem blameless_completed {startedAt completedAt : Time.Instant} {output : Value} :
    engine.Blameless environment (StepResult.completed step startedAt completedAt output).encode := by
  intro text _ told
  let r := StepResult.completed step startedAt completedAt output
  have error : r.encode.member? "error" = none := r.member?_encode "error"
  cases error.symm.trans told

private theorem blameless_failed {startedAt completedAt : Time.Instant} {output : Option Value}
    {e : StepError} (excused : engine.Excused environment step.type e) :
    engine.Blameless environment
      (StepResult.failed step startedAt completedAt e.message output).encode := by
  intro text refusal told
  let r := StepResult.failed step startedAt completedAt e.message output
  have type : r.encode.member? "stepType" = some (.string step.type.name) :=
    r.member?_encode "stepType"
  have error : r.encode.member? "error" = some (.string e.message) := r.member?_encode "error"
  cases error.symm.trans told
  rcases excused with plain | foreign
  · exact absurd refusal plain
  · exact ⟨step.type, e, type, rfl, foreign⟩

/-- What a sequence of steps leaves inside so many loops when none of them is refused. -/
structure Clear (engine : Engine) (environment : Program.Environment σ) (depth : Nat)
    (trace : Trace) : Prop where
  results : engine.Unrefused environment (trace.results.map (·.encode))
  aborted : ∀ e, trace.ending = .aborted e → e.Plain
  finished : ∀ next, trace.ending = .finished next → next.nestingDepth = depth

/-- What comes of a step inside so many loops when neither it nor any inside it is refused. -/
def ClearStep (engine : Engine) (environment : Program.Environment σ) (depth : Nat) (step : Step) :
    StepOutcome → Prop
  | .completed output next =>
    engine.Unrefused environment (nestedResults step.type.name output) ∧ next.nestingDepth = depth
  | .failed e output => engine.Excused environment step.type e ∧
      ∀ v ∈ output, engine.Unrefused environment (nestedResults step.type.name v)
  | .crashed _ => True

private theorem clear_ofStop {stop : Stop StepError}
    (h : ∀ e, stop = .failed e → engine.Excused environment step.type e) :
    engine.ClearStep environment depth step (StepOutcome.ofStop stop) := by
  cases stop with
  | failed e => exact ⟨h e rfl, nofun⟩
  | crashed crash => trivial

private theorem clear_branch (condition : step.type = .condition) {holds : Bool} {trace : Trace}
    (h : engine.Clear environment depth trace) :
    engine.ClearStep environment depth step (branchOutcome holds trace) := by
  obtain ⟨unrefused, aborted, finished⟩ := h
  obtain ⟨results, ending⟩ := trace
  have inside : engine.Unrefused environment
      (nestedResults step.type.name (branchOutput holds results)) := by
    rw [condition, nestedResults_branchOutput]
    exact unrefused
  unfold branchOutcome
  cases ending with
  | crashed crash => trivial
  | aborted e =>
    refine ⟨.inl (aborted e rfl), ?_⟩
    rintro _ ⟨⟩
    exact inside
  | finished next =>
    dsimp only
    split
    · refine ⟨.inl (StepError.plain_branchFailed _ _), ?_⟩
      rintro _ ⟨⟩
      exact inside
    · exact ⟨inside, finished next rfl⟩

/-- A loop is ended early by errors that are not those of a refusal. -/
private theorem plain_iterationStop {index : Nat} {trace : Trace} {e : StepError}
    (h : engine.Clear environment depth trace) (stops : iterationStop index trace = some (.failed e)) :
    e.Plain := by
  obtain ⟨results, ending⟩ := trace
  unfold iterationStop at stops
  cases ending with
  | crashed crash => cases stops
  | aborted e =>
    cases stops
    exact h.aborted e rfl
  | finished next =>
    obtain ⟨r, _, same⟩ := Option.map_eq_some_iff.mp stops
    cases same
    exact StepError.plain_iterationFailed _ _ _

private theorem clear_iterations {index : Nat} {iterations : Iterations}
    (h : Iterated (fun _ => engine.Clear environment depth) index iterations) :
    (∀ results ∈ iterations.results, engine.Unrefused environment (results.map (·.encode))) ∧
      ∀ e, iterations.stop = some (.failed e) → e.Plain := by
  induction h with
  | exhausted => exact ⟨nofun, nofun⟩
  | stopped clear stops =>
    refine ⟨List.forall_mem_singleton.mpr clear.results, ?_⟩
    rintro e ⟨⟩
    exact plain_iterationStop clear stops
  | next clear _ _ ih => exact ⟨List.forall_mem_cons.mpr ⟨clear.results, ih.1⟩, ih.2⟩

private theorem clear_loop (loop : step.type = .loop) {truncated : Bool} {iterations : Iterations}
    (h : Iterated (fun _ => engine.Clear environment (ctx.nestingDepth + 1)) 0 iterations) :
    engine.ClearStep environment ctx.nestingDepth step (loopOutcome ctx truncated iterations) := by
  obtain ⟨unrefused, plain⟩ := clear_iterations h
  obtain ⟨results, stop⟩ := iterations
  have inside : engine.Unrefused environment
      (nestedResults step.type.name (loopOutput truncated results)) := by
    rw [loop, nestedResults_loopOutput]
    exact unrefused_iterations unrefused
  unfold loopOutcome
  cases stop with
  | none => exact ⟨inside, rfl⟩
  | some stop =>
    cases stop with
    | failed e =>
      refine ⟨.inl (plain e rfl), ?_⟩
      rintro _ ⟨⟩
      exact inside
    | crashed crash => trivial

-- The depth in the context is the one at which the step was checked: a body stands one level deeper on
-- both sides, and everything else on the same.
mutual
private theorem runStep_clear : ∀ (step : Step) (ctx : Context) (s : σ),
    Sound engine.config ctx.nestingDepth step →
      (engine.runStep step ctx).Meets environment.world .free
        (fun outcome _ => engine.ClearStep environment ctx.nestingDepth step outcome) s
  | ⟨id, type, name, config, thenSteps, elseSteps, steps⟩, ctx, s, sound => by
    unfold runStep
    split
    · next e failed => exact ⟨.inl (plain_parse sound.known failed), nofun⟩
    · next p parsed =>
      obtain ⟨hc, hl, -⟩ := Command.suits_of_parse parsed
      have nothing := nestedResults_plain sound.known hc hl
      refine Program.Meets.bind (raises_runPrimitive s) fun result after post => ?_
      cases result with
      | ok output =>
        refine ⟨?_, rfl⟩
        rw [nothing]
        exact unrefused_nil
      | error stop =>
        rw [Command.type_of_parse parsed] at post
        exact clear_ofStop post
    · next conditions subject parsed =>
      have hc : type = .condition := Command.suits_of_parse parsed
      have level : childDepth type ctx.nestingDepth = ctx.nestingDepth := if_neg (hc ▸ nofun)
      have soundThen : Faultless engine.config ctx.nestingDepth thenSteps := level ▸ sound.thenSteps
      have soundElse : Faultless engine.config ctx.nestingDepth elseSteps := level ▸ sound.elseSteps
      refine (meets_runCondition (l := fun _ => engine.Clear environment ctx.nestingDepth)
        (looks_plainly raises_subjectValue s) fun holds s _ => ?_).mono ?_
      · cases holds
        · exact (runSequence_clear elseSteps ctx s soundElse).mono fun _ _ clear => ⟨clear, trivial⟩
        · exact (runSequence_clear thenSteps ctx s soundThen).mono fun _ _ clear => ⟨clear, trivial⟩
      · rintro outcome _ ⟨⟨stop, plain, rfl⟩ | ⟨holds, trace, clear, rfl⟩, -⟩
        · exact clear_ofStop fun e failed => .inl (plain e failed)
        · exact clear_branch hc clear
    · next settings parsed =>
      have hl : type = .loop := Command.suits_of_parse parsed
      have level : childDepth type ctx.nestingDepth = ctx.nestingDepth + 1 := if_pos hl
      have soundBody : Faultless engine.config (ctx.nestingDepth + 1) steps := level ▸ sound.steps
      obtain ⟨bounds, admitted⟩ := sound.admitted hl parsed
      refine (meets_boundedLoop (l := fun _ => engine.Clear environment (ctx.nestingDepth + 1)) trivial
        (fun max s _ => looks_plainly raises_loopItems s)
        fun max depth bounds item index s _ => ?_).mono ?_
      · cases depth_of_loopBounds bounds
        let inner := ctx.atItem item index (ctx.nestingDepth + 1)
        exact (runSequence_clear steps inner s soundBody).mono fun _ _ clear => ⟨clear, trivial⟩
      · rintro outcome _ ⟨⟨e, refused, rfl⟩ | ⟨stop, plain, rfl⟩ | ⟨truncated, iterations, ran, rfl⟩, -⟩
        · cases admitted.symm.trans refused
        · exact clear_ofStop fun e failed => .inl (plain e failed)
        · exact clear_loop hl ran
termination_by structural step => step

private theorem runSequence_clear : ∀ (steps : List Step) (ctx : Context) (s : σ),
    Faultless engine.config ctx.nestingDepth steps →
      (engine.runSequence steps ctx).Meets environment.world .free
        (fun trace _ => engine.Clear environment ctx.nestingDepth trace) s
  | [], ctx, s, _ => ⟨unrefused_nil, nofun, fun next ended => by cases ended; rfl⟩
  | step :: rest, ctx, s, faultless => by
    obtain ⟨sound, others⟩ := faultless.cons
    refine Program.meets_ask.mpr fun startedAt s _ => ?_
    refine (runStep_clear step ctx s sound).bind fun outcome s clear => ?_
    cases outcome with
    | crashed crash => exact ⟨unrefused_nil, nofun, nofun⟩
    | failed e output =>
      obtain ⟨excused, inside⟩ := clear
      refine Program.meets_ask.mpr fun completedAt s _ => ⟨?_, fun e' ended => ?_, fun next ended => ?_⟩
      · refine Unrefused.cons (blameless_failed excused) ?_ unrefused_nil
        rw [insideResult_encode]
        cases output with
        | none => exact unrefused_nil
        | some v => exact inside v rfl
      · by_cases fatal : e.isFatal = true
        · simp only [fatal, if_true, Ending.aborted.injEq] at ended
          exact ended ▸ StepError.plain_fatal fatal
        · simp [fatal] at ended
      · by_cases fatal : e.isFatal = true
        · simp [fatal] at ended
        · simp only [fatal, Bool.false_eq_true, if_false, Ending.finished.injEq] at ended
          rw [← ended]
    | completed output next =>
      obtain ⟨inside, same⟩ := clear
      refine Program.meets_ask.mpr fun completedAt s _ => ?_
      rw [← same] at others
      refine (runSequence_clear rest (next.withOutput step.id output) s others).bind
        fun trace s ⟨unrefused, aborted, finished⟩ => ⟨?_, aborted, fun last ended => ?_⟩
      · refine Unrefused.cons blameless_completed ?_ unrefused
        rw [insideResult_encode]
        exact inside
      · exact (finished last ended).trans same
termination_by structural steps => steps
end

/-- When nothing is wrong with an action, its runs refuse no step of it at any level: whatever the first
step finds in its context, and in every report of a run. -/
theorem unrefused_of_noIssues (engine : Engine) (environment : Program.Environment σ) {action : Action}
    (valid : action.issues engine.config = []) :
    (∀ ctx : Context, ctx.nestingDepth = 0 → ∀ s, engine.Unrefused environment
      (((engine.runSequence action.steps ctx).run environment s).1.results.map (·.encode))) ∧
    ∀ occasion s report, ((engine.run action occasion).run.run environment s).1 = .ok report →
      engine.Unrefused environment (report.stepResults.map (·.encode)) := by
  have faultless : Faultless engine.config 0 action.steps := ⟨[], (List.append_eq_nil_iff.mp valid).2⟩
  have clear (ctx : Context) (top : ctx.nestingDepth = 0) (s : σ) :
      (engine.runSequence action.steps ctx).Meets environment.world .free
        (fun trace _ => engine.Clear environment ctx.nestingDepth trace) s :=
    runSequence_clear action.steps ctx s (top ▸ faultless)
  refine ⟨fun ctx top s => (Program.meets_world.mp (clear ctx top s)).results, ?_⟩
  intro occasion s report ran
  have reports : Work.Meets environment.world .free (fun report _ =>
      engine.Unrefused environment (report.stepResults.map (·.encode))) (fun _ _ => True)
      (engine.run action occasion) s := by
    refine (Work.meets_any _ s).bind fun id s _ => ?_
    refine (Work.meets_ofProgram (clear (firstContext action occasion id) rfl s)).bind
      fun trace s clear => ?_
    refine (Work.meets_any _ s).bind fun status s _ => ?_
    exact (Work.meets_any _ s).bind fun _ s _ => clear.results
  have post := Program.meets_world.mp reports
  rwa [ran] at post

/-- An engine with a tool that speaks as if it were a loop. -/
private def grumbling : Engine where
  config := {}
  judge _ := .refused none
  secrets _ := none
  tools := ⟨[⟨"grumble", fun _ _ _ => Work.fail (.raised (.loopNestingExceeded 9 3))⟩]⟩

/-- A loop whose body calls the tool in a branch. -/
private def loopAction : Action where
  id := "a"
  workspaceId := "w"
  name := "Loop"
  slug := "loop"
  description := none
  trigger := ⟨.manual, none, none, none, none⟩
  conditions := []
  steps :=
    let call : Step := ⟨"call", .callTool, none, .ofPairs [("tool", .string "grumble")], [], [], []⟩
    let absent : Value := .ofPairs [("field", .string "a"), ("operator", .string "isEmpty")]
    let check : Step := ⟨"check", .condition, none, .ofPairs [("subject", .string "loopItem"),
      ("conditions", .array [absent])], [call], [], []⟩
    [⟨"each", .loop, none, .ofPairs [("source", .string "array"), ("items", .array [.ofInt 1]),
      ("maxIterations", .ofInt 5)], [], [], [check]⟩]
  isActive := true
  isSystem := false
  createdBy := none

/-- Also where the words of a refusal are told, the engine did not say them. -/
theorem unrefused_of_noIssues_grumbling : loopAction.issues grumbling.config = [] ∧
    ∃ report, ((grumbling.run loopAction ⟨.manual, none, none⟩).run.run
        (MemoryStore.calm Surroundings.marks) {}).1 = .ok report ∧
      report.error = some ("Loop iteration 0 failed at step 'check': Branch step 'call' failed: " ++
        "Loop nesting exceeded: depth 9 is above the maximum of 3") ∧
      grumbling.Unrefused (MemoryStore.calm Surroundings.marks)
        (report.stepResults.map (·.encode)) := by
  have valid : loopAction.issues grumbling.config = [] := by decide +kernel
  have told : ((grumbling.run loopAction ⟨.manual, none, none⟩).run.run
      (MemoryStore.calm Surroundings.marks) {}).1.toOption.map (·.error) =
        some (some ("Loop iteration 0 failed at step 'check': Branch step 'call' failed: " ++
          "Loop nesting exceeded: depth 9 is above the maximum of 3")) := by
    decide +kernel
  cases ran : ((grumbling.run loopAction ⟨.manual, none, none⟩).run.run
      (MemoryStore.calm Surroundings.marks) {}).1 with
  | ok report =>
    rw [ran] at told
    injection told with error
    have sound := unrefused_of_noIssues grumbling (MemoryStore.calm Surroundings.marks) valid
    exact ⟨valid, report, rfl, error, sound.2 _ _ _ ran⟩
  | error stop =>
    rw [ran] at told
    cases told

end Automation.Engine
