import Automation.Proofs.Engine.Primitives
import Automation.Proofs.Step.Error

/-!
A run of steps ends with the first step that fails, at every depth, and the failure of a nested step
shows in the error of the step around it.
-/
namespace Automation

/-- Which step a result is of. -/
def StepResult.origin (r : StepResult) : String × String := (r.stepId, r.stepType)

def Step.origin (step : Step) : String × String := (step.id, step.type.name)

/-- Results of steps that ran in order until one failed, if one did. -/
structure Halting (steps : List Step) (results : List StepResult) : Prop where
  attempted : results.map (·.origin) <+: steps.map (·.origin)
  completed : ∀ r ∈ results.dropLast, r.isFailed = false
  halted : results.length < steps.length → ∃ r ∈ results.getLast?, r.isFailed = true

/-- How the result of a step tells of the steps nested in it: it is failed when the last one that
ran is, which is the only one, and a fatal error keeps its text on the way out. -/
structure Escalates (wrap : StepResult → String → StepError) (r : StepResult)
    (nested : List (List StepResult)) : Prop where
  completed : r.isFailed = false → ∀ results ∈ nested, ∀ inner ∈ results, inner.isFailed = false
  failed : r.isFailed = true → ∃ inner text, nested.getLast?.bind (·.getLast?) = some inner ∧
    nested.flatten.filter (·.isFailed) = [inner] ∧ inner.error = some text ∧
    (StepError.FatalText text → r.error = some text) ∧
    (¬ StepError.FatalText text → r.error = some (wrap inner text).message)

mutual
/-- The results of the steps, and those in the output of each. -/
inductive HaltsWithin : List Step → List StepResult → Prop
  | intro {steps : List Step} {results : List StepResult} (halting : Halting steps results)
      (within : ∀ p ∈ steps.zip results, StepHalts p.1 p.2) : HaltsWithin steps results

/-- The result of one step, and those in its output. Only a step that failed before any step nested
in it began has no output. -/
inductive StepHalts : Step → StepResult → Prop
  | plain {step : Step} {r : StepResult} (hc : step.type ≠ .condition) (hl : step.type ≠ .loop) :
      StepHalts step r
  | bare {step : Step} {r : StepResult} (failed : r.isFailed = true) (output : r.output = none) :
      StepHalts step r
  | branch {step : Step} {r : StepResult} (holds : Bool) (nested : List StepResult)
      (type : step.type = .condition) (output : r.output = some (Engine.branchOutput holds nested))
      (within : HaltsWithin (if holds then step.thenSteps else step.elseSteps) nested)
      (escalates : Escalates (fun inner text => .branchFailed inner.stepId text) r [nested]) :
      StepHalts step r
  | loop {step : Step} {r : StepResult} (truncated : Bool) (iterations : List (List StepResult))
      (type : step.type = .loop) (output : r.output = some (Engine.loopOutput truncated iterations))
      (within : ∀ nested ∈ iterations, HaltsWithin step.steps nested)
      (passed : ∀ nested ∈ iterations.dropLast, ∀ inner ∈ nested, inner.isFailed = false)
      (escalates : Escalates
        (fun inner text => .iterationFailed (iterations.length - 1) inner.stepId text) r iterations) :
      StepHalts step r
end

/-- The ways in which a run of steps ends. -/
inductive Trace.Ends (steps : List Step) : Trace → Prop
  | finished {results : List StepResult} {ctx : Context}
      (all : results.map (·.origin) = steps.map (·.origin))
      (completed : ∀ r ∈ results, r.isFailed = false) : Ends steps ⟨results, .finished ctx⟩
  | halted {b : List StepResult} {r : StepResult} {ctx : Context} {e : StepError}
      (attempted : (b ++ [r]).map (·.origin) <+: steps.map (·.origin))
      (completed : ∀ r ∈ b, r.isFailed = false) (failed : r.isFailed = true)
      (error : r.error = some e.message) (fatal : e.isFatal = false) :
      Ends steps ⟨b ++ [r], .finished ctx⟩
  | aborted {b : List StepResult} {r : StepResult} {e : StepError}
      (attempted : (b ++ [r]).map (·.origin) <+: steps.map (·.origin))
      (completed : ∀ r ∈ b, r.isFailed = false) (failed : r.isFailed = true)
      (error : r.error = some e.message) (fatal : e.isFatal = true) :
      Ends steps ⟨b ++ [r], .aborted e⟩
  | crashed {results : List StepResult} {crash : Crash}
      (attempted : results.map (·.origin) <+: steps.map (·.origin))
      (fewer : results.length < steps.length)
      (completed : ∀ r ∈ results, r.isFailed = false) : Ends steps ⟨results, .crashed crash⟩

namespace Engine

variable {σ : Type} {world : World σ} {engine : Engine} {steps : List Step} {step : Step}

theorem halted?_eq_none {results : List StepResult} :
    halted? results = none ↔ ∀ r ∈ results, r.isFailed = false := by
  simp [halted?]

theorem halted?_append {before : List StepResult} {r : StepResult}
    (completed : ∀ r ∈ before, r.isFailed = false) (failed : r.isFailed = true) :
    halted? (before ++ [r]) = some r := by
  rw [halted?, List.find?_append, Option.or_eq_some_iff]
  exact .inr ⟨halted?_eq_none.mpr completed, by simp [failed]⟩

private theorem filter_append {before : List StepResult} {r : StepResult}
    (completed : ∀ r ∈ before, r.isFailed = false) (failed : r.isFailed = true) :
    (before ++ [r]).filter (·.isFailed) = [r] := by
  rw [List.filter_append, List.filter_eq_nil_iff.mpr fun d hd => by simp [completed d hd]]
  simp [failed]

private theorem halting_append {before : List StepResult} {r : StepResult}
    (attempted : (before ++ [r]).map (·.origin) <+: steps.map (·.origin))
    (completed : ∀ r ∈ before, r.isFailed = false) (failed : r.isFailed = true) :
    Halting steps (before ++ [r]) where
  attempted := attempted
  completed := by simpa using completed
  halted _ := by simpa using failed

private theorem halting_of_completed {results : List StepResult}
    (all : results.map (·.origin) = steps.map (·.origin))
    (completed : ∀ r ∈ results, r.isFailed = false) : Halting steps results where
  attempted := all ▸ List.prefix_rfl
  completed r hr := completed r (List.dropLast_subset _ hr)
  halted short := by
    have := congrArg List.length all
    simp only [List.length_map] at this
    omega

/-- What a step comes to is as its result has to be. -/
def Halts (step : Step) : StepOutcome → Prop
  | .completed output _ => ∀ startedAt completedAt,
      StepHalts step (.completed step startedAt completedAt output)
  | .failed e output => ∀ startedAt completedAt,
      StepHalts step (.failed step startedAt completedAt e.message output)
  | .crashed _ => True

/-- A trace of the steps whose results are as they have to be. -/
def Runs (steps : List Step) (trace : Trace) : Prop :=
  trace.Ends steps ∧ ∀ p ∈ steps.zip trace.results, StepHalts p.1 p.2

theorem halts_ofStop (stop : Stop StepError) : Halts step (StepOutcome.ofStop stop) := by
  cases stop with
  | failed e => exact fun _ _ => .bare rfl rfl
  | crashed crash => trivial

theorem halts_branch {holds : Bool} {trace : Trace} (type : step.type = .condition)
    (h : Runs (if holds then step.thenSteps else step.elseSteps) trace) :
    Halts step (branchOutcome holds trace) := by
  obtain ⟨ends, within⟩ := h
  unfold branchOutcome
  cases ends with
  | @finished results ctx all completed =>
    rw [halted?_eq_none.mpr completed]
    refine fun _ _ => .branch holds results type rfl ⟨halting_of_completed all completed, within⟩ ?_
    exact ⟨fun _ => by simpa using completed, nofun⟩
  | @halted before r ctx e attempted completed failed error fatal =>
    rw [halted?_append completed failed]
    refine fun _ _ => .branch holds _ type rfl ⟨halting_append attempted completed failed, within⟩
      ⟨nofun, fun _ => ⟨r, e.message, by simp, ?_, error, ?_, ?_⟩⟩
    · simpa using filter_append completed failed
    · rw [StepError.fatalText_message, fatal]
      exact nofun
    · intro _
      rw [error]
      rfl
  | @aborted before r e attempted completed failed error fatal =>
    refine fun _ _ => .branch holds _ type rfl ⟨halting_append attempted completed failed, within⟩
      ⟨nofun, fun _ => ⟨r, e.message, by simp, ?_, error, fun _ => rfl, ?_⟩⟩
    · simpa using filter_append completed failed
    · exact fun other => absurd (StepError.fatalText_message.mpr fatal) other
  | crashed => trivial

/-- The iterations of a loop from place `index` on, and what ended them. -/
def IterationsEnd (steps : List Step) (index : Nat) (iterations : Iterations) : Prop :=
  match iterations.stop with
  | none => ∀ nested ∈ iterations.results,
      HaltsWithin steps nested ∧ ∀ r ∈ nested, r.isFailed = false
  | some (.failed e) => ∃ passed before r text, iterations.results = passed ++ [before ++ [r]] ∧
      (∀ nested ∈ passed, HaltsWithin steps nested ∧ ∀ r ∈ nested, r.isFailed = false) ∧
      HaltsWithin steps (before ++ [r]) ∧ (∀ r ∈ before, r.isFailed = false) ∧
      r.isFailed = true ∧ r.error = some text ∧ (StepError.FatalText text → e.message = text) ∧
      (¬ StepError.FatalText text → e = .iterationFailed (index + passed.length) r.stepId text)
  | some (.crashed _) => True

theorem iterationsEnd_of_iterated {index : Nat} {iterations : Iterations}
    (h : Iterated (fun _ => Runs steps) index iterations) :
    IterationsEnd steps index iterations := by
  induction h with
  | exhausted => exact nofun
  | @stopped index trace stop ran stops =>
    obtain ⟨ends, within⟩ := ran
    cases ends with
    | finished all completed =>
      rw [iterationStop, halted?_eq_none.mpr completed] at stops
      cases stops
    | @halted before r ctx e attempted completed failed error fatal =>
      rw [iterationStop, halted?_append completed failed] at stops
      dsimp only [Option.map] at stops
      rw [error] at stops
      cases stops
      refine ⟨[], before, r, e.message, rfl, nofun,
        ⟨halting_append attempted completed failed, within⟩, completed, failed, error, ?_, ?_⟩
      · rw [StepError.fatalText_message, fatal]
        exact nofun
      · exact fun _ => rfl
    | @aborted before r e attempted completed failed error fatal =>
      cases stops
      refine ⟨[], before, r, e.message, rfl, nofun,
        ⟨halting_append attempted completed failed, within⟩, completed, failed, error,
        fun _ => rfl, ?_⟩
      exact fun other => absurd (StepError.fatalText_message.mpr fatal) other
    | crashed =>
      cases stops
      trivial
  | @next index trace others ran goes _ ih =>
    obtain ⟨ends, within⟩ := ran
    have first : HaltsWithin steps trace.results ∧ ∀ r ∈ trace.results, r.isFailed = false := by
      cases ends with
      | finished all completed => exact ⟨⟨halting_of_completed all completed, within⟩, completed⟩
      | halted attempted completed failed =>
        rw [iterationStop, halted?_append completed failed] at goes
        cases goes
      | aborted => cases goes
      | crashed => cases goes
    unfold IterationsEnd at ih ⊢
    dsimp only
    split at ih
    · exact List.forall_mem_cons.mpr ⟨first, ih⟩
    · next e _ =>
      obtain ⟨passed, before, r, text, results, all, last, completed, failed, error, same, other⟩ := ih
      refine ⟨trace.results :: passed, before, r, text, by rw [results]; rfl,
        List.forall_mem_cons.mpr ⟨first, all⟩, last, completed, failed, error, same, fun h => ?_⟩
      rw [other h, List.length_cons, Nat.add_assoc, Nat.add_comm 1]
    · trivial

theorem halts_loop {ctx : Context} {truncated : Bool} {iterations : Iterations}
    (type : step.type = .loop) (h : Iterated (fun _ => Runs step.steps) 0 iterations) :
    Halts step (loopOutcome ctx truncated iterations) := by
  have ends := iterationsEnd_of_iterated h
  obtain ⟨results, stop⟩ := iterations
  rcases stop with _ | e | crash
  · refine fun _ _ => .loop truncated results type rfl (fun nested hn => (ends nested hn).1)
      (fun nested hn => (ends nested (List.dropLast_subset _ hn)).2) ⟨fun _ nested hn => ?_, nofun⟩
    exact (ends nested hn).2
  · obtain ⟨passed, before, r, text, rfl, all, last, completed, failed, error, same, other⟩ := ends
    refine fun _ _ => .loop truncated _ type rfl (fun nested hn => ?_) (fun nested hn => ?_)
      ⟨nofun, fun _ => ⟨r, text, by simp, ?_, error, fun h => congrArg some (same h), fun h => ?_⟩⟩
    · rcases List.mem_append.mp hn with hn | hn
      · exact (all nested hn).1
      · exact List.mem_singleton.mp hn ▸ last
    · rw [List.dropLast_concat] at hn
      exact (all nested hn).2
    · rw [List.flatten_append, List.flatten_singleton, ← List.append_assoc]
      refine filter_append (fun d hd => ?_) failed
      rcases List.mem_append.mp hd with hd | hd
      · obtain ⟨nested, hn, hd⟩ := List.mem_flatten.mp hd
        exact (all nested hn).2 d hd
      · exact completed d hd
    · rw [List.length_append, List.length_singleton, Nat.add_sub_cancel]
      exact congrArg (fun e => some e.message) ((other h).trans (by rw [Nat.zero_add]))
  · trivial

private theorem runs_cons {trace : Trace} {startedAt completedAt : Time.Instant}
    {output : Json.Value} {rest : List Step}
    (first : StepHalts step (.completed step startedAt completedAt output)) (h : Runs rest trace) :
    Runs (step :: rest)
      ⟨.completed step startedAt completedAt output :: trace.results, trace.ending⟩ := by
  obtain ⟨ends, within⟩ := h
  refine ⟨?_, List.forall_mem_cons.mpr ⟨first, within⟩⟩
  have cons {results : List StepResult} (more : ∀ r ∈ results, r.isFailed = false) :
      ∀ r ∈ .completed step startedAt completedAt output :: results, r.isFailed = false :=
    List.forall_mem_cons.mpr ⟨rfl, more⟩
  cases ends with
  | finished all completed => exact .finished (congrArg (step.origin :: ·) all) (cons completed)
  | halted attempted completed failed error fatal =>
    exact .halted (b := _ :: _) (List.cons_prefix_cons.mpr ⟨rfl, attempted⟩) (cons completed)
      failed error fatal
  | aborted attempted completed failed error fatal =>
    exact .aborted (b := _ :: _) (List.cons_prefix_cons.mpr ⟨rfl, attempted⟩) (cons completed)
      failed error fatal
  | crashed attempted fewer completed =>
    exact .crashed (List.cons_prefix_cons.mpr ⟨rfl, attempted⟩) (Nat.succ_lt_succ fewer)
      (cons completed)

mutual
private theorem runStep_halts : ∀ (step : Step) (ctx : Context) (s : σ),
    (engine.runStep step ctx).Meets world .free (fun outcome _ => Halts step outcome) s
  | ⟨id, type, name, config, thenSteps, elseSteps, steps⟩, ctx, s => by
    unfold runStep
    split
    · exact fun _ _ => .bare rfl rfl
    · next p parsed =>
      obtain ⟨hc, hl, -⟩ := Command.suits_of_parse parsed
      refine (Program.meets_true _ s).mono fun outcome _ _ => ?_
      cases outcome with
      | completed output ctx => exact fun _ _ => .plain hc hl
      | failed e output => exact fun _ _ => .plain hc hl
      | crashed crash => trivial
    · next conditions subject parsed =>
      refine (meets_runCondition (l := fun holds =>
        Runs (if holds then thenSteps else elseSteps)) (meets_anything _ s) fun holds s _ => ?_).mono ?_
      · cases holds
        · exact (runSequence_runs elseSteps ctx s).mono fun _ _ ran => ⟨ran, trivial⟩
        · exact (runSequence_runs thenSteps ctx s).mono fun _ _ ran => ⟨ran, trivial⟩
      · rintro outcome _ ⟨⟨stop, -, rfl⟩ | ⟨holds, trace, ran, rfl⟩, -⟩
        · exact halts_ofStop stop
        · exact halts_branch (Command.suits_of_parse parsed) ran
    · next settings parsed =>
      refine (meets_runLoop (l := fun _ => Runs steps) trivial
        (fun _ s _ => meets_anything _ s) fun item index depth s _ =>
          (runSequence_runs steps _ s).mono fun _ _ ran => ⟨ran, trivial⟩).mono ?_
      rintro outcome _ ⟨⟨e, rfl⟩ | ⟨stop, -, rfl⟩ | ⟨truncated, iterations, ran, rfl⟩, -⟩
      · exact fun _ _ => .bare rfl rfl
      · exact halts_ofStop stop
      · exact halts_loop (Command.suits_of_parse parsed) ran
termination_by structural step => step

/-- Whatever is replied, a trace ends in one of the ways a trace can end. -/
theorem runSequence_runs : ∀ (steps : List Step) (ctx : Context) (s : σ),
    (engine.runSequence steps ctx).Meets world .free (fun trace _ => Runs steps trace) s
  | [], ctx, s => ⟨.finished rfl nofun, nofun⟩
  | step :: rest, ctx, s => by
    refine Program.meets_ask.mpr fun startedAt s _ => ?_
    refine (runStep_halts step ctx s).bind fun outcome s came => ?_
    cases outcome with
    | crashed crash => exact ⟨.crashed (by simp) (by simp) nofun, by simp⟩
    | failed e output =>
      refine Program.meets_ask.mpr fun completedAt s _ =>
        ⟨?_, by simpa using came startedAt completedAt⟩
      by_cases fatal : e.isFatal = true
      · rw [if_pos fatal]
        exact .aborted (b := []) (by simp; rfl) nofun rfl rfl fatal
      · rw [if_neg fatal]
        exact .halted (b := []) (by simp; rfl) nofun rfl rfl (by simpa using fatal)
    | completed output next =>
      refine Program.meets_ask.mpr fun completedAt s _ => ?_
      refine (runSequence_runs rest _ s).bind fun trace s ran => ?_
      exact runs_cons (came startedAt completedAt) ran
termination_by structural steps => steps
end

/-- A trace whose ending tells what its last result is. -/
private theorem ends_aborted {trace : Trace} (h : trace.Ends steps)
    (calm : ∀ crash, trace.ending ≠ .crashed crash) : Halting steps trace.results ∧
      ((∃ e, trace.ending = .aborted e) ↔ ∃ r ∈ trace.results.getLast?, r.isFailed = true ∧
        ∃ text ∈ r.error, StepError.FatalText text) ∧
      ∀ e, trace.ending = .aborted e → e.isFatal = true ∧
        ∃ r ∈ trace.results.getLast?, r.error = some e.message := by
  cases h with
  | @finished results ctx all completed =>
    refine ⟨halting_of_completed all completed, ⟨nofun, ?_⟩, nofun⟩
    rintro ⟨r, last, failed, -⟩
    simp [completed r (List.mem_of_getLast? last)] at failed
  | @halted before r ctx e attempted completed failed error fatal =>
    refine ⟨halting_append attempted completed failed, ⟨nofun, ?_⟩, nofun⟩
    rintro ⟨_, last, -, text, told, own⟩
    cases (List.getLast?_concat ..).symm.trans last
    cases error.symm.trans told
    rw [StepError.fatalText_message, fatal] at own
    cases own
  | @aborted before r e attempted completed failed error fatal =>
    refine ⟨halting_append attempted completed failed, ⟨fun _ => ?_, fun _ => ⟨e, rfl⟩⟩, ?_⟩
    · exact ⟨r, by simp, failed, e.message, error, StepError.fatalText_message.mpr fatal⟩
    · rintro _ ⟨⟩
      exact ⟨fatal, r, by simp, error⟩
  | crashed => exact absurd rfl (calm _)

/-- Where neither the store nor a tool breaks down, a run of steps ends with the first failed one,
at every depth, and is aborted just when the error of that one is fatal. -/
theorem runSequence_halts (engine : Engine) (environment : Program.Environment σ)
    (store : ∀ op s crash, (environment (.store op) s).1 ≠ .crashed crash)
    (tools : ∀ tool ∈ engine.tools.tools, ∀ arguments caller s crash,
      ((tool.call engine.toolStore arguments caller).run.run environment s).1 ≠
        .error (.crashed crash))
    (steps : List Step) (ctx : Context) (s : σ) :
    let trace := ((engine.runSequence steps ctx).run environment s).1
    HaltsWithin steps trace.results ∧ (∀ crash, trace.ending ≠ .crashed crash) ∧
      ((∃ e, trace.ending = .aborted e) ↔ ∃ r ∈ trace.results.getLast?, r.isFailed = true ∧
        ∃ text ∈ r.error, StepError.FatalText text) ∧
      ∀ e, trace.ending = .aborted e → e.isFatal = true ∧
        ∃ r ∈ trace.results.getLast?, r.error = some e.message := by
  intro trace
  have supported : engine.Supported environment.world (fun _ => True) (fun _ => True)
      (fun _ => False) False :=
    { clock _ _ _ _ _ := ⟨trivial, trivial⟩
      exchange _ _ _ _ _ _ _ := trivial
      keeps _ _ _ _ _ _ _ := trivial
      crashes op s c after _ w := store op s c (congrArg Prod.fst w)
      replies _ _ _ _ _ _ _ := False.elim
      tool tool known arguments caller _ s _ := Program.meets_world.mpr <| by
        have calm := tools tool known arguments caller s
        cases result : ((tool.call engine.toolStore arguments caller).run.run environment s).1 with
        | ok value => exact ⟨False.elim, trivial⟩
        | error stop =>
          cases stop with
          | failed e => exact ⟨trivial, trivial⟩
          | crashed crash => exact absurd result (calm crash) }
  have runs : (engine.runSequence steps ctx).Meets environment.world .free
      (fun trace _ => Runs steps trace) s := runSequence_runs steps ctx s
  obtain ⟨ends, within⟩ := Program.meets_world.mp runs
  obtain ⟨leaves, -⟩ := Program.meets_world.mp
    (runSequence_follows supported.follows steps ctx s trivial trivial)
  have calm : ∀ crash, trace.ending ≠ .crashed crash := fun _ => leaves.crash
  obtain ⟨halting, aborted, told⟩ := ends_aborted ends calm
  exact ⟨⟨halting, within⟩, calm, aborted, told⟩

/-- A store that is gone, and a tool that gives its arguments back. -/
private def gone : Program.Environment Unit
  | .store _, s => (.answered (.error (.unavailable "gone")), s)
  | .exchange _ _, s => (.unreachable, s)
  | .clock, s => (⟨0, 0⟩, s)

private def echoing : Engine where
  config := {}
  judge _ := .refused none
  secrets _ := none
  tools := ⟨[⟨"echo", fun _ arguments _ => pure (.success arguments)⟩]⟩

/-- A loop whose body calls the tool and then, in a branch, needs the store. -/
private def nestedSteps : List Step :=
  let write : Step := ⟨"write", .updateField, none,
    .ofPairs [("field", .string "name"), ("recordId", .string "r")], [], [], []⟩
  let check : Step := ⟨"check", .condition, none,
    .ofPairs [("conditions", .array []), ("subject", .string "previous")], [write], [], []⟩
  let call : Step := ⟨"call", .callTool, none, .ofPairs [("tool", .string "echo")], [], [], []⟩
  [⟨"each", .loop, none, .ofPairs [("source", .string "array"),
    ("items", .array [.ofInt 1, .ofInt 2]), ("maxIterations", .ofInt 5)], [], [], [call, check]⟩]

/-- The innermost step needs the store, and its error is that of the loop. -/
theorem runSequence_halts_nested :
    let trace := ((echoing.runSequence nestedSteps (.initial "w" none none none)).run gone ()).1
    HaltsWithin nestedSteps trace.results ∧ trace.results.map (fun r => (r.stepId, r.error)) =
      [("each", some "Store unavailable: gone")] := by
  have store (op : StoreOp) (s : Unit) (crash : Crash) : (gone (.store op) s).1 ≠ .crashed crash :=
    nofun
  have tools : ∀ tool ∈ echoing.tools.tools, ∀ arguments caller s crash,
      ((tool.call echoing.toolStore arguments caller).run.run gone s).1 ≠
        .error (.crashed crash) := by
    intro tool known arguments caller s crash
    cases List.mem_singleton.mp known
    exact nofun
  exact ⟨(runSequence_halts echoing gone store tools nestedSteps _ ()).1, by decide +kernel⟩

end Engine
end Automation
