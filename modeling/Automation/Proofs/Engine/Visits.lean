import Automation.Proofs.Engine.Attempts
import Automation.Proofs.Engine.ContextFlow
import Automation.Proofs.Step.Position

/-!
The history of a run as visits: each step that is attempted, and where in the action it stands. What each
part of a run adds to the visits is told by the steps alone and by the depth of their contexts, whatever
the world answers.
-/
namespace Automation.Engine

open Json (Value)
open Step (Part Way Position)

variable {σ α β : Type}

/-- What happens within each of the iterations of a loop. -/
def withinEach (environment : Program.Environment σ) (body : Value → Nat → Program Trace)
    (within : Value → Nat → σ → List α) (index : Nat) : List Value → σ → List (List α)
  | [], _ => []
  | item :: rest, s =>
    let ran := (body item index).run environment s
    within item index s :: match iterationStop index ran.1 with
      | some _ => []
      | none => withinEach environment body within (index + 1) rest ran.2

/-- What stands somewhere in a part of a step stands there in the step. -/
def inPart (part : Part) : List (Position × α) → List (Way × α) :=
  List.map (Prod.map (Position.under part) id)

/-- What stands somewhere in a step stands in the first step of a list. -/
def inFirst : List (Way × α) → List (Position × α) := List.map (Prod.map Way.first id)

/-- The same when there is one more step in front. -/
def inRest : List (Position × α) → List (Position × α) := List.map (Prod.map Position.later id)

mutual
/-- The attempts of a step and of those in it, with the way that leads to each. -/
def visits (engine : Engine) (environment : Program.Environment σ) :
    Step → Context → σ → List (Way × Attempt σ)
  | ⟨id, type, name, config, thenSteps, elseSteps, steps⟩, ctx, s =>
    let step : Step := ⟨id, type, name, config, thenSteps, elseSteps, steps⟩
    ([], ⟨step, ctx, s⟩) :: match Command.parse type id (Template.resolve ctx config) with
      | .ok (.condition conditions subject) =>
        let looked := (engine.subjectValue ctx subject).run.run environment s
        match looked.1 with
        | .ok value =>
          if Condition.allHold conditions value then
            inPart .thenSteps (visitsAll engine environment thenSteps ctx looked.2)
          else inPart .elseSteps (visitsAll engine environment elseSteps ctx looked.2)
        | .error _ => []
      | .ok (.loop settings) =>
        match engine.loopBounds ctx id (Step.loopDepth step) settings.maxIterations with
        | .ok (max, depth) =>
          let looked := (engine.loopItems ctx settings max).run.run environment s
          match looked.1 with
          | .ok items =>
            inPart .steps (withinEach environment
              (fun item index => engine.runSequence steps (ctx.atItem item index depth))
              (fun item index => visitsAll engine environment steps (ctx.atItem item index depth)) 0
              (items.take max) looked.2).flatten
          | .error _ => []
        | .error _ => []
      | _ => []
termination_by structural step => step

/-- The attempts of steps one after another, with the position of each among them. -/
def visitsAll (engine : Engine) (environment : Program.Environment σ) :
    List Step → Context → σ → List (Position × Attempt σ)
  | [], _, _ => []
  | step :: rest, ctx, s =>
    let started := (Program.now.run environment s).2
    let ran := (engine.runStep step ctx).run environment started
    inFirst (visits engine environment step ctx started) ++ match ran.1 with
      | .completed output next =>
        inRest (visitsAll engine environment rest (next.withOutput step.id output)
          (Program.now.run environment ran.2).2)
      | _ => []
termination_by structural steps => steps
end

/-- All that is attempted in a run of an action, with the position of each step in the action. -/
def runVisits (engine : Engine) (environment : Program.Environment σ) (action : Action)
    (occasion : Occasion) (s : σ) : List (Position × Attempt σ) :=
  let started := (engine.start action occasion).run.run environment s
  match started.1 with
  | .ok executionId =>
    engine.visitsAll environment action.steps (firstContext action occasion executionId) started.2
  | .error _ => []

@[simp] theorem map_fst_inPart (part : Part) (visits : List (Position × α)) :
    (inPart part visits).map Prod.fst = (visits.map Prod.fst).map (Position.under part) := by
  simp [inPart, Function.comp_def]

@[simp] theorem map_snd_inPart (part : Part) (visits : List (Position × α)) :
    (inPart part visits).map Prod.snd = visits.map Prod.snd := by
  simp [inPart, Function.comp_def]

@[simp] theorem map_fst_inFirst (visits : List (Way × α)) :
    (inFirst visits).map Prod.fst = (visits.map Prod.fst).map Way.first := by
  simp [inFirst, Function.comp_def]

@[simp] theorem map_snd_inFirst (visits : List (Way × α)) :
    (inFirst visits).map Prod.snd = visits.map Prod.snd := by
  simp [inFirst, Function.comp_def]

@[simp] theorem map_fst_inRest (visits : List (Position × α)) :
    (inRest visits).map Prod.fst = (visits.map Prod.fst).map Position.later := by
  simp [inRest, Function.comp_def]

@[simp] theorem map_snd_inRest (visits : List (Position × α)) :
    (inRest visits).map Prod.snd = visits.map Prod.snd := by
  simp [inRest, Function.comp_def]

variable {environment : Program.Environment σ} {body : Value → Nat → Program Trace}

/-- No iteration is without an item. -/
theorem length_withinEach_le {within : Value → Nat → σ → List α} (items : List Value) (index : Nat)
    (s : σ) : (withinEach environment body within index items s).length ≤ items.length := by
  induction items generalizing index s with
  | nil => exact Nat.le_refl 0
  | cons item rest ih =>
    rw [withinEach, List.length_cons, List.length_cons, Nat.add_le_add_iff_right]
    cases iterationStop index ((body item index).run environment s).1 with
    | some stop => exact Nat.zero_le _
    | none => exact ih (index + 1) _

/-- What happens within an iteration is what happens with one of the items. -/
theorem mem_withinEach {within : Value → Nat → σ → List α} {items : List Value} {index : Nat} {s : σ}
    {inside : List α} (h : inside ∈ withinEach environment body within index items s) :
    ∃ item place before, inside = within item place before := by
  induction items generalizing index s with
  | nil => cases h
  | cons item rest ih =>
    rw [withinEach] at h
    rcases List.mem_cons.mp h with rfl | later
    · exact ⟨item, index, s, rfl⟩
    · cases stops : iterationStop index ((body item index).run environment s).1 with
      | some stop =>
        rw [stops] at later
        cases later
      | none =>
        rw [stops] at later
        exact ih later

private theorem map_withinEach {within : Value → Nat → σ → List (β × Attempt σ)}
    {tried : Value → Nat → σ → List (Attempt σ)}
    (same : ∀ item index s, (within item index s).map Prod.snd = tried item index s)
    (items : List Value) (index : Nat) (s : σ) :
    (withinEach environment body within index items s).flatten.map Prod.snd =
      attemptsEach environment body tried index items s := by
  induction items generalizing index s with
  | nil => rfl
  | cons item rest ih =>
    rw [withinEach, attemptsEach, List.flatten_cons, List.map_append, same]
    congr 1
    cases iterationStop index ((body item index).run environment s).1 with
    | some stop => rfl
    | none => exact ih (index + 1) _

variable {engine : Engine}

mutual
/-- The visits are the attempts. -/
theorem map_visits : ∀ (step : Step) (ctx : Context) (s : σ),
    (engine.visits environment step ctx s).map Prod.snd = engine.attempts environment step ctx s
  | ⟨id, type, name, config, thenSteps, elseSteps, steps⟩, ctx, s => by
    unfold visits attempts
    rw [List.map_cons]
    congr 1
    cases Command.parse type id (Template.resolve ctx config) with
    | error e => rfl
    | ok command =>
      cases command with
      | primitive p => rfl
      | condition conditions subject =>
        dsimp only
        cases ((engine.subjectValue ctx subject).run.run environment s).1 with
        | error stop => rfl
        | ok value =>
          dsimp only
          split
          · rw [map_snd_inPart, map_visitsAll thenSteps]
          · rw [map_snd_inPart, map_visitsAll elseSteps]
      | loop settings =>
        dsimp only
        cases engine.loopBounds ctx id _ settings.maxIterations with
        | error e => rfl
        | ok admitted =>
          obtain ⟨max, depth⟩ := admitted
          dsimp only
          cases ((engine.loopItems ctx settings max).run.run environment s).1 with
          | error stop => rfl
          | ok items =>
            dsimp only
            rw [map_snd_inPart]
            exact map_withinEach (fun _ _ s => map_visitsAll steps _ s) _ 0 _
termination_by structural step => step

theorem map_visitsAll : ∀ (steps : List Step) (ctx : Context) (s : σ),
    (engine.visitsAll environment steps ctx s).map Prod.snd =
      engine.attemptsAll environment steps ctx s
  | [], _, _ => rfl
  | step :: rest, ctx, s => by
    unfold visitsAll attemptsAll
    rw [List.map_append, map_snd_inFirst, map_visits step]
    congr 1
    cases ((engine.runStep step ctx).run environment (Program.now.run environment s).2).1 with
    | completed output next =>
      dsimp only
      rw [map_snd_inRest, map_visitsAll rest]
    | failed e output => rfl
    | crashed crash => rfl
termination_by structural steps => steps
end

theorem map_runVisits (action : Action) (occasion : Occasion) (s : σ) :
    (engine.runVisits environment action occasion s).map Prod.snd =
      engine.runAttempts environment action occasion s := by
  unfold runVisits runAttempts
  dsimp only
  cases ((engine.start action occasion).run.run environment s).1 with
  | error stop => rfl
  | ok executionId => exact map_visitsAll action.steps _ _

/-- What each part of a run adds to the visits. Only a loop that the engine admits has iterations, and no
more of them than its bound. -/
structure Charts (engine : Engine) (ofStep : Step → Context → List (Way × Attempt σ) → Prop)
    (ofSteps : List Step → Context → List (Position × Attempt σ) → Prop) : Prop where
  alone : ∀ step ctx s, ofStep step ctx [([], ⟨step, ctx, s⟩)]
  branch : ∀ (step : Step) ctx s part inside, step.type = .condition → ofSteps (step.part part) ctx inside →
    ofStep step ctx (([], ⟨step, ctx, s⟩) :: inPart part inside)
  loop : ∀ (step : Step) ctx s maxIterations max depth (iterations : List (List (Position × Attempt σ))),
    step.type = .loop →
    engine.loopBounds ctx step.id step.loopDepth maxIterations = .ok (max, depth) →
    iterations.length ≤ max →
    (∀ inside ∈ iterations, ∃ item index, ofSteps step.steps (ctx.atItem item index depth) inside) →
    ofStep step ctx (([], ⟨step, ctx, s⟩) :: inPart .steps iterations.flatten)
  ended : ∀ steps ctx, ofSteps steps ctx []
  next : ∀ step rest ctx next first others, next.nestingDepth = ctx.nestingDepth →
    ofStep step ctx first → ofSteps rest next others →
    ofSteps (step :: rest) ctx (inFirst first ++ inRest others)

/-- What a step leaves behind stands as deep as the step. -/
theorem nestingDepth_completed {step : Step} {ctx : Context} {s : σ} {output : Value} {next : Context}
    (completed : ((engine.runStep step ctx).run environment s).1 = .completed output next) :
    next.nestingDepth = ctx.nestingDepth := by
  have behind := congrArg Context.nestingDepth (withOutput_completed completed)
  exact behind

variable {ofStep : Step → Context → List (Way × Attempt σ) → Prop}
  {ofSteps : List Step → Context → List (Position × Attempt σ) → Prop}

mutual
theorem visits_charted (h : engine.Charts ofStep ofSteps) : ∀ (step : Step) (ctx : Context) (s : σ),
    ofStep step ctx (engine.visits environment step ctx s)
  | ⟨id, type, name, config, thenSteps, elseSteps, steps⟩, ctx, s => by
    let step : Step := ⟨id, type, name, config, thenSteps, elseSteps, steps⟩
    have alone := h.alone step ctx s
    unfold visits
    cases parsed : Command.parse type id (Template.resolve ctx config) with
    | error e => exact alone
    | ok command =>
      cases command with
      | primitive p => exact alone
      | condition conditions subject =>
        have condition : step.type = .condition := Command.suits_of_parse parsed
        dsimp only
        cases ((engine.subjectValue ctx subject).run.run environment s).1 with
        | error stop => exact alone
        | ok value =>
          dsimp only
          split
          · exact h.branch step ctx s .thenSteps _ condition (visits_charted_all h thenSteps ctx _)
          · exact h.branch step ctx s .elseSteps _ condition (visits_charted_all h elseSteps ctx _)
      | loop settings =>
        have loop : step.type = .loop := Command.suits_of_parse parsed
        dsimp only
        cases bounds : engine.loopBounds ctx id step.loopDepth settings.maxIterations with
        | error e => exact alone
        | ok admitted =>
          obtain ⟨max, depth⟩ := admitted
          dsimp only
          cases ((engine.loopItems ctx settings max).run.run environment s).1 with
          | error stop => exact alone
          | ok items =>
            refine h.loop step ctx s settings.maxIterations max depth _ loop bounds ?_ ?_
            · exact Nat.le_trans (length_withinEach_le _ _ _) (List.length_take_le max items)
            · intro inside there
              obtain ⟨item, index, before, rfl⟩ := mem_withinEach there
              exact ⟨item, index, visits_charted_all h steps _ before⟩
termination_by structural step => step

theorem visits_charted_all (h : engine.Charts ofStep ofSteps) : ∀ (steps : List Step) (ctx : Context)
    (s : σ), ofSteps steps ctx (engine.visitsAll environment steps ctx s)
  | [], ctx, s => h.ended [] ctx
  | step :: rest, ctx, s => by
    have first := visits_charted h step ctx (Program.now.run environment s).2
    unfold visitsAll
    dsimp only
    split
    · next output next completed =>
      have level := nestingDepth_completed completed
      exact h.next step rest ctx (next.withOutput step.id output) _ _ level first
        (visits_charted_all h rest _ _)
    · exact h.next step rest ctx ctx _ [] rfl first (h.ended rest ctx)
termination_by structural steps => steps
end

/-- Where a step stands that was attempted, seen from a context: what is found there, and how many loops
are around it, which are not too many. -/
structure Stands (engine : Engine) (ctx : Context) (found : Option Step) (around : Nat)
    (a : Attempt σ) : Prop where
  found : found = some a.step
  depth : a.ctx.nestingDepth = ctx.nestingDepth + around
  shallow : ctx.nestingDepth ≤ engine.config.maxLoopNesting →
    a.ctx.nestingDepth ≤ engine.config.maxLoopNesting

private theorem charts_stands : engine.Charts (σ := σ)
    (fun step ctx visits => ∀ v ∈ visits,
      engine.Stands ctx (Step.at? v.1 step) (Step.loopsOn v.1 step) v.2)
    (fun steps ctx visits => ∀ v ∈ visits,
      engine.Stands ctx (Step.find? steps v.1) (Step.loopsAround steps v.1) v.2) where
  alone step ctx s := List.forall_mem_singleton.mpr ⟨rfl, rfl, id⟩
  branch step ctx s part inside condition h := by
    have level : step.level = 0 := if_neg (condition ▸ nofun)
    refine List.forall_mem_cons.mpr ⟨⟨rfl, rfl, id⟩, fun v there => ?_⟩
    obtain ⟨w, known, rfl⟩ := List.mem_map.mp there
    obtain ⟨found, depth, shallow⟩ := h w known
    refine ⟨found, ?_, shallow⟩
    rw [Prod.map_fst, Step.loopsOn_under, level, Nat.zero_add]
    exact depth
  loop step ctx s maxIterations max depth iterations loop bounds few h := by
    obtain ⟨rfl, -, admitted, -⟩ := admitted_of_loopBounds bounds
    have level : step.level = 1 := if_pos loop
    refine List.forall_mem_cons.mpr ⟨⟨rfl, rfl, id⟩, fun v there => ?_⟩
    obtain ⟨w, known, rfl⟩ := List.mem_map.mp there
    obtain ⟨inside, among, known⟩ := List.mem_flatten.mp known
    obtain ⟨item, index, h⟩ := h inside among
    obtain ⟨found, depth, shallow⟩ := h w known
    refine ⟨found, ?_, fun _ => shallow admitted⟩
    rw [Prod.map_fst, Step.loopsOn_under, level, ← Nat.add_assoc]
    exact depth
  ended steps ctx := nofun
  next step rest ctx next first others same h more := by
    refine List.forall_mem_append.mpr ⟨fun v there => ?_, fun v there => ?_⟩
    · obtain ⟨w, known, rfl⟩ := List.mem_map.mp there
      exact h w known
    · obtain ⟨w, known, rfl⟩ := List.mem_map.mp there
      obtain ⟨found, depth, shallow⟩ := more w known
      rw [same] at depth shallow
      exact ⟨found, depth, shallow⟩

/-- What is attempted within a step stands somewhere in it. -/
theorem stands_of_attempts {step : Step} {ctx : Context} {s : σ} {a : Attempt σ}
    (h : a ∈ engine.attempts environment step ctx s) :
    ∃ way, engine.Stands ctx (Step.at? way step) (Step.loopsOn way step) a := by
  rw [← map_visits] at h
  obtain ⟨v, there, rfl⟩ := List.mem_map.mp h
  exact ⟨v.1, visits_charted charts_stands step ctx s v there⟩

/-- What is attempted in a run stands where it is visited, and as deep as there are loops around it. -/
theorem stands_of_runVisits {action : Action} {occasion : Occasion} {s : σ} {v : Position × Attempt σ}
    (h : v ∈ engine.runVisits environment action occasion s) :
    Step.find? action.steps v.1 = some v.2.step ∧
      v.2.ctx.nestingDepth = Step.loopsAround action.steps v.1 ∧
      v.2.ctx.nestingDepth ≤ engine.config.maxLoopNesting := by
  unfold runVisits at h
  dsimp only at h
  split at h
  · next executionId _ =>
    obtain ⟨found, depth, shallow⟩ := visits_charted_all charts_stands action.steps
      (firstContext action occasion executionId) _ v h
    exact ⟨found, depth.trans (Nat.zero_add _), shallow (Nat.zero_le _)⟩
  · cases h

end Automation.Engine
