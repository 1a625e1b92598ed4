import Automation.Proofs.Step.Preorder
import Automation.Validation
import Mathlib.Data.List.Dedup

/-!
What a well-formed action is, said without the traversal that looks for faults. The traversal finds
nothing in just the actions that are well formed.
-/
namespace Automation

open Step (Placed preorder preorderAll listing PathsWithin)

/-- The number of rounds is written out, within the limit and among the integers of 64 bits. -/
def Step.Bounded (limit : Nat) (step : Step) : Prop :=
  ∃ n : Nat, step.config.member? "maxIterations" = some (.number (.int n)) ∧ 1 ≤ n ∧ n ≤ limit ∧
    n < 0x10000000000000000

/-- What is asked of a step wherever it stands. -/
structure Step.WellFormed (config : Config) (step : Step) : Prop where
  known : step.type.isKnown
  bounded : step.type = .loop → step.Bounded config.maxLoopIterations
  decided : step.type = .condition →
    ∃ items, step.config.member? "conditions" = some (.array items) ∧ items ≠ []
  branches : step.thenSteps ≠ [] ∨ step.elseSteps ≠ [] → step.type = .condition
  body : step.steps ≠ [] → step.type = .loop

structure TriggerSpec.WellFormed (trigger : TriggerSpec) : Prop where
  scheduled : trigger.type = .scheduled →
    ∃ text schedule, trigger.schedule = some text ∧ Cron.Schedule.parse text = .ok schedule
  watching : trigger.type = .onFieldChange →
    ∃ fields, trigger.watchedFields = some fields ∧ fields ≠ []

structure Action.WellFormed (config : Config) (action : Action) : Prop where
  trigger : action.trigger.WellFormed
  distinct : ((listing action.steps).map (·.id)).Nodup
  steps : ∀ step ∈ listing action.steps, step.WellFormed config
  nesting : PathsWithin config.maxLoopNesting action.steps

namespace Validation

/-- The ids of steps, in the order of the list. -/
def ids (places : List Placed) : List String := places.map (·.step.id)

/-- What is found in steps one after another, some ids having been seen before. -/
def reports (config : Config) (seen : List String) : List Placed → List ValidationIssue
  | [] => []
  | place :: rest =>
    (stepFaults config place.loops seen place.step).map (⟨some place.step.id, ·⟩) ++
      reports config (place.step.id :: seen) rest

variable {config : Config} {seen : List String} {steps : List Step} {place : Placed}
  {places : List Placed}

section Traversal

theorem childDepth_eq (step : Step) (loops : Nat) :
    childDepth step.type loops = loops + step.level := by
  rw [childDepth, Step.level]
  split <;> rfl

theorem stepsIssues_append (steps others : List Step) (loops : Nat) (seen : List String) :
    stepsIssues config loops seen (steps ++ others) =
      ((stepsIssues config loops seen steps).1 ++
          (stepsIssues config loops (stepsIssues config loops seen steps).2 others).1,
        (stepsIssues config loops (stepsIssues config loops seen steps).2 others).2) := by
  induction steps generalizing seen with
  | nil => rfl
  | cons step rest ih => simp [stepsIssues, ih, List.append_assoc]

/-- A step is looked at before the steps directly inside it. -/
theorem stepIssues_eq (step : Step) (loops : Nat) (seen : List String) :
    stepIssues config loops seen step =
      ((stepFaults config loops seen step).map (⟨some step.id, ·⟩) ++
          (stepsIssues config (loops + step.level) (step.id :: seen) step.children).1,
        (stepsIssues config (loops + step.level) (step.id :: seen) step.children).2) := by
  rw [← childDepth_eq]
  obtain ⟨id, type, name, settings, thenSteps, elseSteps, steps⟩ := step
  simp only [stepIssues, Step.children, stepsIssues_append, List.append_assoc]

theorem reports_append (places others : List Placed) (seen : List String) :
    reports config seen (places ++ others) =
      reports config seen places ++ reports config ((ids places).reverse ++ seen) others := by
  induction places generalizing seen with
  | nil => rfl
  | cons place rest ih => simp [reports, ih, ids, List.append_assoc]

private theorem stepsIssues_of {steps : List Step}
    (each : ∀ step ∈ steps, ∀ loops seen, stepIssues config loops seen step =
      (reports config seen (preorder loops step), (ids (preorder loops step)).reverse ++ seen))
    (loops : Nat) (seen : List String) : stepsIssues config loops seen steps =
      (reports config seen (preorderAll loops steps),
        (ids (preorderAll loops steps)).reverse ++ seen) := by
  induction steps generalizing seen with
  | nil => rfl
  | cons step rest ih =>
    rw [List.forall_mem_cons] at each
    simp only [stepsIssues, preorderAll, each.1, ih each.2, reports_append]
    simp [ids, List.append_assoc]

private theorem stepIssues_reports (step : Step) (loops : Nat) (seen : List String) :
    stepIssues config loops seen step =
      (reports config seen (preorder loops step), (ids (preorder loops step)).reverse ++ seen) := by
  induction step using Step.induct generalizing loops seen with
  | node step ih =>
    rw [stepIssues_eq, stepsIssues_of ih, Step.preorder_eq]
    simp [reports, ids]

/-- Steps are looked at in pre-order, each with the ids before it and the loops around it. -/
theorem stepsIssues_reports (steps : List Step) (loops : Nat) (seen : List String) :
    stepsIssues config loops seen steps = (reports config seen (preorderAll loops steps),
      (ids (preorderAll loops steps)).reverse ++ seen) :=
  stepsIssues_of (fun step _ => stepIssues_reports step) loops seen

end Traversal

section Faults

theorem asNat64?_eq_some {v : Json.Value} {n : Nat} :
    v.asNat64? = some n ↔ v = .number (.int n) ∧ n < 0x10000000000000000 := by
  constructor
  · intro read
    unfold Json.Value.asNat64? at read
    split at read
    · next i =>
      split at read
      · next within =>
        cases read
        refine ⟨?_, by omega⟩
        rw [Int.toNat_of_nonneg within.1]
      · cases read
    · cases read
  · rintro ⟨rfl, within⟩
    rw [Json.Value.asNat64?, if_pos ⟨Int.natCast_nonneg n, by omega⟩, Int.toNat_natCast]

theorem bounded_iff {step : Step} {limit : Nat} : step.Bounded limit ↔
    ∃ n, (step.config.member? "maxIterations").bind (·.asNat64?) = some n ∧ 1 ≤ n ∧ n ≤ limit := by
  constructor
  · rintro ⟨n, found, least, most, within⟩
    exact ⟨n, Option.bind_eq_some_iff.mpr ⟨_, found, asNat64?_eq_some.mpr ⟨rfl, within⟩⟩, least, most⟩
  · rintro ⟨n, read, least, most⟩
    obtain ⟨v, found, read⟩ := Option.bind_eq_some_iff.mp read
    obtain ⟨rfl, within⟩ := asNat64?_eq_some.mp read
    exact ⟨n, found, least, most, within⟩

/-- A loop has no fault just where its bound is admitted and it is not nested too deep. -/
theorem loopFaults_eq_nil {step : Step} {loops : Nat} :
    loopFaults config (loops + 1) step.config = [] ↔
      loops < config.maxLoopNesting ∧ step.Bounded config.maxLoopIterations := by
  rw [loopFaults, List.append_eq_nil_iff, bounded_iff]
  refine and_congr ?_ ?_
  · split <;> simp <;> omega
  · rcases (step.config.member? "maxIterations").bind (·.asNat64?) with _ | _ | n
    · simp
    · simp
    · simp

theorem hasConditions_iff {settings : Json.Value} : hasConditions settings ↔
    ∃ items, settings.member? "conditions" = some (.array items) ∧ items ≠ [] := by
  rw [hasConditions]
  cases found : settings.member? "conditions" with
  | none => simp
  | some v => cases v <;> simp [Json.Value.asArray?]

/-- The faults a step has for what kind of step it is. -/
def kindFaults (config : Config) (depth : Nat) (step : Step) : List Fault :=
  match step.type with
  | .unknown name => [.unknownType name]
  | .condition => if hasConditions step.config then [] else [.noConditions]
  | .loop => loopFaults config (depth + 1) step.config
  | _ => []

/-- The faults a step has for the steps inside it. -/
def partFaults (step : Step) : List Fault :=
  (if step.type != .condition && !(step.thenSteps.isEmpty && step.elseSteps.isEmpty) then
    [.strayBranches] else []) ++
    (if step.type != .loop && !step.steps.isEmpty then [.strayBody] else [])

theorem stepFaults_eq (step : Step) (loops : Nat) : stepFaults config loops seen step =
    (if step.id ∈ seen then [.duplicateId] else []) ++ (kindFaults config loops step ++
      partFaults step) := by
  have known : (if seen.contains step.id then [Fault.duplicateId] else []) =
      if step.id ∈ seen then [.duplicateId] else [] := by simp only [List.contains_iff_mem]
  rw [← known]
  exact (List.append_assoc _ _ _).trans (List.append_assoc _ _ _)

theorem kindFaults_eq_nil {step : Step} {loops : Nat} : kindFaults config loops step = [] ↔
    step.type.isKnown ∧
      (step.type = .loop → loops < config.maxLoopNesting ∧ step.Bounded config.maxLoopIterations) ∧
      (step.type = .condition → hasConditions step.config) := by
  rw [kindFaults]
  cases step.type <;> simp [StepType.isKnown, loopFaults_eq_nil]

theorem partFaults_eq_nil {step : Step} : partFaults step = [] ↔
    (step.thenSteps ≠ [] ∨ step.elseSteps ≠ [] → step.type = .condition) ∧
      (step.steps ≠ [] → step.type = .loop) := by
  by_cases asks : step.type = .condition <;> by_cases loop : step.type = .loop <;>
    simp [partFaults, asks, loop]

/-- A step has no fault just where it is well formed, its id is new and, being a loop, it is not nested
too deep. -/
theorem stepFaults_eq_nil : stepFaults config place.loops seen place.step = [] ↔
    place.step.id ∉ seen ∧ place.step.WellFormed config ∧ place.Within config.maxLoopNesting := by
  have new : (if place.step.id ∈ seen then [Fault.duplicateId] else []) = [] ↔
      place.step.id ∉ seen := by simp
  rw [stepFaults_eq, List.append_eq_nil_iff, List.append_eq_nil_iff, new, kindFaults_eq_nil,
    partFaults_eq_nil]
  constructor
  · rintro ⟨new, ⟨known, bounds, decided⟩, branches, body⟩
    exact ⟨new, ⟨known, fun loop => (bounds loop).2, fun asks => hasConditions_iff.mp (decided asks),
      branches, body⟩, fun loop => (bounds loop).1⟩
  · rintro ⟨new, formed, within⟩
    exact ⟨new, ⟨formed.known, fun loop => ⟨within loop, formed.bounded loop⟩,
      fun asks => hasConditions_iff.mpr (formed.decided asks)⟩, formed.branches, formed.body⟩

/-- Steps are told to be nested too deep where they are loops inside too many others. -/
theorem nestedTooDeep_mem_stepFaults :
    (∃ depth limit, .nestedTooDeep depth limit ∈ stepFaults config place.loops seen place.step) ↔
      ¬ place.Within config.maxLoopNesting := by
  obtain ⟨loops, step⟩ := place
  have parts : ∀ depth limit, .nestedTooDeep depth limit ∉ partFaults step := by
    grind [partFaults]
  have kind : ∀ depth limit, .nestedTooDeep depth limit ∈ kindFaults config loops step ↔
      step.type = .loop ∧ config.maxLoopNesting < loops + 1 ∧ depth = loops + 1 ∧
        limit = config.maxLoopNesting := by
    grind [kindFaults, loopFaults]
  simp only [stepFaults_eq, List.mem_append, parts, kind, Placed.Within]
  grind

/-- At most one fault of a step is that its id was seen before. -/
theorem stepFaults_countP_duplicateId (step : Step) (loops : Nat) :
    (stepFaults config loops seen step).countP (· = .duplicateId) =
      if step.id ∈ seen then 1 else 0 := by
  have others : .duplicateId ∉ kindFaults config loops step ++ partFaults step := by
    grind [kindFaults, loopFaults, partFaults]
  have none : (kindFaults config loops step ++ partFaults step).countP (· = .duplicateId) = 0 := by
    refine List.countP_eq_zero.mpr fun fault among same => others ?_
    exact of_decide_eq_true same ▸ among
  rw [stepFaults_eq, List.countP_append, none]
  split <;> simp

end Faults

section Reports

/-- Nothing is found in steps just where each is well formed and their ids are new and distinct. -/
theorem reports_eq_nil : reports config seen places = [] ↔
    (∀ place ∈ places, place.step.id ∉ seen) ∧ (ids places).Nodup ∧
      ∀ place ∈ places, place.step.WellFormed config ∧ place.Within config.maxLoopNesting := by
  induction places generalizing seen with
  | nil => simp [reports, ids]
  | cons place rest ih =>
    have once : place.step.id ∉ ids rest ↔ ∀ other ∈ rest, other.step.id ≠ place.step.id := by
      simp [ids]
    rw [reports, List.append_eq_nil_iff, List.map_eq_nil_iff, stepFaults_eq_nil, ih,
      List.forall_mem_cons, List.forall_mem_cons, show ids (place :: rest) = _ :: ids rest from rfl,
      List.nodup_cons, once]
    simp only [List.mem_cons, not_or]
    constructor
    · rintro ⟨⟨new, own⟩, others, distinct, each⟩
      exact ⟨⟨new, fun other among => (others other among).2⟩,
        ⟨fun other among => (others other among).1, distinct⟩, own, each⟩
    · rintro ⟨⟨new, others⟩, ⟨once, distinct⟩, own, each⟩
      exact ⟨⟨new, own⟩, fun other among => ⟨once other among, others other among⟩, distinct, each⟩

/-- Each id is new once, and every step with an id that is not new is reported. -/
theorem reports_countP_duplicateId (config : Config) (seen : List String) (places : List Placed) :
    (reports config seen places).countP (·.fault = .duplicateId) +
      ((ids places).reverse ++ seen).dedup.length = places.length + seen.dedup.length := by
  induction places generalizing seen with
  | nil => simp [reports, ids]
  | cons place rest ih =>
    have others := ih (place.step.id :: seen)
    have own : ((stepFaults config place.loops seen place.step).map
        (ValidationIssue.mk (some place.step.id))).countP (·.fault = .duplicateId) =
          if place.step.id ∈ seen then 1 else 0 := by
      rw [List.countP_map, ← stepFaults_countP_duplicateId]
      rfl
    have order : (ids (place :: rest)).reverse ++ seen =
        (ids rest).reverse ++ place.step.id :: seen := by simp [ids]
    rw [reports, List.countP_append, own, order, List.length_cons]
    by_cases known : place.step.id ∈ seen
    · rw [List.dedup_cons_of_mem known] at others
      rw [if_pos known]
      omega
    · rw [List.dedup_cons_of_notMem known, List.length_cons] at others
      rw [if_neg known]
      omega

/-- A loop inside too many others is reported where it stands. -/
theorem nestedTooDeep_mem_reports (seen : List String) :
    (∃ issue ∈ reports config seen places, ∃ depth limit, issue.fault = .nestedTooDeep depth limit) ↔
      ∃ place ∈ places, ¬ place.Within config.maxLoopNesting := by
  induction places generalizing seen with
  | nil => simp [reports]
  | cons place rest ih =>
    have own : (∃ issue ∈ (stepFaults config place.loops seen place.step).map
        (ValidationIssue.mk (some place.step.id)), ∃ depth limit,
          issue.fault = .nestedTooDeep depth limit) ↔ ¬ place.Within config.maxLoopNesting := by
      rw [← nestedTooDeep_mem_stepFaults]
      constructor
      · rintro ⟨issue, among, depth, limit, deep⟩
        obtain ⟨fault, found, rfl⟩ := List.mem_map.mp among
        have same : fault = .nestedTooDeep depth limit := deep
        exact ⟨depth, limit, same ▸ found⟩
      · rintro ⟨depth, limit, found⟩
        exact ⟨_, List.mem_map_of_mem found, depth, limit, rfl⟩
    simp only [reports, List.mem_append, or_and_right, exists_or, own, ih, List.mem_cons,
      exists_eq_left]

end Reports

theorem triggerFaults_eq_nil {trigger : TriggerSpec} :
    triggerFaults trigger = [] ↔ trigger.WellFormed := by
  obtain ⟨type, objectTypeId, listId, watchedFields, schedule⟩ := trigger
  constructor
  · intro none
    refine ⟨?_, ?_⟩
    · rintro ⟨⟩
      cases schedule with
      | none => cases none
      | some text =>
        cases parsed : Cron.Schedule.parse text with
        | ok schedule => exact ⟨text, schedule, rfl, parsed⟩
        | error e => simp [triggerFaults, parsed] at none
    · rintro ⟨⟩
      cases watchedFields with
      | none => cases none
      | some fields =>
        refine ⟨fields, rfl, ?_⟩
        rintro rfl
        cases none
  · rintro ⟨scheduled, watching⟩
    cases type with
    | scheduled =>
      obtain ⟨text, schedule, ⟨⟩, parsed⟩ := scheduled rfl
      simp [triggerFaults, parsed]
    | onFieldChange =>
      obtain ⟨fields, ⟨⟩, among⟩ := watching rfl
      simp [triggerFaults, among]
    | _ => rfl

private theorem trigger_issues (trigger : TriggerSpec) :
    ∀ issue ∈ (triggerFaults trigger).map (ValidationIssue.mk none),
      issue.fault ≠ .duplicateId ∧ ∀ depth limit, issue.fault ≠ .nestedTooDeep depth limit := by
  rw [List.forall_mem_map]
  grind [triggerFaults]

theorem listing_ids (steps : List Step) :
    (listing steps).map (·.id) = ids (preorderAll 0 steps) := by
  rw [listing, List.map_map]
  rfl

end Validation

open Validation

theorem Action.issues_eq (config : Config) (action : Action) : action.issues config =
    (triggerFaults action.trigger).map (⟨none, ·⟩) ++
      reports config [] (preorderAll 0 action.steps) := by
  rw [Action.issues, stepsIssues_reports]

theorem Action.issues_eq_nil (config : Config) (action : Action) :
    action.issues config = [] ↔ action.WellFormed config := by
  have shallow : PathsWithin config.maxLoopNesting action.steps ↔
      ∀ place ∈ preorderAll 0 action.steps, place.Within config.maxLoopNesting :=
    Step.pathsWithin_iff.trans Step.depths_le_iff.symm
  rw [issues_eq, List.append_eq_nil_iff, List.map_eq_nil_iff, triggerFaults_eq_nil, reports_eq_nil,
    ← listing_ids]
  constructor
  · rintro ⟨trigger, -, distinct, each⟩
    refine ⟨trigger, distinct, ?_, shallow.mpr fun place among => (each place among).2⟩
    intro step among
    obtain ⟨place, there, rfl⟩ := List.mem_map.mp among
    exact (each place there).1
  · rintro ⟨trigger, distinct, steps, nesting⟩
    exact ⟨trigger, nofun, distinct, fun place among =>
      ⟨steps _ (List.mem_map_of_mem among), shallow.mp nesting place among⟩⟩

/-- Validation finds no issue in just the actions that are well formed. The issues of the trigger come
first, and those of the steps follow in pre-order; every step beyond the first with its id has an issue for
it, and one is for a loop that is nested too deep just where some tree of steps is deeper than the limit. -/
theorem Action.issues_exact (config : Config) (action : Action) :
    (action.issues config = [] ↔ action.WellFormed config) ∧
      action.issues config = (triggerFaults action.trigger).map (⟨none, ·⟩) ++
        reports config [] (preorderAll 0 action.steps) ∧
      (action.issues config).countP (·.fault = .duplicateId) =
        (listing action.steps).length - ((listing action.steps).map (·.id)).dedup.length ∧
      ((∃ issue ∈ action.issues config, ∃ depth limit, issue.fault = .nestedTooDeep depth limit) ↔
        ∃ step ∈ action.steps, config.maxLoopNesting < step.loopDepth) := by
  have first := trigger_issues action.trigger
  refine ⟨issues_eq_nil config action, issues_eq config action, ?_, ?_⟩
  · have none : ((triggerFaults action.trigger).map (ValidationIssue.mk none)).countP
        (·.fault = .duplicateId) = 0 :=
      List.countP_eq_zero.mpr fun issue among same => (first issue among).1 (of_decide_eq_true same)
    have counted := reports_countP_duplicateId config [] (preorderAll 0 action.steps)
    have distinct : ((ids (preorderAll 0 action.steps)).reverse ++ []).dedup.length =
        ((listing action.steps).map (·.id)).dedup.length := by
      rw [List.append_nil, listing_ids]
      exact (List.reverse_perm _).dedup.length_eq
    have every : (listing action.steps).length = (preorderAll 0 action.steps).length :=
      List.length_map _
    rw [issues_eq, List.countP_append, none]
    simp only [distinct, List.dedup_nil, List.length_nil] at counted
    omega
  · have deep : (∃ place ∈ preorderAll 0 action.steps, ¬ place.Within config.maxLoopNesting) ↔
        ∃ step ∈ action.steps, config.maxLoopNesting < step.loopDepth := by
      have limited : (∀ place ∈ preorderAll 0 action.steps, place.Within config.maxLoopNesting) ↔ _ :=
        Step.depths_le_iff
      rw [← not_iff_not]
      simpa using limited
    rw [← deep, ← nestedTooDeep_mem_reports [], issues_eq]
    constructor
    · rintro ⟨issue, among, depth, limit, nested⟩
      rcases List.mem_append.mp among with own | found
      · exact absurd nested ((first issue own).2 depth limit)
      · exact ⟨issue, found, depth, limit, nested⟩
    · rintro ⟨issue, found, nested⟩
      exact ⟨issue, List.mem_append_right _ found, nested⟩

end Automation
