import Automation.Proofs.Engine.ClosingOnce
import Automation.Proofs.Engine.Visits
import Automation.Proofs.Store.Served
import Mathlib.Algebra.Order.BigOperators.Group.List
import Mathlib.Algebra.Order.Group.Nat

/-!
How much a run can do at all. Whatever the store answers, how often a step is attempted is bounded by the
loops around it, and how often all of them are by the size of the action.
-/
namespace Automation.Engine

open Step (Part Way Position)

variable {σ : Type} {engine : Engine} {environment : Program.Environment σ}

/-- What is little enough for each of not too many is little enough for all of them together. -/
private theorem sum_map_le {α : Type} {f : α → Nat} {all : List α} {many most : Nat}
    (few : all.length ≤ many) (little : ∀ a ∈ all, f a ≤ most) : (all.map f).sum ≤ many * most := by
  have bounded : ∀ n ∈ all.map f, n ≤ most := List.forall_mem_map.mpr little
  have total := List.sum_le_card_nsmul _ _ bounded
  rw [List.length_map, smul_eq_mul] at total
  exact total.trans (Nat.mul_le_mul_right most few)

/-- Of the ways into a step that begin in one of its parts, each is as frequent as the position there that
it leads to. -/
private theorem count_inPart {step : Step} {part : Part} {positions : List Position} {most : Nat}
    (few : ∀ position, positions.count position ≤
      most ^ (step.level + Step.loopsAround (step.part part) position)) (way : Way) :
    (([] : Way) :: positions.map (Position.under part)).count way ≤ most ^ Step.loopsOn way step := by
  cases way with
  | nil =>
    have nowhere : (positions.map (Position.under part)).count [] = 0 := by
      apply List.count_eq_zero.mpr
      simp [Position.under]
    rw [List.count_cons_self, nowhere, Step.loopsOn, Nat.pow_zero]
  | cons first way =>
    obtain ⟨other, index⟩ := first
    rw [List.count_cons_of_ne (List.cons_ne_nil _ _).symm]
    by_cases same : other = part
    · subst same
      change (positions.map (Position.under other)).count (Position.under other (index, way)) ≤ _
      rw [List.count_map_of_injective positions _ (Position.under_injective other)]
      exact few (index, way)
    · have elsewhere : (positions.map (Position.under part)).count ((other, index) :: way) = 0 := by
        apply List.count_eq_zero.mpr
        intro there
        obtain ⟨position, -, led⟩ := List.mem_map.mp there
        injection led with head
        injection head with parts
        exact same parts.symm
      rw [elsewhere]
      exact Nat.zero_le _

/-- Positions among the steps are as frequent as the ways into the first step, or as they are among the
others. -/
private theorem count_inSteps {step : Step} {rest : List Step} {ways : List Way}
    {positions : List Position} {most : Nat}
    (first : ∀ way, ways.count way ≤ most ^ Step.loopsOn way step)
    (others : ∀ position, positions.count position ≤ most ^ Step.loopsAround rest position)
    (position : Position) :
    (ways.map Way.first ++ positions.map Position.later).count position ≤
      most ^ Step.loopsAround (step :: rest) position := by
  obtain ⟨index, way⟩ := position
  rw [List.count_append]
  cases index with
  | zero =>
    have later : (positions.map Position.later).count (Way.first way) = 0 := by
      apply List.count_eq_zero.mpr
      simp [Position.later, Way.first]
    change (ways.map Way.first).count (Way.first way) +
      (positions.map Position.later).count (Way.first way) ≤ _
    rw [List.count_map_of_injective ways _ Way.first_injective, later]
    exact first way
  | succ index =>
    have here : (ways.map Way.first).count (Position.later (index, way)) = 0 := by
      apply List.count_eq_zero.mpr
      simp [Position.later, Way.first]
    change (ways.map Way.first).count (Position.later (index, way)) +
      (positions.map Position.later).count (Position.later (index, way)) ≤ _
    rw [List.count_map_of_injective positions _ Position.later_injective, here, Nat.zero_add]
    exact others (index, way)

/-- Each step is attempted at most as often as the loops around it can bring it about together. -/
private theorem charts_count : engine.Charts (σ := σ)
    (fun step _ visits => ∀ way, (visits.map Prod.fst).count way ≤
      engine.config.maxLoopIterations ^ Step.loopsOn way step)
    (fun steps _ visits => ∀ position, (visits.map Prod.fst).count position ≤
      engine.config.maxLoopIterations ^ Step.loopsAround steps position) where
  alone step ctx s := by
    have nothing : ∀ position, ([] : List Position).count position ≤
        engine.config.maxLoopIterations ^
          (step.level + Step.loopsAround (step.part .steps) position) := by
      intro position
      exact Nat.zero_le _
    exact count_inPart nothing
  branch step ctx s part inside condition few := by
    have level : step.level = 0 := if_neg (condition ▸ nofun)
    rw [List.map_cons, map_fst_inPart]
    apply count_inPart
    intro position
    rw [level, Nat.zero_add]
    exact few position
  loop step ctx s maxIterations max depth iterations loop bounds few each := by
    obtain ⟨-, bounded, -⟩ := admitted_of_loopBounds bounds
    have level : step.level = 1 := if_pos loop
    rw [List.map_cons, map_fst_inPart]
    apply count_inPart
    intro position
    have once : ∀ positions ∈ iterations.map (List.map Prod.fst), positions.count position ≤
        engine.config.maxLoopIterations ^ Step.loopsAround step.steps position := by
      simp only [List.mem_map]
      rintro _ ⟨inside, among, rfl⟩
      obtain ⟨item, index, few⟩ := each inside among
      exact few position
    have rounds : (iterations.map (List.map Prod.fst)).length ≤ engine.config.maxLoopIterations := by
      rw [List.length_map]
      exact few.trans bounded
    rw [List.map_flatten, List.count_flatten, level, Nat.pow_add, Nat.pow_one]
    exact sum_map_le rounds once
  ended steps ctx position := Nat.zero_le _
  next step rest ctx next first others same few more := by
    rw [List.map_append, map_fst_inFirst, map_fst_inRest]
    exact count_inSteps few more

/-- A step is attempted, and those in it, at most as often as there are steps in it for each round of the
loops that may still come. -/
private theorem charts_length : engine.Charts (σ := σ)
    (fun step ctx visits => visits.length ≤ step.count *
      max 1 engine.config.maxLoopIterations ^ (engine.config.maxLoopNesting - ctx.nestingDepth))
    (fun steps ctx visits => visits.length ≤ Step.countAll steps *
      max 1 engine.config.maxLoopIterations ^ (engine.config.maxLoopNesting - ctx.nestingDepth)) where
  alone step ctx s := Nat.mul_pos step.count_pos (Nat.pow_pos (Nat.le_max_left _ _))
  branch step ctx s part inside condition few := by
    have rounds := Nat.pow_pos (n := engine.config.maxLoopNesting - ctx.nestingDepth)
      (Nat.le_max_left 1 engine.config.maxLoopIterations)
    have fewer := step.countAll_part_lt part
    rw [List.length_cons, inPart, List.length_map]
    calc _ ≤ _ := Nat.add_le_add few rounds
      _ = _ := (Nat.succ_mul _ _).symm
      _ ≤ _ := Nat.mul_le_mul_right _ fewer
  loop step ctx s maxIterations most depth iterations loop bounds few each := by
    obtain ⟨rfl, bounded, admitted, -⟩ := admitted_of_loopBounds bounds
    have fewer := step.countAll_part_lt .steps
    obtain ⟨more, rest⟩ := Nat.exists_eq_add_of_le admitted
    have here : engine.config.maxLoopNesting - ctx.nestingDepth = more + 1 := by omega
    have inside : engine.config.maxLoopNesting - (ctx.nestingDepth + 1) = more := by omega
    have rounds := Nat.pow_pos (n := more + 1) (Nat.le_max_left 1 engine.config.maxLoopIterations)
    have once : ∀ visits ∈ iterations, visits.length ≤
        Step.countAll step.steps * max 1 engine.config.maxLoopIterations ^ more := by
      intro visits among
      obtain ⟨item, index, few⟩ := each visits among
      rw [← inside]
      exact few
    have all := sum_map_le (few.trans (bounded.trans (Nat.le_max_right 1 _))) once
    rw [← List.length_flatten, Nat.mul_left_comm, ← Nat.pow_succ'] at all
    rw [List.length_cons, inPart, List.length_map, here]
    calc _ ≤ _ := Nat.add_le_add all rounds
      _ = _ := (Nat.succ_mul _ _).symm
      _ ≤ _ := Nat.mul_le_mul_right _ fewer
  ended steps ctx := Nat.zero_le _
  next step rest ctx next first others same few more := by
    rw [same] at more
    rw [List.length_append, inFirst, inRest, List.length_map, List.length_map, Step.countAll, Nat.add_mul]
    exact Nat.add_le_add few more

/-- In a run of an action each attempt is one of a step that stands somewhere in the action, and a step is
attempted at most as often as the bound of a loop to the power of the loops around it, and not at all with
more of them around it than may nest. So there is a bound for all attempts of a run together. -/
theorem run_bounded (engine : Engine) (environment : Program.Environment σ) (action : Action)
    (occasion : Occasion) (s : σ) :
    let visits := engine.runVisits environment action occasion s
    let attempts := engine.runAttempts environment action occasion s
    let most := engine.config.maxLoopIterations
    let deepest := engine.config.maxLoopNesting
    visits.map Prod.snd = attempts ∧
    (∀ v ∈ visits, Step.find? action.steps v.1 = some v.2.step) ∧
    (∀ position, (visits.map Prod.fst).count position ≤
      most ^ Step.loopsAround action.steps position) ∧
    (∀ position, deepest < Step.loopsAround action.steps position →
      position ∉ visits.map Prod.fst) ∧
    attempts.length ≤ Step.countAll action.steps * max 1 most ^ deepest := by
  intro visits attempts most deepest
  have same : visits.map Prod.snd = attempts := map_runVisits action occasion s
  refine ⟨same, fun v there => (stands_of_runVisits there).1, ?_, ?_, ?_⟩
  · intro position
    simp only [visits, runVisits]
    split
    · exact visits_charted_all charts_count action.steps _ _ position
    · exact Nat.zero_le _
  · intro position deep there
    obtain ⟨v, visited, rfl⟩ := List.mem_map.mp there
    obtain ⟨-, depth, shallow⟩ := stands_of_runVisits visited
    omega
  · rw [← same, List.length_map]
    simp only [visits, runVisits]
    split
    · exact visits_charted_all charts_length action.steps (firstContext action occasion _) _
    · exact Nat.zero_le _

section

private def thrice (id : String) (steps : List Step) : Step :=
  ⟨id, .loop, none, .ofPairs [("source", .string "array"),
    ("items", .array [.ofInt 1, .ofInt 2, .ofInt 3]), ("maxIterations", .ofInt 3)], [], [], steps⟩

private def leaf : Step := ⟨"leaf", .condition, none, .ofPairs [("conditions", .array [])], [], [], []⟩

private def twoLoops : Action := { noSteps with steps := [leaf, thrice "outer" [thrice "inner" [leaf]]] }

private def fewRounds : Engine := { bareEngine with config := { maxLoopIterations := 3, maxLoopNesting := 2 } }

/-- Loops that run as often as they may: the step in both is attempted nine times. -/
example :
    let occasion : Occasion := ⟨.manual, none, none⟩
    let visits := fewRounds.runVisits Surroundings.still.environment twoLoops occasion ({}, ())
    (visits.map Prod.fst).count (1, [(.steps, 0), (.steps, 0)]) = 3 ^ 2 ∧ visits.length = 14 := by
  decide +kernel

end

end Automation.Engine
