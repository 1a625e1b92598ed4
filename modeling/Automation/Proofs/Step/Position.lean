import Automation.Step.Basic

/-!
Where the steps of a tree stand: to each leads one way down, and the loops around a step are those on its
way.
-/
namespace Automation.Step

/-- One of the lists of steps in a step. -/
inductive Part where
  | thenSteps
  | elseSteps
  | steps
  deriving DecidableEq

/-- The way from a step down to one inside it: in which part it goes on, and with which step there. -/
abbrev Way := List (Part × Nat)

/-- Where a step stands in a list of steps: with which of them its way begins, and how it goes on. -/
abbrev Position := Nat × Way

def part (step : Step) : Part → List Step
  | .thenSteps => step.thenSteps
  | .elseSteps => step.elseSteps
  | .steps => step.steps

/-- A loop is one level of nesting, and nothing else is. -/
def level (step : Step) : Nat := if step.type = .loop then 1 else 0

/-- The step at the end of a way. -/
def at? : Way → Step → Option Step
  | [], step => some step
  | (part, index) :: way, step => (step.part part)[index]?.bind (at? way)

/-- How many loops are around the step at the end of a way, from this step on. -/
def loopsOn : Way → Step → Nat
  | [], _ => 0
  | (part, index) :: way, step => step.level + ((step.part part)[index]?.map (loopsOn way)).getD 0

/-- The step at a position. -/
def find? (steps : List Step) (position : Position) : Option Step :=
  steps[position.1]?.bind (at? position.2)

/-- How many loops are around the step at a position. -/
def loopsAround (steps : List Step) (position : Position) : Nat :=
  (steps[position.1]?.map (loopsOn position.2)).getD 0

mutual
/-- How many steps there are in a step, itself among them. -/
def count : Step → Nat
  | ⟨_, _, _, _, thenSteps, elseSteps, steps⟩ =>
    1 + (countAll thenSteps + countAll elseSteps + countAll steps)
termination_by structural step => step

def countAll : List Step → Nat
  | [] => 0
  | step :: rest => count step + countAll rest
termination_by structural steps => steps
end

/-- The way to a position in a part of a step. -/
def Position.under (part : Part) (position : Position) : Way := (part, position.1) :: position.2

/-- The position that a way leads to from the first step of a list. -/
def Way.first (way : Way) : Position := (0, way)

/-- The same position when there is one more step in front. -/
def Position.later (position : Position) : Position := (position.1 + 1, position.2)

theorem Position.under_injective (part : Part) : Function.Injective (Position.under part) := by
  rintro ⟨index, way⟩ ⟨index', way'⟩ same
  injection same with head tail
  injection head with _ place
  exact Prod.ext place tail

theorem Way.first_injective : Function.Injective Way.first := by
  intro way way' same
  injection same

theorem Position.later_injective : Function.Injective Position.later := by
  rintro ⟨index, way⟩ ⟨index', way'⟩ same
  injection same with place tail
  exact Prod.ext (Nat.succ.inj place) tail

variable (step : Step) (rest : List Step) (way : Way) (position : Position)

@[simp] theorem at?_under (part : Part) :
    at? (position.under part) step = find? (step.part part) position := rfl

@[simp] theorem loopsOn_under (part : Part) : loopsOn (position.under part) step =
    step.level + loopsAround (step.part part) position := rfl

@[simp] theorem find?_first : find? (step :: rest) way.first = at? way step := rfl

@[simp] theorem loopsAround_first : loopsAround (step :: rest) way.first = loopsOn way step := rfl

@[simp] theorem find?_later : find? (step :: rest) position.later = find? rest position := rfl

@[simp] theorem loopsAround_later :
    loopsAround (step :: rest) position.later = loopsAround rest position := rfl

theorem count_pos : 0 < step.count := by
  obtain ⟨id, type, name, config, thenSteps, elseSteps, steps⟩ := step
  rw [count]
  omega

theorem countAll_part_lt (part : Part) : countAll (step.part part) < step.count := by
  obtain ⟨id, type, name, config, thenSteps, elseSteps, steps⟩ := step
  rw [count]
  cases part <;> simp only [Step.part] <;> omega

private theorem loopDepths_part (part : Part) :
    step.level + loopDepths (step.part part) ≤ step.loopDepth := by
  obtain ⟨id, type, name, config, thenSteps, elseSteps, steps⟩ := step
  rw [loopDepth, level]
  cases part <;> simp only [Step.part] <;> split <;> omega

/-- A loop is one of the loops on the paths from it down. -/
theorem loopDepth_pos {step : Step} (loop : step.type = .loop) : 0 < step.loopDepth := by
  obtain ⟨id, type, name, config, thenSteps, elseSteps, steps⟩ := step
  rw [loopDepth, if_pos loop]
  exact Nat.succ_pos _

private theorem loopDepth_le {steps : List Step} {index : Nat} {step : Step}
    (there : steps[index]? = some step) : step.loopDepth ≤ loopDepths steps := by
  induction steps generalizing index with
  | nil => cases there
  | cons first rest ih =>
    rw [loopDepths]
    cases index with
    | zero =>
      cases there
      exact Nat.le_max_left _ _
    | succ index => exact Nat.le_trans (ih there) (Nat.le_max_right _ _)

/-- Nowhere on its way down are more loops than the depth of a step tells. -/
theorem loopsOn_le {way : Way} {step inner : Step} (ends : at? way step = some inner) :
    loopsOn way step + inner.loopDepth ≤ step.loopDepth := by
  induction way generalizing step with
  | nil =>
    cases ends
    exact Nat.le_of_eq (Nat.zero_add _)
  | cons first way ih =>
    obtain ⟨part, index⟩ := first
    obtain ⟨next, there, ends⟩ := Option.bind_eq_some_iff.mp ends
    have below := ih ends
    have within := loopDepth_le there
    have whole := step.loopDepths_part part
    have around : loopsOn ((part, index) :: way) step = step.level + loopsOn way next := by
      rw [loopsOn, there]
      rfl
    omega

end Automation.Step
