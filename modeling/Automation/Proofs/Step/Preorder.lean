import Automation.Proofs.Step.Position

/-!
The steps of a tree one after another, each before those inside it. On the way down to some leaf are as
many loops as the depth of the tree tells.
-/
namespace Automation.Step

/-- A step of a tree, and how many loops are around it. -/
structure Placed where
  loops : Nat
  step : Step

mutual
/-- The step and all inside it in pre-order, where the step itself stands inside so many loops. -/
def preorder (loops : Nat) : Step → List Placed
  | ⟨id, type, name, config, thenSteps, elseSteps, steps⟩ =>
    let step : Step := ⟨id, type, name, config, thenSteps, elseSteps, steps⟩
    ⟨loops, step⟩ :: (preorderAll (loops + step.level) thenSteps ++
      preorderAll (loops + step.level) elseSteps ++ preorderAll (loops + step.level) steps)
termination_by structural step => step

def preorderAll (loops : Nat) : List Step → List Placed
  | [] => []
  | step :: rest => preorder loops step ++ preorderAll loops rest
termination_by structural steps => steps
end

/-- There are fewer loops around a loop than the limit. -/
def Placed.Within (limit : Nat) (place : Placed) : Prop :=
  place.step.type = .loop → place.loops < limit

/-- Steps and all inside them, in pre-order. -/
def listing (steps : List Step) : List Step := (preorderAll 0 steps).map (·.step)

/-- No way down from one of the steps to a leaf passes more loops than the limit. -/
def PathsWithin (limit : Nat) (steps : List Step) : Prop :=
  ∀ position leaf, find? steps position = some leaf → leaf.children = [] →
    loopsAround steps position + leaf.level ≤ limit

section Children

mutual
/-- What passes from the steps directly inside a step to the step holds of every tree. -/
theorem induct {P : Step → Prop} (node : ∀ step, (∀ inner ∈ step.children, P inner) → P step) :
    ∀ step, P step
  | ⟨id, type, name, config, thenSteps, elseSteps, steps⟩ => by
    refine node _ ?_
    simp only [children, List.forall_mem_append]
    exact ⟨⟨inductAll node thenSteps, inductAll node elseSteps⟩, inductAll node steps⟩

theorem inductAll {P : Step → Prop} (node : ∀ step, (∀ inner ∈ step.children, P inner) → P step) :
    ∀ steps : List Step, ∀ step ∈ steps, P step
  | [] => by simp
  | step :: rest => List.forall_mem_cons.mpr ⟨induct node step, inductAll node rest⟩
end

theorem loopDepths_append (steps others : List Step) :
    loopDepths (steps ++ others) = max (loopDepths steps) (loopDepths others) := by
  induction steps with
  | nil => simp [loopDepths]
  | cons step rest ih => simp only [List.cons_append, loopDepths, ih, Nat.max_assoc]

theorem loopDepth_eq (step : Step) :
    step.loopDepth = step.level + loopDepths step.children := by
  obtain ⟨id, type, name, config, thenSteps, elseSteps, steps⟩ := step
  simp only [loopDepth, level, children, loopDepths_append]
  split <;> omega

theorem preorderAll_append (loops : Nat) (steps others : List Step) :
    preorderAll loops (steps ++ others) = preorderAll loops steps ++ preorderAll loops others := by
  induction steps with
  | nil => rfl
  | cons step rest ih => simp only [List.cons_append, preorderAll, ih, List.append_assoc]

theorem preorder_eq (loops : Nat) (step : Step) :
    preorder loops step = ⟨loops, step⟩ :: preorderAll (loops + step.level) step.children := by
  obtain ⟨id, type, name, config, thenSteps, elseSteps, steps⟩ := step
  simp only [preorder, children, preorderAll_append]

private theorem steps_of_each {steps : List Step} (each : ∀ step ∈ steps, ∀ loops other,
    (preorder loops step).map (·.step) = (preorder other step).map (·.step)) (loops other : Nat) :
    (preorderAll loops steps).map (·.step) = (preorderAll other steps).map (·.step) := by
  induction steps with
  | nil => rfl
  | cons step rest ih =>
    rw [List.forall_mem_cons] at each
    rw [preorderAll, preorderAll, List.map_append, List.map_append, each.1 loops other, ih each.2]

private theorem steps_preorder (step : Step) : ∀ loops other,
    (preorder loops step).map (·.step) = (preorder other step).map (·.step) := by
  induction step using induct with
  | node step ih =>
    intro loops other
    rw [preorder_eq, preorder_eq, List.map_cons, List.map_cons, steps_of_each ih]

/-- The loops around steps are no matter for their order. -/
theorem steps_preorderAll (loops : Nat) (steps : List Step) :
    (preorderAll loops steps).map (·.step) = listing steps :=
  steps_of_each (fun step _ => steps_preorder step) loops 0

theorem listing_append (steps others : List Step) :
    listing (steps ++ others) = listing steps ++ listing others := by
  rw [listing, preorderAll_append, List.map_append, listing, listing]

theorem listing_first (step : Step) (rest : List Step) :
    listing (step :: rest) = listing [step] ++ listing rest := listing_append [step] rest

/-- A step stands before those inside it, and these before the steps behind it. -/
theorem listing_cons (step : Step) (rest : List Step) :
    listing (step :: rest) = step :: (listing step.children ++ listing rest) := by
  rw [listing, preorderAll, preorder_eq, List.map_append, List.map_cons, steps_preorderAll,
    steps_preorderAll]
  rfl

theorem listing_part_sublist (step : Step) (part : Part) :
    (listing (step.part part)).Sublist (listing step.children) := by
  rw [children, listing_append, listing_append]
  cases part with
  | thenSteps => exact (List.sublist_append_left _ _).trans (List.sublist_append_left _ _)
  | elseSteps => exact (List.sublist_append_right _ _).trans (List.sublist_append_left _ _)
  | steps => exact List.sublist_append_right _ _

/-- What is inside a step is among what the step is listed with. -/
theorem mem_listing_of_part {step inner : Step} {part : Part} (inside : inner ∈ listing (step.part part)) :
    inner ∈ listing [step] := by
  rw [listing_cons]
  exact List.mem_cons_of_mem _ (List.mem_append_left _ ((step.listing_part_sublist part).mem inside))

theorem exists_part {step inner : Step} (inside : inner ∈ step.children) :
    ∃ part, inner ∈ step.part part := by
  simp only [children, List.mem_append] at inside
  rcases inside with (first | second) | third
  · exact ⟨.thenSteps, first⟩
  · exact ⟨.elseSteps, second⟩
  · exact ⟨.steps, third⟩

end Children

/-- The steps of a list and the parts of the steps inside them: what runs one after another in a tree. -/
def Sequence (steps sequence : List Step) : Prop :=
  sequence = steps ∨ ∃ outer ∈ listing steps, ∃ part, sequence = outer.part part

private theorem listing_sublist_of_mem {step : Step} {steps : List Step} (among : step ∈ steps) :
    (listing [step]).Sublist (listing steps) := by
  obtain ⟨front, back, rfl⟩ := List.append_of_mem among
  rw [listing_append, listing_first step back]
  exact (List.sublist_append_left _ _).trans (List.sublist_append_right _ _)

private theorem exists_of_mem_listing {inner : Step} {steps : List Step} (among : inner ∈ listing steps) :
    ∃ step ∈ steps, inner ∈ listing [step] := by
  induction steps with
  | nil => cases among
  | cons step rest ih =>
    rw [listing_first, List.mem_append] at among
    rcases among with first | others
    · exact ⟨step, List.mem_cons_self, first⟩
    · obtain ⟨other, known, inside⟩ := ih others
      exact ⟨other, List.mem_cons_of_mem _ known, inside⟩

/-- Wherever a step is listed, all inside it is listed behind it. -/
private theorem listing_sublist (step : Step) :
    ∀ inner ∈ listing [step], (listing [inner]).Sublist (listing [step]) := by
  induction step using induct with
  | node step ih =>
    intro inner among
    have whole : listing [step] = step :: listing step.children := by
      rw [listing_cons, show listing [] = [] from rfl, List.append_nil]
    rw [whole, List.mem_cons] at among
    rcases among with rfl | among
    · exact List.Sublist.refl _
    · obtain ⟨child, known, inside⟩ := exists_of_mem_listing among
      rw [whole]
      exact ((ih child known inner inside).trans (listing_sublist_of_mem known)).cons step

/-- Whatever a sequence of a tree lists is listed in the tree. -/
theorem Sequence.listing_sublist {steps sequence : List Step} (h : Sequence steps sequence) :
    (listing sequence).Sublist (listing steps) := by
  rcases h with rfl | ⟨outer, among, part, rfl⟩
  · exact List.Sublist.refl _
  · obtain ⟨step, known, inside⟩ := exists_of_mem_listing among
    have below : (listing (outer.part part)).Sublist (listing [outer]) := by
      rw [listing_cons]
      exact ((outer.listing_part_sublist part).trans (List.sublist_append_left _ _)).cons outer
    exact below.trans ((Step.listing_sublist step outer inside).trans (listing_sublist_of_mem known))

variable {limit loops : Nat} {steps : List Step}

theorem loopDepths_le_iff : loopDepths steps ≤ limit ↔ ∀ step ∈ steps, step.loopDepth ≤ limit := by
  induction steps with
  | nil => simp [loopDepths]
  | cons step rest ih => rw [loopDepths, Nat.max_le, ih, List.forall_mem_cons]

private theorem exists_deepest_step (among : steps ≠ []) :
    ∃ step ∈ steps, loopDepths steps ≤ step.loopDepth := by
  induction steps with
  | nil => exact absurd rfl among
  | cons step rest ih =>
    rw [loopDepths]
    by_cases deeper : loopDepths rest ≤ step.loopDepth
    · exact ⟨step, List.mem_cons_self, Nat.max_le.mpr ⟨Nat.le_refl _, deeper⟩⟩
    · have others : rest ≠ [] := by
        rintro rfl
        exact deeper (Nat.zero_le _)
      obtain ⟨inner, inside, deepest⟩ := ih others
      exact ⟨inner, List.mem_cons_of_mem _ inside, by omega⟩

theorem mem_preorderAll {place : Placed} :
    place ∈ preorderAll loops steps ↔ ∃ step ∈ steps, place ∈ preorder loops step := by
  induction steps with
  | nil => simp [preorderAll]
  | cons step rest ih => simp [preorderAll, ih]

/-- No loop of a list is too deep just where none of any of its trees is. -/
private theorem depths_le_of (within : loops ≤ limit)
    (each : ∀ step ∈ steps, (∀ place ∈ preorder loops step, place.Within limit) ↔
      loops + step.loopDepth ≤ limit) :
    (∀ place ∈ preorderAll loops steps, place.Within limit) ↔
      loops + loopDepths steps ≤ limit := by
  have fits : loops + loopDepths steps ≤ limit ↔ loopDepths steps ≤ limit - loops := by omega
  rw [fits, loopDepths_le_iff]
  constructor
  · intro all step inside
    have := (each step inside).mp fun place among => all place (mem_preorderAll.mpr ⟨step, inside, among⟩)
    omega
  · intro all place among
    obtain ⟨step, inside, among⟩ := mem_preorderAll.mp among
    have := all step inside
    exact (each step inside).mpr (by omega) place among

private theorem depth_le_iff (step : Step) : ∀ {loops : Nat}, loops ≤ limit →
    ((∀ place ∈ preorder loops step, place.Within limit) ↔ loops + step.loopDepth ≤ limit) := by
  induction step using induct with
  | node step ih =>
    intro loops within
    rw [preorder_eq, List.forall_mem_cons, loopDepth_eq, ← Nat.add_assoc]
    have own : Placed.Within limit ⟨loops, step⟩ ↔ loops + step.level ≤ limit := by
      rw [Placed.Within, level]
      split
      · next loop => exact ⟨fun own => own loop, fun fits _ => fits⟩
      · next other => simp [other, within]
    rw [own]
    by_cases fits : loops + step.level ≤ limit
    · rw [depths_le_of fits fun inner among => ih inner among fits]
      exact and_iff_right fits
    · exact iff_of_false (fun all => fits all.1) (by omega)

/-- No loop in pre-order is too deep just where no tree is deeper than the limit. -/
theorem depths_le_iff : (∀ place ∈ preorderAll 0 steps, place.Within limit) ↔
    ∀ step ∈ steps, step.loopDepth ≤ limit := by
  rw [depths_le_of (Nat.zero_le _) fun step _ => depth_le_iff step (Nat.zero_le _), Nat.zero_add,
    loopDepths_le_iff]

/-- Some way down to a leaf passes as many loops as the depth of the step tells. -/
private theorem exists_deepest (step : Step) : ∃ way leaf, at? way step = some leaf ∧
    leaf.children = [] ∧ step.loopDepth ≤ loopsOn way step + leaf.level := by
  induction step using induct with
  | node step ih =>
    by_cases none : step.children = []
    · refine ⟨[], step, rfl, none, ?_⟩
      rw [loopDepth_eq, none, loopDepths, loopsOn, Nat.zero_add]
      exact Nat.le_refl _
    · obtain ⟨inner, inside, deepest⟩ := exists_deepest_step none
      obtain ⟨part, among⟩ := exists_part inside
      obtain ⟨index, there⟩ := List.mem_iff_getElem?.mp among
      obtain ⟨way, leaf, ends, last, passes⟩ := ih inner inside
      refine ⟨(part, index) :: way, leaf, ?_, last, ?_⟩
      · rw [at?, there]
        exact ends
      · rw [loopsOn, there, loopDepth_eq]
        change step.level + loopDepths step.children ≤ step.level + loopsOn way inner + leaf.level
        omega

private theorem leaf_loopDepth {leaf : Step} (last : leaf.children = []) :
    leaf.loopDepth = leaf.level := by
  rw [loopDepth_eq, last, loopDepths, Nat.add_zero]

/-- The depth of each tree is that of its deepest path. -/
theorem pathsWithin_iff : PathsWithin limit steps ↔ ∀ step ∈ steps, step.loopDepth ≤ limit := by
  constructor
  · intro within step inside
    obtain ⟨index, there⟩ := List.mem_iff_getElem?.mp inside
    obtain ⟨way, leaf, ends, last, passes⟩ := exists_deepest step
    have found : find? steps (index, way) = some leaf := by
      rw [find?, there]
      exact ends
    have around : loopsAround steps (index, way) = loopsOn way step := by
      rw [loopsAround, there]
      rfl
    have few := within (index, way) leaf found last
    omega
  · rintro within ⟨index, way⟩ leaf found last
    obtain ⟨step, there, ends⟩ := Option.bind_eq_some_iff.mp found
    have around : loopsAround steps (index, way) = loopsOn way step := by
      rw [loopsAround, there]
      rfl
    have below : loopsOn way step + leaf.loopDepth ≤ step.loopDepth := loopsOn_le ends
    have few := within step (List.mem_of_getElem? there)
    rw [leaf_loopDepth last] at below
    omega

end Automation.Step
