import Automation.Proofs.Decode.Reads
import Automation.Proofs.Engine.Interpretation
import Automation.Proofs.Template
import Automation.Validation

/-!
What it means for steps to have no faults. Filling in placeholders changes no number, so a loop is
admitted with the bound that was checked, and the depth that was counted from above is the one that it
runs at.
-/
namespace Automation

open Json (Value Members)

namespace Validation

/-- No step has a fault where these stand inside so many loops. -/
def Faultless (config : Config) (depth : Nat) (steps : List Step) : Prop :=
  ∃ seen, (stepsIssues config depth seen steps).1 = []

/-- Neither the step itself nor any inside it has a fault. -/
structure Sound (config : Config) (depth : Nat) (step : Step) : Prop where
  own : ∃ seen, stepFaults config depth seen step = []
  thenSteps : Faultless config (childDepth step.type depth) step.thenSteps
  elseSteps : Faultless config (childDepth step.type depth) step.elseSteps
  steps : Faultless config (childDepth step.type depth) step.steps

variable {config : Config} {depth : Nat} {step : Step} {rest : List Step}

theorem Faultless.cons (h : Faultless config depth (step :: rest)) :
    Sound config depth step ∧ Faultless config depth rest := by
  obtain ⟨id, type, name, settings, thenSteps, elseSteps, steps⟩ := step
  obtain ⟨seen, none⟩ := h
  simp only [stepsIssues, stepIssues, List.append_eq_nil_iff, List.map_eq_nil_iff] at none
  obtain ⟨⟨⟨⟨own, first⟩, second⟩, third⟩, others⟩ := none
  exact ⟨⟨⟨_, own⟩, ⟨_, first⟩, ⟨_, second⟩, ⟨_, third⟩⟩, ⟨_, others⟩⟩

theorem Sound.known (h : Sound config depth step) (name : String) : step.type ≠ .unknown name := by
  intro unknown
  obtain ⟨seen, none⟩ := h.own
  simp [stepFaults, unknown] at none

/-- The bound of a loop is a number, and within the limits of the engine. -/
theorem Sound.bounds (h : Sound config depth step) (loop : step.type = .loop) :
    depth < config.maxLoopNesting ∧
      ∃ n, (step.config.member? "maxIterations").bind (·.asNat64?) = some (n + 1) ∧
        n < config.maxLoopIterations := by
  obtain ⟨seen, none⟩ := h.own
  simp only [stepFaults, loop, loopFaults, List.append_eq_nil_iff] at none
  obtain ⟨⟨⟨-, nested, bounded⟩, -⟩, -⟩ := none
  have shallow : ¬ config.maxLoopNesting < depth + 1 := by simpa using nested
  refine ⟨by omega, ?_⟩
  split at bounded
  · cases bounded
  · cases bounded
  · next n positive found =>
    obtain ⟨n, rfl⟩ := Nat.exists_eq_succ_of_ne_zero positive
    have few : ¬ config.maxLoopIterations < n + 1 := by simpa using bounded
    exact ⟨n, found, by omega⟩

mutual
/-- As many loops as are inside one another may nest so deep. -/
theorem Sound.loopDepth_le : ∀ {step : Step} {depth : Nat}, Sound config depth step →
    depth + step.loopDepth ≤ max depth config.maxLoopNesting
  | ⟨id, type, name, settings, thenSteps, elseSteps, steps⟩, depth, h => by
    have first := h.thenSteps.loopDepths_le
    have second := h.elseSteps.loopDepths_le
    have third := h.steps.loopDepths_le
    by_cases loop : type = .loop
    · have deep := (h.bounds loop).1
      simp only [childDepth, loop, if_true] at first second third
      simp only [Step.loopDepth, loop, if_true]
      omega
    · simp only [childDepth, loop, if_false] at first second third
      simp only [Step.loopDepth, loop, if_false]
      omega

theorem Faultless.loopDepths_le : ∀ {steps : List Step} {depth : Nat}, Faultless config depth steps →
    depth + Step.loopDepths steps ≤ max depth config.maxLoopNesting
  | [], depth, _ => Nat.le_max_left _ _
  | step :: rest, depth, h => by
    have first := h.cons.1.loopDepth_le
    have others := h.cons.2.loopDepths_le
    simp only [Step.loopDepths]
    omega
end

end Validation

open Decode

/-- A number is read as the one that was checked, and no placeholder is in it. -/
private theorem reads_checked (ctx : Context) {v : Value} {n : Nat} (checked : v.asNat64? = some n) :
    Template.resolve ctx v = v ∧ optional nat64 (.ofValue v) = .ok (some n) := by
  cases v with
  | number k =>
    refine ⟨rfl, ?_⟩
    cases k with
    | int i =>
      simp only [Value.asNat64?] at checked
      split at checked
      · next within =>
        cases checked
        change (Except.map Int.toNat
          (if 0 ≤ i ∧ i < 0x10000000000000000 then .ok i else fail _)).map some = _
        rw [if_pos within]
        rfl
      · cases checked
    | float x => cases checked
  | null | bool | string | array | object => cases checked

private theorem gives_maxIterations {find : String → Option Tree} {v : Value} {n : Nat}
    (found : find "maxIterations" = some (.ofValue v))
    (read : optional nat64 (.ofValue v) = .ok (some n)) :
    Command.loopFields.Gives find fun command =>
      ∀ settings, command = .loop settings → settings.maxIterations = some n := by
  refine Record.gives_seq (Record.gives_seq (Record.gives_seq (Record.gives_seq (Record.gives_seq
    (Record.gives_seq (Record.gives_map (Record.gives_true _) ?_) (Record.gives_true _))
    (Record.gives_true _)) (Record.gives_true _)) (Record.gives_true _))
    (Record.gives_withDefault found)) (Record.gives_true _)
  rintro _ _ _ _ _ _ _ _ _ _ _ given _ _ _ ⟨⟩
  exact Except.ok.inj (given.symm.trans read)

/-- A loop has the bound that its settings were checked for, whatever is filled in. -/
theorem maxIterations_of_parse {ctx : Context} {stepId : String} {config : Value} {n : Nat}
    {settings : LoopSettings}
    (checked : (config.member? "maxIterations").bind (·.asNat64?) = some n)
    (parsed : Command.parse .loop stepId (Template.resolve ctx config) = .ok (.loop settings)) :
    settings.maxIterations = some n := by
  obtain ⟨v, found, checked⟩ := Option.bind_eq_some_iff.mp checked
  obtain ⟨same, read⟩ := reads_checked ctx checked
  cases config with
  | object members =>
    have there : Members.get? "maxIterations" (Template.resolveMembers ctx members) = some v := by
      rw [Template.get?_resolveMembers, show Members.get? "maxIterations" members = some v from found]
      exact congrArg some same
    have plain : ∀ field ∈ Command.loopFields.fields, field.aliases = [] := by
      intro field known
      have bare : Command.loopFields.fields.map (·.aliases) = List.replicate 7 [] := rfl
      exact List.eq_of_mem_replicate (bare ▸ List.mem_map_of_mem known)
    have declared : "maxIterations" ∈ Command.loopFields.fields.map (·.name) := by decide
    exact Record.Gives.decode plain declared there
      (fun find found => gives_maxIterations found read) (except_mapError_ok.mp parsed) settings rfl
  | null | bool | number | string | array => cases found

/-- An engine admits every loop that its checks let pass. -/
theorem Validation.Sound.admitted {engine : Engine} {ctx : Context} {step : Step}
    {settings : LoopSettings} (h : Sound engine.config ctx.nestingDepth step)
    (loop : step.type = .loop)
    (parsed : Command.parse step.type step.id (Template.resolve ctx step.config) =
      .ok (.loop settings)) :
    ∃ bounds, engine.loopBounds ctx step.id step.loopDepth settings.maxIterations = .ok bounds := by
  obtain ⟨shallow, n, checked, few⟩ := h.bounds loop
  have deepest := h.loopDepth_le
  rw [loop] at parsed
  rw [maxIterations_of_parse checked parsed, Engine.loopBounds_eq]
  refine ⟨(n + 1, ctx.nestingDepth + 1), ?_⟩
  simp only
  rw [if_neg (by omega), if_neg (by omega), if_neg (by omega)]

end Automation
