import Automation.Engine.Lifecycle
import Automation.Proofs.Engine.RecordWrites
import Automation.Proofs.Step.Command
import Automation.Proofs.Template

/-!
What steps that change keys of records come to when nobody else does anything: the keys that they look
at, the values that they write and their results. A step comes to the same among other records if the
keys that it looks at hold the same there.
-/
namespace Automation

open Json (Value)

/-- The type of steps that change one key of a record. -/
def StepType.ChangesField (type : StepType) : Prop :=
  type ∈ [updateField, clearField, copyField, transformField]

instance (type : StepType) : Decidable type.ChangesField :=
  inferInstanceAs (Decidable (type ∈ [_, _, _, _]))

/-- The only commands of such steps are changes of a key. -/
theorem StepType.ChangesField.command {type : StepType} {stepId : String} {config : Value}
    {command : Command} (changes : type.ChangesField)
    (parsed : Command.parse type stepId config = .ok command) :
    ∃ change recordId, command = .primitive (.field change recordId) := by
  have suits := Command.suits_of_parse parsed
  cases command with
  | condition conditions subject =>
    cases suits
    exact absurd changes (by decide)
  | loop settings =>
    cases suits
    exact absurd changes (by decide)
  | primitive p =>
    have typed : p.type.ChangesField := Command.type_of_parse parsed ▸ changes
    cases p with
    | field change recordId => exact ⟨change, recordId, rfl⟩
    | list command =>
      cases command <;> simp [StepType.ChangesField, Primitive.type] at typed
    | _ => simp [StepType.ChangesField, Primitive.type] at typed

/-- The result with other times. -/
def StepResult.timeless (r : StepResult) : StepResult :=
  { r with startedAt := ⟨0, 0⟩, completedAt := ⟨0, 0⟩ }

/-- The keys of its record that the value to write is made of or told of. -/
def FieldCommand.reads : FieldCommand → List String
  | update field _ | clear field | transform field _ _ _ _ => [field]
  | copy source _ => [source]

namespace Engine

/-- What a command changes depends on the keys that it reads and the one that it writes. -/
theorem FieldCommand.change_congr {command : FieldCommand} {record other : Document}
    (read : ∀ key ∈ command.reads, fieldValue record key = fieldValue other key)
    (written : ∀ c, FieldCommand.change record command = .ok c →
      fieldValue record c.change.field = fieldValue other c.change.field) :
    FieldCommand.change record command = FieldCommand.change other command := by
  cases command with
  | update field value =>
    have before := written _ rfl
    simp only [FieldCommand.change, DataChange.setting] at before ⊢
    rw [before]
  | clear field =>
    have before := written _ rfl
    simp only [FieldCommand.change] at before ⊢
    rw [before]
  | copy source target =>
    have value := read source (List.mem_singleton_self _)
    have before := written _ rfl
    simp only [FieldCommand.change, DataChange.setting] at before ⊢
    rw [value, before]
  | transform field name target amount decimals =>
    have value := read field (List.mem_singleton_self _)
    simp only [FieldCommand.change, value] at written ⊢
    cases made : Transform.applyNamed name (fieldValue other field) amount decimals with
    | error e => rfl
    | ok new =>
      rw [made] at written
      have before := written _ rfl
      simp only [DataChange.setting] at before
      change Except.ok _ = Except.ok _
      simp only [DataChange.setting, before]

end Engine

/-- A record that has to be there and in the workspace. -/
def RecordView.required (V : RecordView) (workspaceId id : String) : Except StepError Document :=
  match V id with
  | none => .error (.store (.notFound .records id))
  | some doc => if doc.inWorkspace workspaceId then .ok doc
    else .error (.store (.wrongWorkspace .records doc.id))

theorem RecordView.eq_some_of_required {V : RecordView} {workspaceId id : String} {doc : Document}
    (h : V.required workspaceId id = .ok doc) : V id = some doc := by
  unfold required at h
  split at h
  · cases h
  · next found =>
    split at h
    · cases h
      exact found
    · cases h

/-- What a step comes to: the keys of records that it looks at, what it writes and its output. -/
structure FieldDeed where
  touches : List (String × String)
  outcome : Except StepError (RecordWrite × Value)

/-- What a command changes in a record of the workspace. -/
def FieldCommand.changeIn (command : FieldCommand) (V : RecordView) (workspaceId id : String) :
    Except StepError Engine.DataChange := do
  let record ← V.required workspaceId id
  Engine.FieldCommand.change record command

/-- What a change of a key comes to. The key that is written counts as looked at. -/
def FieldCommand.deed (command : FieldCommand) (V : RecordView) (ctx : Context)
    (recordId : Option String) : FieldDeed :=
  match Engine.targetId ctx recordId with
  | .error e => ⟨[], .error e⟩
  | .ok id =>
    let reads := command.reads.map fun key => (id, key)
    match command.changeIn V ctx.workspaceId id with
    | .error e => ⟨reads, .error e⟩
    | .ok c => ⟨(id, c.change.field) :: reads, .ok (⟨id, c.change.field, c.value⟩,
        .ofPairs (("recordId", .string id) :: c.output))⟩

theorem FieldCommand.deed_of_target {command : FieldCommand} {V : RecordView} {ctx : Context}
    {recordId : Option String} {id : String} (target : Engine.targetId ctx recordId = .ok id) :
    (command.deed V ctx recordId).outcome = (command.changeIn V ctx.workspaceId id).map fun c =>
      (⟨id, c.change.field, c.value⟩, .ofPairs (("recordId", .string id) :: c.output)) := by
  simp only [deed, target]
  cases command.changeIn V ctx.workspaceId id <;> rfl

/-- What a step that changes a key comes to; others are not looked at. -/
def Step.deed (step : Step) (V : RecordView) (ctx : Context) : FieldDeed :=
  match Command.parse step.type step.id (Template.resolve ctx step.config) with
  | .ok (.primitive (.field command recordId)) => command.deed V ctx recordId
  | .ok _ => ⟨[], .error (.validation "")⟩
  | .error e => ⟨[], .error e⟩

/-- What steps come to, one after another. No times are told of the results. -/
structure FieldPlan where
  touches : List (String × String)
  writes : List RecordWrite
  results : List StepResult

/-- The first step that fails is the last one. -/
def FieldPlan.ofSteps (V : RecordView) : List Step → Context → FieldPlan
  | [], _ => ⟨[], [], []⟩
  | step :: rest, ctx =>
    let deed := step.deed V ctx
    match deed.outcome with
    | .error e => ⟨deed.touches, [], [.failed step ⟨0, 0⟩ ⟨0, 0⟩ e.message none]⟩
    | .ok (w, output) =>
      let others := ofSteps (V.write w) rest (ctx.withOutput step.id output)
      ⟨deed.touches ++ others.touches, w :: others.writes,
        .completed step ⟨0, 0⟩ ⟨0, 0⟩ output :: others.results⟩

/-- What a run of the action comes to on its own, if all of its steps change keys. -/
def Action.fieldPlan (action : Action) (occasion : Occasion) (V : RecordView) : FieldPlan :=
  .ofSteps V action.steps (.initial action.workspaceId occasion.actorId occasion.record none)

namespace FieldCommand

variable {command : FieldCommand} {V V' : RecordView} {ctx : Context} {recordId : Option String}

private theorem changeIn_congr {workspaceId id : String}
    (read : ∀ key ∈ command.reads, V.seen (id, key) = V'.seen (id, key))
    (written : ∀ c, command.changeIn V workspaceId id = .ok c →
      V.seen (id, c.change.field) = V'.seen (id, c.change.field)) :
    command.changeIn V workspaceId id = command.changeIn V' workspaceId id := by
  obtain ⟨key, known⟩ : ∃ key, key ∈ command.reads := by
    cases command <;> exact ⟨_, List.mem_singleton_self _⟩
  have first := read key known
  unfold changeIn RecordView.required at written ⊢
  simp only [RecordView.seen] at read written first
  cases found : V id with
  | none =>
    rw [found] at first
    rw [Option.map_eq_none_iff.mp first.symm]
  | some doc =>
    rw [found] at first
    obtain ⟨doc', found', same⟩ := Option.map_eq_some_iff.mp first.symm
    simp only [found, found', Option.map_some, Option.some.injEq, Prod.mk.injEq] at read written same ⊢
    rw [Document.inWorkspace, Document.inWorkspace, same.1, same.2.1] at *
    split
    · next here =>
      simp only [if_pos here] at written
      exact Engine.FieldCommand.change_congr (fun key known => (read key known).2.2)
        fun c made => (written c made).2.2
    · rfl

/-- A change comes to the same where the keys that it looks at hold the same. -/
theorem deed_congr (same : ∀ place ∈ (command.deed V ctx recordId).touches,
    V.seen place = V'.seen place) : command.deed V ctx recordId = command.deed V' ctx recordId := by
  unfold deed at same ⊢
  cases target : Engine.targetId ctx recordId with
  | error e => rfl
  | ok id =>
    simp only [target] at same ⊢
    have changes : command.changeIn V ctx.workspaceId id = command.changeIn V' ctx.workspaceId id := by
      refine changeIn_congr (fun key known => same _ ?_) fun c made => same _ ?_
      · have known := List.mem_map_of_mem (f := fun key => (id, key)) known
        cases command.changeIn V ctx.workspaceId id with
        | error e => exact known
        | ok c => exact List.mem_cons_of_mem _ known
      · rw [made]
        exact List.mem_cons_self
    rw [changes]

end FieldCommand

/-- A step comes to the same where the keys that it looks at hold the same. -/
theorem Step.deed_congr {step : Step} {V V' : RecordView} {ctx : Context}
    (same : ∀ place ∈ (step.deed V ctx).touches, V.seen place = V'.seen place) :
    step.deed V ctx = step.deed V' ctx := by
  unfold Step.deed at same ⊢
  split
  · next command recordId parsed =>
    simp only [parsed] at same
    exact FieldCommand.deed_congr same
  · rfl
  · rfl

private theorem FieldCommand.place_mem_deed {command : FieldCommand} {V : RecordView} {ctx : Context}
    {recordId : Option String} {w : RecordWrite} {output : Value}
    (made : (command.deed V ctx recordId).outcome = .ok (w, output)) :
    w.place ∈ (command.deed V ctx recordId).touches := by
  unfold deed at made ⊢
  cases target : Engine.targetId ctx recordId with
  | error e =>
    rw [target] at made
    cases made
  | ok id =>
    simp only [target] at made ⊢
    cases changed : command.changeIn V ctx.workspaceId id with
    | error e =>
      rw [changed] at made
      cases made
    | ok c =>
      rw [changed] at made
      cases made
      exact List.mem_cons_self

/-- What is written counts as looked at. -/
theorem FieldPlan.place_mem_touches {V : RecordView} {steps : List Step} {ctx : Context} {w : RecordWrite}
    (h : w ∈ (ofSteps V steps ctx).writes) : w.place ∈ (ofSteps V steps ctx).touches := by
  induction steps generalizing V ctx with
  | nil => cases h
  | cons step rest ih =>
    unfold ofSteps at h ⊢
    cases outcome : (step.deed V ctx).outcome with
    | error e =>
      simp only [outcome] at h
      cases h
    | ok deed =>
      obtain ⟨first, output⟩ := deed
      simp only [outcome] at h ⊢
      rcases List.mem_cons.mp h with rfl | h
      · refine List.mem_append_left _ ?_
        unfold Step.deed at outcome ⊢
        split at outcome
        · exact FieldCommand.place_mem_deed outcome
        · cases outcome
        · cases outcome
      · exact List.mem_append_right _ (ih h)

/-- Steps come to the same in all runs. -/
theorem FieldPlan.ofSteps_executionId (executionId : Option String) (steps : List Step) (V : RecordView)
    (ctx : Context) : ofSteps V steps { ctx with executionId } = ofSteps V steps ctx := by
  induction steps generalizing V ctx with
  | nil => rfl
  | cons step rest ih =>
    have same : step.deed V { ctx with executionId } = step.deed V ctx := by
      unfold Step.deed
      rw [Template.resolve_executionId]
      rfl
    unfold ofSteps
    rw [same]
    dsimp only
    split
    · rfl
    · next w output _ =>
      have others : ofSteps (V.write w) rest ({ ctx with executionId }.withOutput step.id output) =
        ofSteps (V.write w) rest (ctx.withOutput step.id output) :=
          ih (V.write w) (ctx.withOutput step.id output)
      rw [others]

end Automation
