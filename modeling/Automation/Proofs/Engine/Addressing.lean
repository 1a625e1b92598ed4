import Automation.Proofs.Engine.Attempts
import Automation.Proofs.Engine.Intent
import Automation.Proofs.Engine.LoopItems
import Automation.Proofs.Template.Rendering
import Automation.Proofs.Validation.WellFormed

/-!
What placeholders read while an action runs: the outputs of earlier steps, which only ids without points
and braces lead to, and the item of a loop over records. The item has the id and the creation time of the
record and all keys of its data besides, as they were when the loop started; its object type is not among
them.
-/
namespace Automation

open Json (Value)
open Step (listing)
open Template (Segment placeholder resolve)

namespace Step

mutual
/-- A step leaves outputs of steps inside it and its own. -/
private theorem exists_of_mem_leaves : ∀ (step : Step) (output : Value), ∀ p ∈ step.leaves output,
    ∃ inner ∈ listing [step], inner.id = p.1
  | ⟨id, type, name, config, thenSteps, elseSteps, steps⟩, output, p, left => by
    let step : Step := ⟨id, type, name, config, thenSteps, elseSteps, steps⟩
    have inside (part : Part) (known : ∃ inner ∈ listing (step.part part), inner.id = p.1) :
        ∃ inner ∈ listing [step], inner.id = p.1 :=
      known.imp fun inner ⟨among, same⟩ => ⟨mem_listing_of_part among, same⟩
    rw [leaves, List.mem_append] at left
    rcases left with within | own
    · split at within
      · split at within
        · exact inside .thenSteps (exists_of_mem_leavesAll thenSteps _ p within)
        · exact inside .elseSteps (exists_of_mem_leavesAll elseSteps _ p within)
      · cases within
    · cases List.mem_singleton.mp own
      rw [listing_cons]
      exact ⟨_, List.mem_cons_self, rfl⟩
termination_by structural step => step

private theorem exists_of_mem_leavesAll : ∀ (steps : List Step) (results : List Value),
    ∀ p ∈ leavesAll steps results, ∃ inner ∈ listing steps, inner.id = p.1
  | [], results, p, left => by
    rw [leavesAll] at left
    cases left
  | step :: rest, [], p, left => by
    rw [leavesAll] at left
    cases left
  | step :: rest, result :: results, p, left => by
    rw [leavesAll, List.mem_append] at left
    rw [listing_first]
    rcases left with first | others
    · cases told : toldOutput? result with
      | none =>
        rw [told] at first
        cases first
      | some output =>
        rw [told] at first
        obtain ⟨inner, among, same⟩ := exists_of_mem_leaves step output p first
        exact ⟨inner, List.mem_append_left _ among, same⟩
    · obtain ⟨inner, among, same⟩ := exists_of_mem_leavesAll rest results p others
      exact ⟨inner, List.mem_append_right _ among, same⟩
termination_by structural steps => steps
end

end Step

namespace Context

/-- The placeholders of a step become its output and the members of that. -/
structure Addresses (ctx : Context) (stepId : String) (output : Value) : Prop where
  whole : Text.trimEnd stepId.toList = stepId.toList →
    resolve ctx (.string (placeholder ("variables." ++ stepId))) = output
  member : ∀ key value, Segment key → Text.trim key = key → output.member? key = some value →
    resolve ctx (.string (placeholder ("variables." ++ (stepId ++ "." ++ key)))) = value

theorem addresses_of_stepOutputs {ctx : Context} {stepId : String} {output : Value}
    (segment : Segment stepId) (known : ctx.stepOutputs.get? stepId = some output) :
    ctx.Addresses stepId output where
  whole ends := by rw [Template.resolve_variable segment ends, known, Option.getD_some]
  member key value segment' trimmed there := by
    cases output with
    | object members =>
      have found : Json.Members.get? key members = some value := there
      rw [Template.resolve_variableMember known segment segment' trimmed, found, Option.getD_some]
    | null | bool | number | string | array => cases there

/-- Behind a step that completed its output is known by its id. -/
theorem get?_behind (ctx : Context) (step : Step) (output : Value) :
    (ctx.behind step output).stepOutputs.get? step.id = some output := by
  obtain ⟨id, type, name, config, thenSteps, elseSteps, steps⟩ := step
  simp [behind, Step.leaves, Json.Members.merge]

/-- Only a step of the same id puts another output in its place. -/
theorem variable_inherited (stepId : String) (output : Value) :
    Inherited (·.id ≠ stepId) (·.stepOutputs.get? stepId = some output) where
  behind ctx step other apart known := by
    have away : ∀ p ∈ step.leaves other, p.1 ≠ stepId := by
      intro p left same
      obtain ⟨inner, among, own⟩ := Step.exists_of_mem_leaves step other p left
      exact apart inner among (own.trans same)
    rw [behind, Json.Members.get?_merge_of_not_mem away, known]
  atItem ctx item index known := known

end Context

namespace Engine

/-- In an action without faults the output of a step that completed is there for all that is attempted with
the steps behind it, wherever they are nested: the placeholder of its id becomes the output itself, and that
of a key the member. The id has to be one segment of a path, without points and braces. -/
theorem outputs_addressed {σ : Type} (engine : Engine) (environment : Program.Environment σ)
    {config : Config} {action : Action} (accepted : action.issues config = []) {before later : List Step}
    {step : Step} (sequence : Step.Sequence action.steps (before ++ step :: later))
    (segment : Segment step.id) {ctx next : Context} {s : σ} {output : Value}
    (completed : ((engine.runStep step ctx).run environment s).1 = .completed output next) (s' : σ) :
    ∀ a ∈ engine.attemptsAll environment later (next.withOutput step.id output) s',
      a.ctx.Addresses step.id output := by
  have distinct := ((Action.issues_eq_nil config action).mp accepted).distinct
  have ids := distinct.sublist (sequence.listing_sublist.map _)
  have apart : ∀ inner ∈ listing later, inner.id ≠ step.id := by
    rw [Step.listing_append, Step.listing_cons, List.map_append, List.nodup_append'] at ids
    obtain ⟨-, ids, -⟩ := ids
    rw [List.map_cons, List.nodup_cons] at ids
    intro inner among same
    exact ids.1 (same ▸ List.mem_map_of_mem (List.mem_append_right _ among))
  intro a attempted
  refine Context.addresses_of_stepOutputs segment ?_
  refine attemptsAll_inherit (Context.variable_inherited step.id output) later _ s' apart ?_ a attempted
  rw [withOutput_completed completed]
  exact ctx.get?_behind step output

section

private def setting (id : String) : Step :=
  ⟨id, .updateField, none, .object [("field", .string "x"), ("value", .ofInt 1)], [], [], []⟩

/-- Writes in a loop what the output of a step was. -/
private def copying (id : String) : Step :=
  let next : Step := ⟨"next", .updateField, none, .object [("field", .string "y"),
    ("value", .string (placeholder ("variables." ++ id)))], [], [], []⟩
  ⟨"once", .loop, none, .object [("items", .array [.null]), ("maxIterations", .ofInt 1),
    ("source", .string "array")], [], [], [next]⟩

private def setAndCopy (id : String) : Action where
  __ := noSteps
  steps := [setting id, copying id]

private def fromRecord : Context := .initial "w" none (some ⟨"r", 0, none, []⟩) none

private def aRecord : MemoryStore := { records := [⟨"r", 0, [("workspaceId", .string "w")]⟩] }

private def setOutput : Value :=
  .object [("field", .string "x"), ("previousValue", .null), ("recordId", .string "r"), ("value", .ofInt 1)]

/-- What is attempted behind a step that has the id. -/
private def behindSetting (id : String) : List (Attempt (MemoryStore × Unit)) :=
  bareEngine.attemptsAll Surroundings.still.environment [copying id] (fromRecord.withOutput id setOutput)
    (aRecord, ())

/-- The step in the loop reads what the step before the loop has put out. -/
theorem outputs_addressed_loop :
    ∃ a ∈ behindSetting "set", a.step.id = "next" ∧ a.ctx.Addresses "set" setOutput := by
  have accepted : (setAndCopy "set").issues {} = [] := by cbv
  have completed : ((bareEngine.runStep (setting "set") fromRecord).run Surroundings.still.environment
      (aRecord, ())).1 = .completed setOutput fromRecord := by cbv
  have attempted : (behindSetting "set").any (·.step.id = "next") = true := by cbv
  obtain ⟨a, attempted, named⟩ := List.any_eq_true.mp attempted
  have sequence : Step.Sequence (setAndCopy "set").steps ([] ++ setting "set" :: [copying "set"]) := .inl rfl
  have segment : Segment (setting "set").id := by decide +kernel
  have addresses := outputs_addressed bareEngine Surroundings.still.environment accepted sequence segment
    completed (aRecord, ()) a attempted
  exact ⟨a, attempted, of_decide_eq_true named, addresses⟩

/-- The id of a valid step may have a point in it. A placeholder of it then becomes nothing, although the
step completed with an output. -/
theorem pointedId_unread : (setAndCopy "a.b").issues {} = [] ∧
    ((bareEngine.runStep (setting "a.b") fromRecord).run Surroundings.still.environment (aRecord, ())).1 =
      .completed setOutput fromRecord ∧
    ∃ a ∈ behindSetting "a.b", a.step.id = "next" ∧
      resolve a.ctx (.string (placeholder "variables.a.b")) = .null := by
  have attempted : (behindSetting "a.b").any (fun a => a.step.id = "next" &&
      resolve a.ctx (.string (placeholder "variables.a.b")) = .null) = true := by cbv
  obtain ⟨a, attempted, reads⟩ := List.any_eq_true.mp attempted
  simp only [Bool.and_eq_true, decide_eq_true_eq] at reads
  exact ⟨by cbv, by cbv, a, attempted, reads⟩

end

end Engine

/-- What the placeholders of a loop item become where the item is the record. -/
structure Context.Reads (ctx : Context) (doc : Document) : Prop where
  id : resolve ctx (.string (placeholder ("loopItem." ++ idField))) = .string doc.id
  creationTime : resolve ctx (.string (placeholder ("loopItem." ++ creationTimeField))) =
    .ofInt doc.creationTime
  data : ∀ key, Segment key → Text.trim key = key → key ≠ idField → key ≠ creationTimeField →
    resolve ctx (.string (placeholder ("loopItem." ++ key))) =
      ((RecordSnapshot.ofDocument doc).data.get? key).getD .null

theorem Context.reads_of_loopItem {ctx : Context} {doc : Document}
    (item : ctx.loopItem = some (RecordSnapshot.ofDocument doc).toValue) : ctx.Reads doc := by
  rw [RecordSnapshot.toValue_eq] at item
  refine ⟨?_, ?_, ?_⟩
  · rw [Template.resolve_loopItem item (by decide +kernel) (by decide), RecordSnapshot.get?_members,
      if_pos rfl]
    rfl
  · rw [Template.resolve_loopItem item (by decide +kernel) (by decide), RecordSnapshot.get?_members,
      if_neg (by decide), if_pos rfl]
    rfl
  · intro key segment trimmed notId notTime
    rw [Template.resolve_loopItem item segment trimmed, RecordSnapshot.get?_members, if_neg notId,
      if_neg notTime]

namespace Engine

variable {τ : Type} {around : Surroundings τ} {engine : Engine} {ctx : Context} {store : MemoryStore}
  {t : τ} {settings : LoopSettings}

/-- The items that a loop over records has read are records that it is meant to have. -/
theorem items_of_query {max : Nat} {items : List Value} (source : settings.source = .query)
    (read : ((engine.loopItems ctx settings max).run.run around.environment (store, t)).1 = .ok items) :
    ∃ objectTypeId, Command.nonBlank? settings.objectTypeId = some objectTypeId ∧
      items = (((store.docs .records).filter (settings.finds ctx.workspaceId objectTypeId)).take
        (max + 1)).map fun doc => (RecordSnapshot.ofDocument doc).toValue := by
  let found (items : List Value) : Prop :=
    ∃ objectTypeId, Command.nonBlank? settings.objectTypeId = some objectTypeId ∧
      items = (((store.docs .records).filter (settings.finds ctx.workspaceId objectTypeId)).take
        (max + 1)).map fun doc => (RecordSnapshot.ofDocument doc).toValue
  have looks : Work.Looks (MemoryStore.world around.idAt) .free (fun _ => True) found
      (engine.loopItems ctx settings max) store := by
    unfold loopItems
    rw [source]
    dsimp only
    split
    · exact Work.looks_fail _
    · next objectTypeId named =>
      let search : RecordSearch := ⟨ctx.workspaceId, objectTypeId, settings.filters⟩
      let docs := (store.docs .records).filter (settings.finds ctx.workspaceId objectTypeId)
      have finds : (store.query .records search.query).filter search.accepts = docs :=
        search_finds settings ctx.workspaceId objectTypeId (store.docs .records)
      have searched : Work.Looks (MemoryStore.world around.idAt) .free (fun _ => True)
          (· = docs.take (max + 1)) (search.run engine.records (max + 1)) store := by
        refine reading_world.query.bind ?_
        rintro _ rfl
        exact Work.looks_pure (by rw [finds])
      refine searched.bind ?_
      rintro _ rfl
      exact Work.looks_pure ⟨objectTypeId, named, rfl⟩
  have ran := looks.run (s := (store, t)) Prod.fst (MemoryStore.world_environment around)
  rw [read] at ran
  exact ran.2

end Engine

/-- Within an iteration the item stays where it is, except that a loop inside has items of its own. -/
theorem Context.item_inherited (depth : Nat) (item : Value) (index : Nat) :
    Inherited (fun _ => True) fun ctx => depth ≤ ctx.nestingDepth ∧
      (ctx.nestingDepth = depth → ctx.loopItem = some item ∧ ctx.loopIndex = some index) where
  behind ctx step output _ holds := holds
  atItem ctx _ _ holds := by
    have deeper : depth < (ctx.nestingDepth + 1) := Nat.lt_succ_of_le holds.1
    exact ⟨Nat.le_of_lt deeper, fun same => absurd same (Nat.ne_of_gt deeper)⟩

namespace Engine

/-- In an iteration of a loop over records all steps of the body read the same record, that of the
iteration, as it was when the loop started: the id and the creation time of the document, and under any
other name what its data has there, be it the name of another field of the document. -/
theorem queryItems_read {τ : Type} (engine : Engine) (around : Surroundings τ) {step : Step} {ctx : Context}
    {settings : LoopSettings}
    (parsed : Command.parse step.type step.id (Template.resolve ctx step.config) = .ok (.loop settings))
    (source : settings.source = .query) (store : MemoryStore) (t : τ) {a : Attempt (MemoryStore × τ)}
    (attempted : a ∈ engine.attempts around.environment step ctx (store, t))
    (inside : a.ctx.nestingDepth = ctx.nestingDepth + 1) :
    ∃ objectTypeId i doc, Command.nonBlank? settings.objectTypeId = some objectTypeId ∧
      ((store.docs .records).filter (settings.finds ctx.workspaceId objectTypeId))[i]? = some doc ∧
      a.ctx.loopIndex = some i ∧ a.ctx.Reads doc := by
  obtain rfl | ⟨max, items, i, item, before, read, there, within⟩ := mem_attempts_loop parsed attempted
  · exact absurd inside (Nat.ne_of_lt (Nat.lt_succ_self _))
  obtain ⟨objectTypeId, named, rfl⟩ := items_of_query source read
  rw [List.getElem?_take, Option.ite_none_right_eq_some, List.getElem?_map, Option.map_eq_some_iff] at there
  obtain ⟨-, doc, listed, rfl⟩ := there
  rw [List.getElem?_take, Option.ite_none_right_eq_some] at listed
  have held := attemptsAll_inherit (Context.item_inherited (ctx.nestingDepth + 1)
    (RecordSnapshot.ofDocument doc).toValue i) step.steps _ before (fun _ _ => trivial)
    ⟨Nat.le_refl _, fun _ => ⟨rfl, rfl⟩⟩ a within
  obtain ⟨current, index⟩ := held.2 inside
  exact ⟨objectTypeId, i, doc, named, listed.2, index, Context.reads_of_loopItem current⟩

section

private def aDeal : Document :=
  ⟨"r", 5, [("data", .object []), ("objectTypeId", .string "deal"), ("workspaceId", .string "w")]⟩

/-- Writes the object type of each deal into the deal. -/
private def eachDeal : Step :=
  let tag : Step := ⟨"tag", .updateField, none, .object [("field", .string "kind"),
    ("recordId", .string "\x7b\x7bloopItem._id\x7d\x7d"),
    ("value", .string "\x7b\x7bloopItem.objectTypeId\x7d\x7d")], [], [], []⟩
  ⟨"each", .loop, none, .object [("maxIterations", .ofInt 5), ("objectTypeId", .string "deal"),
    ("source", .string "query")], [], [], [tag]⟩

private def allDeals : LoopSettings where
  source := .query
  items := none
  field := none
  objectTypeId := some "deal"
  filters := []
  maxIterations := some 5
  recordId := none

private def overDeals : List (Attempt (MemoryStore × Unit)) :=
  bareEngine.attempts Surroundings.still.environment eachDeal (.initial "w" none none none)
    ({ records := [aDeal] }, ())

/-- The body of the loop reads the id of the deal. -/
theorem queryItems_read_deal : ∃ a ∈ overDeals, a.step.id = "tag" ∧ a.ctx.Reads aDeal := by
  have parsed : Command.parse eachDeal.type eachDeal.id
      (resolve (.initial "w" none none none) eachDeal.config) = .ok (.loop allDeals) := by cbv
  have tagged : overDeals.any (fun a => a.step.id = "tag" && a.ctx.nestingDepth = 1) = true := by
    cbv
  obtain ⟨a, attempted, is⟩ := List.any_eq_true.mp tagged
  simp only [Bool.and_eq_true, decide_eq_true_eq] at is
  obtain ⟨objectTypeId, i, doc, named, listed, -, reads⟩ := queryItems_read bareEngine
    Surroundings.still parsed rfl _ _ attempted is.2
  obtain rfl : aDeal = doc := List.mem_singleton.mp
    (List.mem_of_mem_filter (List.mem_of_getElem? listed)) |>.symm
  exact ⟨a, attempted, is.1, reads⟩

/-- The object type of the deal is not among what its item has: a placeholder for it becomes nothing. -/
theorem dealItem_untyped : aDeal.getText? "objectTypeId" = some "deal" ∧
    ∃ a ∈ overDeals, a.step.id = "tag" ∧ a.ctx.loopIndex = some 0 ∧
      resolve a.ctx (.string (placeholder "loopItem.objectTypeId")) = .null := by
  have tagged : overDeals.any (fun a => a.step.id = "tag" && a.ctx.loopIndex = some 0 &&
      resolve a.ctx (.string (placeholder "loopItem.objectTypeId")) = .null) = true := by cbv
  obtain ⟨a, attempted, is⟩ := List.any_eq_true.mp tagged
  simp only [Bool.and_eq_true, decide_eq_true_eq, and_assoc] at is
  exact ⟨by decide +kernel, a, attempted, is⟩

end

end Engine
end Automation
