import Automation.Proofs.Json.Canonical
import Automation.Proofs.Step.Position
import Automation.Step.Decoding

/-!
Steps as they are stored: what is read is a step that can be written out, and what is read from a step
that was written out is that step, with all the steps inside it.
-/
namespace Automation

open Decode
open Json (Value Members)

namespace StepType

@[simp] theorem name_ofName (text : String) : (ofName text).name = text := by
  unfold ofName
  cases found : known.find? (·.name == text) with
  | none => rfl
  | some type =>
    have named := List.find?_some found
    exact beq_iff_eq.mp named

/-- The type is what its name stands for; no unknown type has the name of a known one. -/
def Named (type : StepType) : Prop := ofName type.name = type

theorem named_ofName (text : String) : (ofName text).Named := by rw [Named, name_ofName]

end StepType

namespace Step

/-- Nothing is lost when the step is written out, nor when the steps inside it are. -/
inductive Lossless : Step → Prop
  | mk {step : Step} (type : step.type.Named) (config : step.config.Canonical)
      (inside : ∀ part, ∀ child ∈ step.part part, Lossless child) : Lossless step

/-- The member that a list of steps is written as. -/
private def Part.key : Part → String
  | .thenSteps => "thenSteps"
  | .elseSteps => "elseSteps"
  | .steps => "steps"

namespace Draft

private def part (draft : Draft) : Part → Option (List Step)
  | .thenSteps => draft.thenSteps
  | .elseSteps => draft.elseSteps
  | .steps => draft.steps

private def withPart (draft : Draft) (steps : Option (List Step)) : Part → Draft
  | .thenSteps => { draft with thenSteps := steps }
  | .elseSteps => { draft with elseSteps := steps }
  | .steps => { draft with steps := steps }

/-- What has been read so far is lossless. -/
private structure Lossless (draft : Draft) : Prop where
  type : ∀ type ∈ draft.type, type.Named
  config : ∀ v ∈ draft.config, v.Canonical
  inside : ∀ part, ∀ steps ∈ draft.part part, ∀ step ∈ steps, step.Lossless

namespace Lossless

variable {draft : Draft}

private theorem nothing : ({} : Draft).Lossless where
  type := nofun
  config := nofun
  inside part := by cases part <;> nofun

private theorem withId (h : draft.Lossless) (id : String) : { draft with id := some id }.Lossless :=
  ⟨h.type, h.config, h.inside⟩

private theorem withName (h : draft.Lossless) (name : Option String) :
    { draft with name := some name }.Lossless :=
  ⟨h.type, h.config, h.inside⟩

private theorem withType (h : draft.Lossless) {type : StepType} (named : type.Named) :
    { draft with type := some type }.Lossless where
  type := by
    rintro _ ⟨⟩
    exact named
  config := h.config
  inside := h.inside

private theorem withConfig (h : draft.Lossless) {config : Value} (canonical : config.Canonical) :
    { draft with config := some config }.Lossless where
  type := h.type
  config := by
    rintro _ ⟨⟩
    exact canonical
  inside := h.inside

private theorem withPart (h : draft.Lossless) (part : Part) {steps : List Step}
    (lossless : ∀ step ∈ steps, step.Lossless) : (draft.withPart (some steps) part).Lossless where
  type := by cases part <;> exact h.type
  config := by cases part <;> exact h.config
  inside other := by
    by_cases same : part = other
    · subst same
      have read : (draft.withPart (some steps) part).part part = some steps := by cases part <;> rfl
      rw [read]
      rintro _ ⟨⟩
      exact lossless
    · have before : (draft.withPart (some steps) part).part other = draft.part other := by
        cases part <;> cases other <;> first | rfl | exact absurd rfl same
      rw [before]
      exact h.inside other

private theorem finish (h : draft.Lossless) {step : Step} (ok : draft.finish = .ok step) :
    step.Lossless := by
  obtain ⟨id, -, ok⟩ := except_bind_ok.mp ok
  obtain ⟨type, there, ok⟩ := except_bind_ok.mp ok
  cases ok
  have named : type.Named := by
    cases read : draft.type with
    | none =>
      rw [read] at there
      cases there
    | some found =>
      rw [read] at there
      cases there
      exact h.type type read
  have canonical : (draft.config.getD .null).Canonical := by
    cases read : draft.config with
    | none => exact Value.canonical_null
    | some config => exact h.config config read
  refine .mk named canonical fun part child inside => ?_
  have there : child ∈ (draft.part part).getD [] := by cases part <;> exact inside
  cases read : draft.part part with
  | none =>
    rw [read] at there
    cases there
  | some steps =>
    rw [read] at there
    exact h.inside part steps read child there

end Lossless
end Draft

private theorem fresh_ok {α : Type} {name : String} {before found : Option α} {read : Except Error α}
    (ok : fresh name before read = .ok found) : ∃ a, read = .ok a ∧ found = some a := by
  unfold fresh at ok
  split at ok
  · cases ok
  · obtain ⟨a, read, rfl⟩ := except_map_ok.mp ok
    exact ⟨a, except_mapError_ok.mp read, rfl⟩

private theorem named_of_read {tree : Tree} {type : StepType}
    (read : (Decode.text tree).map StepType.ofName = .ok type) : type.Named := by
  obtain ⟨text, -, rfl⟩ := except_map_ok.mp read
  exact StepType.named_ofName text

-- By induction on the tree, as the decoder goes; what a draft has so far is the invariant.
mutual
private theorem decode_lossless : ∀ (tree : Tree) (step : Step), decode tree = .ok step → step.Lossless
  | .marked _ tree, step, ok => decode_lossless tree step (except_mapError_ok.mp ok)
  | .mapping _ entries, step, ok => decodeEntries_lossless entries {} .nothing step ok
  | .sequence .json trees, step, ok => decodeItems_lossless trees 0 {} .nothing step ok
  | .plain text, step, ok => by
    unfold decode at ok
    split at ok
    case h_4 => exact Draft.Lossless.nothing.finish ok
    case h_5 => exact absurd ok unexpected_ne_ok
    all_goals contradiction
  | .sequence .document _, step, ok => absurd ok unexpected_ne_ok
  | .null, step, ok => absurd ok unexpected_ne_ok
  | .bool _, step, ok => absurd ok unexpected_ne_ok
  | .number _, step, ok => absurd ok unexpected_ne_ok
  | .text _, step, ok => absurd ok unexpected_ne_ok
  | .broken _, step, ok => absurd ok unexpected_ne_ok
termination_by structural tree => tree

private theorem decodeEntries_lossless : ∀ (entries : List (Tree × Tree)) (draft : Draft),
    draft.Lossless → ∀ step, decodeEntries draft entries = .ok step → step.Lossless
  | [], draft, h, step, ok => h.finish ok
  | (key, tree) :: rest, draft, h, step, ok => by
    have rest (draft : Draft) (h : draft.Lossless) := decodeEntries_lossless rest draft h step
    unfold decodeEntries at ok
    obtain ⟨name, -, ok⟩ := except_bind_ok.mp ok
    -- One case for each field as it is declared, and one for a key that names none.
    split at ok
    all_goals obtain ⟨found, read, ok⟩ := except_bind_ok.mp ok
    case h_8 => exact rest _ h ok
    all_goals obtain ⟨a, done, rfl⟩ := fresh_ok read
    case h_1 => exact rest _ (h.withId a) ok
    case h_2 => exact rest _ (h.withType (named_of_read done)) ok
    case h_3 => exact rest _ (h.withName a) ok
    case h_4 => exact rest _ (h.withConfig (ensures_value tree a done)) ok
    case h_5 => exact rest _ (h.withPart .thenSteps (decodeList_lossless tree a done)) ok
    case h_6 => exact rest _ (h.withPart .elseSteps (decodeList_lossless tree a done)) ok
    case h_7 => exact rest _ (h.withPart .steps (decodeList_lossless tree a done)) ok
termination_by structural entries => entries

private theorem decodeItems_lossless : ∀ (trees : List Tree) (place : Nat) (draft : Draft),
    draft.Lossless → ∀ step, decodeItems place trees draft = .ok step → step.Lossless
  | [], place, draft, h, step, ok => by
    unfold decodeItems at ok
    split at ok
    · cases ok
    · exact h.finish ok
  | tree :: rest, place, draft, h, step, ok => by
    have rest (place : Nat) (draft : Draft) (h : draft.Lossless) :=
      decodeItems_lossless rest place draft h step
    unfold decodeItems at ok
    split at ok
    case h_8 => cases ok
    all_goals obtain ⟨a, read, ok⟩ := except_bind_ok.mp ok
    case h_1 => exact rest 1 _ (h.withId a) ok
    case h_2 => exact rest 2 _ (h.withType (named_of_read read)) ok
    case h_3 => exact rest 3 _ (h.withName a) ok
    case h_4 => exact rest 4 _ (h.withConfig (ensures_value tree a read)) ok
    case h_5 => exact rest 5 _ (h.withPart .thenSteps (decodeList_lossless tree a read)) ok
    case h_6 => exact rest 6 _ (h.withPart .elseSteps (decodeList_lossless tree a read)) ok
    case h_7 => exact rest 7 _ (h.withPart .steps (decodeList_lossless tree a read)) ok
termination_by structural trees => trees

private theorem decodeList_lossless : ∀ (tree : Tree) (steps : List Step),
    decodeList tree = .ok steps → ∀ step ∈ steps, step.Lossless
  | .marked _ tree, steps, ok => decodeList_lossless tree steps (except_mapError_ok.mp ok)
  | .sequence _ trees, steps, ok => decodeAll_lossless trees 0 steps ok
  | .plain text, steps, ok => by
    unfold decodeList at ok
    split at ok
    case h_3 =>
      cases ok
      simp
    case h_4 => exact absurd ok unexpected_ne_ok
    all_goals contradiction
  | .mapping _ _, steps, ok => absurd ok unexpected_ne_ok
  | .null, steps, ok => absurd ok unexpected_ne_ok
  | .bool _, steps, ok => absurd ok unexpected_ne_ok
  | .number _, steps, ok => absurd ok unexpected_ne_ok
  | .text _, steps, ok => absurd ok unexpected_ne_ok
  | .broken _, steps, ok => absurd ok unexpected_ne_ok
termination_by structural tree => tree

private theorem decodeAll_lossless : ∀ (trees : List Tree) (place : Nat) (steps : List Step),
    decodeAll place trees = .ok steps → ∀ step ∈ steps, step.Lossless
  | [], place, steps, ok => by
    cases ok
    simp
  | tree :: rest, place, steps, ok => by
    obtain ⟨first, read, ok⟩ := except_bind_ok.mp ok
    obtain ⟨others, more, ok⟩ := except_bind_ok.mp ok
    cases ok
    have head := decode_lossless tree first (except_mapError_ok.mp read)
    exact List.forall_mem_cons.mpr ⟨head, decodeAll_lossless rest (place + 1) others more⟩
termination_by structural trees => trees
end

theorem ensures_decodeList : Decoder.Ensures (fun steps => ∀ step ∈ steps, step.Lossless) decodeList :=
  decodeList_lossless

/-- What is written for a list of steps inside a step: nothing if it is empty. -/
private def written (steps : List Step) : Option Value :=
  let values := encodeAll steps
  if values.isEmpty then none else some (.array values)

/-- The members of a step in the order in which they are declared. -/
private def members (step : Step) : List (String × Option Value) :=
  [("id", some (.string step.id)), ("type", some (.string step.type.name)),
    ("name", step.name.map .string), ("config", if step.config.isNull then none else some step.config),
    ("thenSteps", written step.thenSteps), ("elseSteps", written step.elseSteps),
    ("steps", written step.steps)]

/-- The members of a step in the order of their keys. -/
private def inOrder (step : Step) : List (String × Option Value) :=
  [("config", if step.config.isNull then none else some step.config),
    ("elseSteps", written step.elseSteps), ("id", some (.string step.id)),
    ("name", step.name.map .string), ("steps", written step.steps),
    ("thenSteps", written step.thenSteps), ("type", some (.string step.type.name))]

private theorem encode_eq (step : Step) : step.encode = .listed step.inOrder := by
  have declared : step.encode = .ofPresent step.members := by
    cases step
    rfl
  have perm : step.members.Perm step.inOrder := by
    refine List.perm_iff_count.mpr fun m => ?_
    simp only [members, inOrder, List.count_cons, List.count_nil]
    omega
  have sorted : (step.inOrder.map (·.1)).Pairwise (· < ·) := by
    change ["config", "elseSteps", "id", "name", "steps", "thenSteps", "type"].Pairwise (· < ·)
    decide
  rw [declared, Members.ofPresent_of_perm perm sorted]

/-- The entries of a mapping for members that have a value. -/
private def entries (pairs : List (String × Option Value)) : List (Tree × Tree) :=
  Tree.ofMembers (pairs.filterMap fun (key, value) => value.map (key, ·))

/-- What a draft has of a list of steps that was written inside a step. -/
private def kept (steps : List Step) : Option (List Step) := if steps.isEmpty then none else some steps

section Reading

variable {draft : Draft} {rest : List (String × Option Value)}

private theorem decodeEntries_id (id : String) (unread : draft.id = none) :
    decodeEntries draft (entries (("id", some (.string id)) :: rest)) =
      decodeEntries { draft with id := some id } (entries rest) := by
  change (fresh "id" draft.id (.ok id) >>= fun id => decodeEntries { draft with id } (entries rest)) = _
  rw [unread]
  rfl

private theorem decodeEntries_type {type : StepType} (named : type.Named) (unread : draft.type = none) :
    decodeEntries draft (entries (("type", some (.string type.name)) :: rest)) =
      decodeEntries { draft with type := some type } (entries rest) := by
  change (fresh "type" draft.type (.ok (StepType.ofName type.name)) >>= fun type =>
    decodeEntries { draft with type } (entries rest)) = _
  rw [unread, named]
  rfl

private theorem decodeEntries_name (name : Option String) (unread : draft.name = none) :
    decodeEntries draft (entries (("name", name.map .string) :: rest)) =
      decodeEntries { draft with name := name.map some } (entries rest) := by
  cases name with
  | none =>
    have same : { draft with name := none } = draft := by rw [← unread]
    rw [Option.map_none, Option.map_none, same]
    rfl
  | some text =>
    change (fresh "name" draft.name (.ok (some text)) >>= fun name =>
      decodeEntries { draft with name } (entries rest)) = _
    rw [unread]
    rfl

private theorem decodeEntries_config {config : Value} (canonical : config.Canonical)
    (unread : draft.config = none) :
    let config? := if config.isNull then none else some config
    decodeEntries draft (entries (("config", config?) :: rest)) =
      decodeEntries { draft with config := config? } (entries rest) := by
  cases null : config.isNull with
  | true =>
    have same : { draft with config := none } = draft := by rw [← unread]
    dsimp only
    rw [if_pos rfl, same]
    rfl
  | false =>
    change (fresh "config" draft.config (value (.ofValue config)) >>= fun config =>
      decodeEntries { draft with config } (entries rest)) = _
    rw [unread, value_ofValue config canonical]
    rfl

private theorem decodeEntries_part (part : Part) {steps : List Step} (unread : draft.part part = none)
    (read : decodeAll 0 (Tree.ofItems (encodeAll steps)) = .ok steps) :
    decodeEntries draft (entries ((part.key, written steps) :: rest)) =
      decodeEntries (draft.withPart (kept steps) part) (entries rest) := by
  cases steps with
  | nil =>
    have same : draft.withPart none part = draft := by
      rw [← unread]
      cases part <;> rfl
    exact congrArg (decodeEntries · (entries rest)) same.symm
  | cons step others =>
    have goes : decodeEntries draft (entries ((part.key, written (step :: others)) :: rest)) =
        (fresh part.key (draft.part part) (decodeAll 0 (Tree.ofItems (encodeAll (step :: others)))) >>=
          fun steps => decodeEntries (draft.withPart steps part) (entries rest)) := by
      cases part <;> rfl
    rw [goes, unread, read]
    rfl

end Reading

private theorem getD_kept (steps : List Step) : (kept steps).getD [] = steps := by
  cases steps <;> rfl

private theorem getD_config (config : Value) :
    (if config.isNull then none else some config).getD .null = config := by
  cases config <;> rfl

private theorem getD_name (name : Option String) : (name.map some).getD none = name := by
  cases name <;> rfl

private theorem decodeEntries_inOrder {step : Step} (named : step.type.Named)
    (canonical : step.config.Canonical)
    (read : ∀ part, decodeAll 0 (Tree.ofItems (encodeAll (step.part part))) = .ok (step.part part)) :
    decodeEntries {} (entries step.inOrder) = .ok step := by
  -- The entries come by their keys, so the draft is filled in another order than it is declared in.
  refine (decodeEntries_config canonical rfl).trans ?_
  refine (decodeEntries_part .elseSteps rfl (read .elseSteps)).trans ?_
  refine (decodeEntries_id step.id rfl).trans ?_
  refine (decodeEntries_name step.name rfl).trans ?_
  refine (decodeEntries_part .steps rfl (read .steps)).trans ?_
  refine (decodeEntries_part .thenSteps rfl (read .thenSteps)).trans ?_
  refine (decodeEntries_type named rfl).trans ?_
  change (Except.ok _ : Except Error Step) = .ok step
  simp only [Draft.withPart, part, getD_kept, getD_config, getD_name]
  cases step
  rfl

private theorem decodeAll_encodeAll {steps : List Step}
    (read : ∀ step ∈ steps, decode (.ofValue step.encode) = .ok step) (place : Nat) :
    decodeAll place (Tree.ofItems (encodeAll steps)) = .ok steps := by
  induction steps generalizing place with
  | nil => rfl
  | cons step rest ih =>
    rw [List.forall_mem_cons] at read
    refine except_bind_ok.mpr ⟨step, except_mapError_ok.mpr read.1, ?_⟩
    exact except_bind_ok.mpr ⟨rest, ih read.2 (place + 1), rfl⟩

/-- A lossless step is read as it was written. -/
theorem Lossless.decode_encode {step : Step} (h : step.Lossless) :
    decode (.ofValue step.encode) = .ok step := by
  induction h with
  | @mk step named canonical _ ih =>
    rw [encode_eq]
    exact decodeEntries_inOrder named canonical fun part => decodeAll_encodeAll (ih part) 0

theorem decodeList_encodeAll {steps : List Step} (h : ∀ step ∈ steps, step.Lossless) :
    decodeList (.ofValue (.array (encodeAll steps))) = .ok steps :=
  decodeAll_encodeAll (fun step inside => (h step inside).decode_encode) 0

end Step
end Automation
