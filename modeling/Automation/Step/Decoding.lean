import Automation.Decode.Record
import Automation.Step.Basic

/-!
Reading steps. The three lists of nested steps make the one record that holds records of its own
kind, so its fields are collected in a draft as they come.
-/
namespace Automation.Step

open Decode

/-- The fields of a step that have been read so far. -/
structure Draft where
  id : Option String := none
  type : Option StepType := none
  name : Option (Option String) := none
  config : Option Json.Value := none
  thenSteps : Option (List Step) := none
  elseSteps : Option (List Step) := none
  steps : Option (List Step) := none

/-- Only the id and the type must be there. -/
def Draft.finish (draft : Draft) : Except Error Step := do
  let id ← (draft.id.map .ok).getD (fail (.missingField "id"))
  let type ← (draft.type.map .ok).getD (fail (.missingField "type"))
  return { id, type
           name := draft.name.getD none
           config := draft.config.getD .null
           thenSteps := draft.thenSteps.getD []
           elseSteps := draft.elseSteps.getD []
           steps := draft.steps.getD [] }

/-- The value for a field that must not have one yet. -/
def fresh {α : Type} (name : String) (before : Option α) (read : Except Error α) :
    Except Error (Option α) :=
  if before.isSome then fail (.duplicateField name) else (within (.field name) read).map some

def kind : String := "struct Step"

private def typeName : Decoder StepType := fun tree => (Decode.text tree).map .ofName

mutual
def decode : Tree → Except Error Step
  | .marked mark tree => locate mark (decode tree)
  | .mapping _ entries => decodeEntries {} entries
  | .sequence .json trees => decodeItems 0 trees {}
  | .plain "" => ({} : Draft).finish
  | tree => unexpected kind tree
termination_by structural tree => tree

def decodeEntries (draft : Draft) : List (Tree × Tree) → Except Error Step
  | [] => draft.finish
  | (key, tree) :: rest => do
    match ← fieldName key with
    | "id" =>
      let id ← fresh "id" draft.id (Decode.text tree)
      decodeEntries { draft with id } rest
    | "type" =>
      let type ← fresh "type" draft.type (typeName tree)
      decodeEntries { draft with type } rest
    | "name" =>
      let name ← fresh "name" draft.name (optional Decode.text tree)
      decodeEntries { draft with name } rest
    | "config" =>
      let config ← fresh "config" draft.config (value tree)
      decodeEntries { draft with config } rest
    | "thenSteps" =>
      let thenSteps ← fresh "thenSteps" draft.thenSteps (decodeList tree)
      decodeEntries { draft with thenSteps } rest
    | "elseSteps" =>
      let elseSteps ← fresh "elseSteps" draft.elseSteps (decodeList tree)
      decodeEntries { draft with elseSteps } rest
    | "steps" =>
      let steps ← fresh "steps" draft.steps (decodeList tree)
      decodeEntries { draft with steps } rest
    | _ =>
      within key.segment tree.intact
      decodeEntries draft rest
termination_by structural entries => entries

/-- A step as the list of its fields, from field number `place` on. -/
def decodeItems (place : Nat) (trees : List Tree) (draft : Draft) : Except Error Step :=
  match trees with
  | [] =>
    if place < 2 then fail (.invalidLength place (kind ++ " with 7 elements")) else draft.finish
  | tree :: rest => do
    match place with
    | 0 =>
      let id ← Decode.text tree
      decodeItems 1 rest { draft with id := some id }
    | 1 =>
      let type ← typeName tree
      decodeItems 2 rest { draft with type := some type }
    | 2 =>
      let name ← optional Decode.text tree
      decodeItems 3 rest { draft with name := some name }
    | 3 =>
      let config ← value tree
      decodeItems 4 rest { draft with config := some config }
    | 4 =>
      let steps ← decodeList tree
      decodeItems 5 rest { draft with thenSteps := some steps }
    | 5 =>
      let steps ← decodeList tree
      decodeItems 6 rest { draft with elseSteps := some steps }
    | 6 =>
      let steps ← decodeList tree
      decodeItems 7 rest { draft with steps := some steps }
    | place => fail (.invalidLength (place + (tree :: rest).length) "fewer elements in array")
termination_by structural trees

def decodeList : Tree → Except Error (List Step)
  | .marked mark tree => locate mark (decodeList tree)
  | .sequence _ trees => decodeAll 0 trees
  | .plain "" => .ok []
  | tree => unexpected "a sequence" tree
termination_by structural tree => tree

def decodeAll (place : Nat) : List Tree → Except Error (List Step)
  | [] => .ok []
  | tree :: rest => do
    let step ← within (.index place) (decode tree)
    let others ← decodeAll (place + 1) rest
    return step :: others
termination_by structural trees => trees
end

end Automation.Step
