import Automation.Proofs.Json.Canonical
import Automation.Step.Command

/-!
What the settings of a step can turn into: a command of the kind its type names, whose values are in
key order.
-/
namespace Automation

/-- The values a step brings along. -/
def Primitive.Canonical : Primitive → Prop
  | .field (.update _ value) _ => value.Canonical
  | .createRecord _ data => Json.Members.Canonical data
  | .list _ _ _ data => ∀ members ∈ data, Json.Members.Canonical members
  | .callTool _ arguments => arguments.Canonical
  | .field _ _ | .deleteRecord _ | .archiveRecord _ | .sendWebhook _ => True

/-- The type of the steps that do it. -/
def Primitive.type : Primitive → StepType
  | .field (.update _ _) _ => .updateField
  | .field (.clear _) _ => .clearField
  | .field (.copy _ _) _ => .copyField
  | .field (.transform _ _ _ _ _) _ => .transformField
  | .createRecord _ _ => .createRecord
  | .deleteRecord _ => .deleteRecord
  | .archiveRecord _ => .archiveRecord
  | .list .add _ _ _ => .addToList
  | .list .remove _ _ _ => .removeFromList
  | .list .update _ _ _ => .updateListEntry
  | .sendWebhook _ => .sendWebhook
  | .callTool _ _ => .callTool

namespace Command

open Decode

/-- A command for a step of the type. -/
def Suits (type : StepType) : Command → Prop
  | .primitive p => type ≠ .condition ∧ type ≠ .loop ∧ p.Canonical
  | .condition _ _ => type = .condition
  | .loop _ => type = .loop

private theorem ensures_primitively {fields : Record Primitive} {type : StepType} {kind : String}
    (h : fields.Ensures Primitive.Canonical) (hc : type ≠ .condition) (hl : type ≠ .loop) :
    (primitively kind fields).Ensures (Suits type) := by
  intro tree command ok
  obtain ⟨p, read, rfl⟩ := except_map_ok.mp ok
  exact ⟨hc, hl, Record.ensures_decode h kind tree p read⟩

private theorem ensures_updateFields : updateFields.Ensures Primitive.Canonical :=
  Record.ensures_seq (Record.ensures_seq
    (Record.ensures_map (Record.ensures_true _) fun _ _ _ hv _ _ => hv)
    (Record.ensures_withDefault ensures_value "value" Json.Value.canonical_null))
    (Record.ensures_true recordId)

private theorem ensures_clearFields : clearFields.Ensures Primitive.Canonical :=
  Record.ensures_seq (Record.ensures_map (Record.ensures_true _) fun _ _ _ _ => trivial)
    (Record.ensures_true recordId)

private theorem ensures_copyFields : copyFields.Ensures Primitive.Canonical :=
  Record.ensures_seq (Record.ensures_seq
    (Record.ensures_map (Record.ensures_true _) fun _ _ _ _ _ _ => trivial)
    (Record.ensures_true _)) (Record.ensures_true recordId)

private theorem ensures_transformFields : transformFields.Ensures Primitive.Canonical :=
  Record.ensures_seq (Record.ensures_seq (Record.ensures_seq (Record.ensures_seq (Record.ensures_seq
    (Record.ensures_map (Record.ensures_true _) fun _ _ _ _ _ _ _ _ _ _ _ _ => trivial)
    (Record.ensures_true _)) (Record.ensures_true _)) (Record.ensures_true _))
    (Record.ensures_true _)) (Record.ensures_true recordId)

private theorem ensures_createFields : createFields.Ensures Primitive.Canonical :=
  Record.ensures_seq (Record.ensures_map (Record.ensures_true _) fun _ _ _ hd => hd)
    (Record.ensures_withDefault ensures_members "data" Json.Members.canonical_nil)

private theorem ensures_listFields (command : ListCommand) :
    (listFields command).Ensures Primitive.Canonical :=
  Record.ensures_seq (Record.ensures_seq
    (Record.ensures_map (Record.ensures_true _) fun _ _ _ _ _ hd => hd)
    (Record.ensures_true recordId)) (Record.ensures_maybe ensures_members "data")

private theorem ensures_toolFields : toolFields.Ensures Primitive.Canonical :=
  Record.ensures_seq (Record.ensures_map (Record.ensures_true _) fun _ _ _ hv => hv)
    (Record.ensures_withDefault ensures_value "arguments" Json.Value.canonical_null)

private theorem ensures_conditionFields : conditionFields.Ensures (Suits .condition) :=
  Record.ensures_seq (Record.ensures_map (Record.ensures_true _) fun _ _ _ _ => rfl)
    (Record.ensures_true _)

private theorem ensures_loopFields : loopFields.Ensures (Suits .loop) :=
  Record.ensures_seq (Record.ensures_seq (Record.ensures_seq (Record.ensures_seq (Record.ensures_seq
    (Record.ensures_seq (Record.ensures_map (Record.ensures_true _)
      fun _ _ _ _ _ _ _ _ _ _ _ _ _ _ => rfl)
    (Record.ensures_true _)) (Record.ensures_true _)) (Record.ensures_true _))
    (Record.ensures_true _)) (Record.ensures_true _)) (Record.ensures_true recordId)

private theorem ensures_decoder {type : StepType} {decode : Decoder Command}
    (known : decoder? type = some decode) : decode.Ensures (Suits type) := by
  have ref (remove : Option String → Primitive) (h : ∀ id, (remove id).Canonical) :
      (remove <$> recordId).Ensures Primitive.Canonical :=
    Record.ensures_map (Record.ensures_true recordId) fun id _ => h id
  cases type
  case unknown => cases known
  case condition =>
    cases known
    exact Record.ensures_decode ensures_conditionFields _
  case loop =>
    cases known
    exact Record.ensures_decode ensures_loopFields _
  case sendWebhook =>
    cases known
    intro tree command ok
    obtain ⟨w, _, rfl⟩ := except_map_ok.mp ok
    exact ⟨nofun, nofun, trivial⟩
  all_goals
    cases known
    refine ensures_primitively ?_ nofun nofun
  case updateField => exact ensures_updateFields
  case clearField => exact ensures_clearFields
  case copyField => exact ensures_copyFields
  case transformField => exact ensures_transformFields
  case createRecord => exact ensures_createFields
  case deleteRecord => exact ref _ fun _ => trivial
  case archiveRecord => exact ref _ fun _ => trivial
  case callTool => exact ensures_toolFields
  all_goals exact ensures_listFields _

/-- The type alone decides which kind of command a step has. -/
theorem suits_of_parse {type : StepType} {stepId : String} {config : Json.Value}
    {command : Command} (ok : parse type stepId config = .ok command) : command.Suits type := by
  unfold parse at ok
  split at ok
  · cases ok
  · next known => exact ensures_decoder known _ command (except_mapError_ok.mp ok)

private theorem ensures_typed {fields : Record Primitive} {type : StepType} {kind : String}
    (h : fields.Ensures (·.type = type)) :
    (primitively kind fields).Ensures fun command => ∀ p, command = .primitive p → p.type = type := by
  intro tree command ok p same
  obtain ⟨p, read, rfl⟩ := except_map_ok.mp ok
  cases same
  exact Record.ensures_decode h kind tree p read

private theorem ensures_listType (command : ListCommand) {type : StepType}
    (h : ∀ listId recordId data, (Primitive.list command listId recordId data).type = type) :
    (listFields command).Ensures (·.type = type) :=
  Record.ensures_seq (Record.ensures_seq
    (Record.ensures_map (Record.ensures_true _) fun _ _ _ _ _ _ => h _ _ _)
    (Record.ensures_true recordId)) (Record.ensures_true _)

/-- What a step does by itself is what its type names. -/
theorem type_of_parse {type : StepType} {stepId : String} {config : Json.Value} {p : Primitive}
    (ok : parse type stepId config = .ok (.primitive p)) : p.type = type := by
  have suits := suits_of_parse ok
  unfold parse at ok
  split at ok
  · cases ok
  next decode known =>
  suffices typed : decode.Ensures fun command => ∀ p, command = .primitive p → p.type = type from
    typed _ _ (except_mapError_ok.mp ok) p rfl
  have ref (remove : Option String → Primitive) (h : ∀ id, (remove id).type = type) :
      (remove <$> recordId).Ensures (·.type = type) :=
    Record.ensures_map (Record.ensures_true recordId) fun id _ => h id
  cases type
  case unknown => cases known
  case condition => exact absurd rfl suits.1
  case loop => exact absurd rfl suits.2.1
  case sendWebhook =>
    cases known
    intro tree command ok p same
    obtain ⟨w, _, rfl⟩ := except_map_ok.mp ok
    cases same
    rfl
  all_goals
    cases known
    refine ensures_typed ?_
  case deleteRecord => exact ref _ fun _ => rfl
  case archiveRecord => exact ref _ fun _ => rfl
  case addToList => exact ensures_listType _ fun _ _ _ => rfl
  case removeFromList => exact ensures_listType _ fun _ _ _ => rfl
  case updateListEntry => exact ensures_listType _ fun _ _ _ => rfl
  case clearField | createRecord | callTool =>
    refine Record.ensures_seq (Record.ensures_map (Record.ensures_true _) ?_) (Record.ensures_true _)
    exact fun _ _ _ _ => rfl
  case updateField | copyField =>
    refine Record.ensures_seq (Record.ensures_seq
      (Record.ensures_map (Record.ensures_true _) ?_) (Record.ensures_true _)) (Record.ensures_true _)
    exact fun _ _ _ _ _ _ => rfl
  case transformField =>
    refine Record.ensures_seq (Record.ensures_seq (Record.ensures_seq (Record.ensures_seq
      (Record.ensures_seq (Record.ensures_map (Record.ensures_true _) ?_) (Record.ensures_true _))
      (Record.ensures_true _)) (Record.ensures_true _)) (Record.ensures_true _)) (Record.ensures_true _)
    exact fun _ _ _ _ _ _ _ _ _ _ _ _ => rfl

/-- What sends webhooks does nothing else. -/
theorem sendWebhook_of_parse {stepId : String} {config : Json.Value} {command : Command}
    (ok : parse .sendWebhook stepId config = .ok command) : ∃ w, command = .primitive (.sendWebhook w) := by
  cases command with
  | condition conditions subject => cases suits_of_parse ok
  | loop settings => cases suits_of_parse ok
  | primitive p =>
    have named := type_of_parse ok
    cases p with
    | sendWebhook w => exact ⟨w, rfl⟩
    | list command => cases command <;> cases named
    | field command => cases command <;> cases named
    | _ => cases named

end Command
end Automation
