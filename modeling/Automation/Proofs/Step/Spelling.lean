import Automation.Json.View
import Automation.Proofs.Decode.Reads
import Automation.Proofs.Step.Command

/-!
How the settings of a step spell a change of a key: each value of the command stands under its own name.
What may be left out may be null as well, and keys that the command does not ask for are passed over.
-/
namespace Automation

open Decode (Decoder)
open Decode.Record (Reads reads_absent reads_required reads_withDefault)
open Json (Number Value Members)

/-- A member of the settings that may be left out. -/
def Json.Members.given? (settings : Members) (name : String) : Option Value :=
  (settings.get? name).filter (!·.isNull)

inductive FieldCommand.SpelledBy (settings : Members) : FieldCommand → Prop
  | update {field : String} (named : settings.get? "field" = some (.string field)) :
      SpelledBy settings (.update field ((settings.get? "value").getD .null))
  | clear {field : String} (named : settings.get? "field" = some (.string field)) :
      SpelledBy settings (.clear field)
  | copy {source target : String} (read : settings.get? "sourceField" = some (.string source))
      (written : settings.get? "targetField" = some (.string target)) :
      SpelledBy settings (.copy source target)
  | transform {field name : String} {target : Option String} {amount : Option Number}
      {decimals : Option Nat} (named : settings.get? "field" = some (.string field))
      (function : settings.get? "transform" = some (.string name))
      (written : settings.given? "targetField" = target.map .string)
      (size : settings.given? "amount" = amount.map .number)
      (places : settings.given? "decimals" = decimals.map .ofNat)
      (few : ∀ n ∈ decimals, n < 0x100000000) :
      SpelledBy settings (.transform field name target (amount.map (·.toBinary64)) decimals)

/-- The config of a step of the right type spells the command and the record that it names. -/
structure Step.Spells (step : Step) (command : FieldCommand) (recordId : Option String) : Prop where
  type : step.type = (Primitive.field command recordId).type
  config : ∃ settings : Members, step.config = .object settings ∧ (Value.object settings).Canonical ∧
    command.SpelledBy settings ∧ settings.given? "recordId" = recordId.map .string

section Reading

variable {α β : Type} {settings : Members} {name : String}

private theorem nat32_ofInt {i : Int} (within : 0 ≤ i ∧ i < 0x100000000) :
    Decode.nat32 (.ofValue (.ofInt i)) = .ok i.toNat :=
  congrArg (Except.map Int.toNat) (if_pos within)

private theorem reads_given (decode : Decoder α) {e : β → Value} {r : β → α} {found : Option β}
    (shown : settings.given? name = found.map e)
    (ok : ∀ b ∈ found, decode (.ofValue (e b)) = .ok (r b)) :
    (Decode.Record.maybe name decode).Reads settings.get? (found.map r) := by
  cases there : settings.get? name with
  | none =>
    rw [Members.given?, there] at shown
    obtain rfl : found = none := Option.map_eq_none_iff.mp shown.symm
    exact reads_absent there
  | some v =>
    rw [Members.given?, there] at shown
    refine reads_withDefault there ?_
    rw [Decode.optional, Decode.isNull_ofValue]
    cases null : v.isNull with
    | true =>
      rw [Option.filter_some, null] at shown
      obtain rfl : found = none := Option.map_eq_none_iff.mp shown.symm
      rfl
    | false =>
      rw [Option.filter_some, null] at shown
      obtain ⟨b, rfl, rfl⟩ := Option.map_eq_some_iff.mp shown.symm
      rw [ok b rfl]
      rfl

private theorem reads_given_self (decode : Decoder α) {e : α → Value} {found : Option α}
    (shown : settings.given? name = found.map e)
    (ok : ∀ a ∈ found, decode (.ofValue (e a)) = .ok a) :
    (Decode.Record.maybe name decode).Reads settings.get? found := by
  have read := reads_given decode (r := fun a => a) shown ok
  rwa [Option.map_id'] at read

private theorem reads_value (name : String) (canonical : (Value.object settings).Canonical) :
    (Decode.Record.withDefault name .null Decode.value).Reads settings.get?
      ((settings.get? name).getD .null) := by
  cases there : settings.get? name with
  | none => exact reads_absent there
  | some v =>
    exact reads_withDefault there (Decode.value_ofValue v (Members.canonical_get? canonical there))

/-- What is read from the fields of a step that does one thing is its command. -/
private theorem parse_of_reads {fields : Decode.Record Primitive} {type : StepType} {kind : String}
    {p : Primitive} (known : Command.decoder? type = some (Command.primitively kind fields))
    (reads : fields.Reads settings.get? p) (canonical : (Value.object settings).Canonical)
    (stepId : String) : Command.parse type stepId (.object settings) = .ok (.primitive p) := by
  have distinct : (settings.map (·.1)).Nodup :=
    Members.Sorted.nodup (Value.canonical_object.mp canonical).1
  rw [Command.parse, known]
  dsimp only [Command.settings]
  rw [Command.primitively, reads.decode distinct]
  rfl

end Reading

/-- The command that the config of a step spells is the one that is read from it. -/
theorem Step.Spells.parse {step : Step} {command : FieldCommand} {recordId : Option String}
    (h : step.Spells command recordId) :
    Command.parse step.type step.id step.config = .ok (.primitive (.field command recordId)) := by
  obtain ⟨type, settings, config, canonical, spelled, about⟩ := h
  have whose : Command.recordId.Reads settings.get? recordId :=
    reads_given_self Decode.text about fun _ _ => rfl
  rw [type, config]
  cases spelled with
  | update named =>
    refine parse_of_reads rfl ?_ canonical step.id
    refine ((Reads.map ?_).seq ?_).seq whose
    · exact reads_required named rfl
    · exact reads_value "value" canonical
  | clear named =>
    refine parse_of_reads rfl ?_ canonical step.id
    refine (Reads.map ?_).seq whose
    exact reads_required named rfl
  | copy read written =>
    refine parse_of_reads rfl ?_ canonical step.id
    refine ((Reads.map ?_).seq ?_).seq whose
    · exact reads_required read rfl
    · exact reads_required written rfl
  | transform named function written size places few =>
    refine parse_of_reads rfl ?_ canonical step.id
    refine (((((Reads.map ?_).seq ?_).seq ?_).seq ?_).seq ?_).seq whose
    · exact reads_required named rfl
    · exact reads_required function rfl
    · exact reads_given_self Decode.text written fun _ _ => rfl
    · refine reads_given Decode.float size fun amount _ => ?_
      cases amount <;> rfl
    · refine reads_given_self Decode.nat32 places fun n among => ?_
      have within : 0 ≤ (n : Int) ∧ (n : Int) < 0x100000000 := by
        have small := few n among
        omega
      exact (nat32_ofInt within).trans (congrArg Except.ok (Int.toNat_natCast n))

end Automation
