import Automation.Proofs.Decode.Ensures
import Automation.Proofs.Engine.ClosingOnce
import Automation.Proofs.Engine.FieldChange
import Automation.Proofs.Engine.Intent
import Automation.Proofs.Number.Whole
import Automation.Proofs.Store.Served
import Automation.Transform

/-!
Transforms that calculate, and the steps that do so with the value of a key. They take finite numbers to
finite numbers, whatever they are applied to, and whole numbers to whole numbers as long as nothing is beyond
the integers that binary64 counts through. Either the calculation gives a number, and the key has it when the
step completes, or it fails and the store is left as it was.
-/
namespace Automation

open Json (Value)

namespace Binary64

variable {x y : Binary64}

theorem isFinite_add (h : (x.add y).isFinite = true) : x.isFinite = true ∧ y.isFinite = true := by
  cases x with
  | finite f =>
    cases y with
    | finite g => exact ⟨rfl, rfl⟩
    | nan => cases h
    | infinite t => cases h
  | nan => cases h
  | infinite s =>
    cases y with
    | finite g => cases h
    | nan => cases h
    | infinite t =>
      rw [add] at h
      split at h <;> cases h

theorem isFinite_sub (h : (x.sub y).isFinite = true) : x.isFinite = true ∧ y.isFinite = true := by
  obtain ⟨left, right⟩ := isFinite_add h
  refine ⟨left, ?_⟩
  cases y <;> first | rfl | cases right

theorem isFinite_mul (h : (x.mul y).isFinite = true) : x.isFinite = true := by
  cases x with
  | finite f => rfl
  | nan => cases h
  | infinite s =>
    cases y with
    | nan => cases h
    | infinite t => cases h
    | finite g =>
      rw [mul] at h
      split at h <;> cases h

end Binary64

/-- A number as it is stored: a finite one, of 64 bits if it is an integer. -/
def Json.Value.Numeric (value : Value) : Prop :=
  ∃ n : Json.Number, value = .number n ∧ ∀ i, n = .int i → i.natAbs < 2 ^ 63

/-- A value that counts as a whole number: nothing at all counts as zero. -/
def Json.Value.Counts (value : Value) (n : Int) : Prop :=
  value = .null ∧ n = 0 ∨ ∃ x, value.toBinary64? = some x ∧ x.IsInt n

namespace Transform

/-- The transforms that calculate. -/
def calculates : Transform → Bool
  | round | increment | decrement => true
  | uppercase | lowercase | trim => false

/-- The transform adds the number to what it is applied to. -/
def Adds (t : Transform) (amount : Option Binary64) (n : Int) : Prop :=
  t = .increment ∧ (amount.getD (.ofNat 1)).IsInt n ∨
    t = .decrement ∧ (amount.getD (.ofNat 1)).IsInt (-n)

variable {t : Transform} {value result : Value} {n m : Int} {x : Binary64} {amount : Option Binary64}
  {decimals : Option Nat}

theorem applyNamed_name (t : Transform) (value : Value) (amount : Option Binary64)
    (decimals : Option Nat) : applyNamed t.name value amount decimals = t.apply value amount decimals := by
  have known : ofName? t.name = some t := by cases t <;> decide +kernel
  rw [applyNamed, known]

private theorem numeric_ofBinary64 (f : Binary64.Finite) : (Value.ofBinary64 (.finite f)).Numeric := by
  dsimp only [Value.ofBinary64]
  split
  · next whole => exact ⟨_, rfl, fun i same => Json.Number.int.inj same ▸ whole.2⟩
  · exact ⟨_, rfl, fun i => nofun⟩

/-- What passes for a result is finite, and so is written as a number. -/
private theorem finite_ok (h : t.finite x = .ok result) : x.isFinite = true ∧ result.Numeric := by
  cases x with
  | nan => cases h
  | infinite s => cases h
  | finite f =>
    obtain rfl : Value.ofBinary64 (.finite f) = result := Except.ok.inj h
    exact ⟨rfl, numeric_ofBinary64 f⟩

private theorem isFinite_roundTo {d : Nat} (h : (roundTo x d).isFinite = true) : x.isFinite = true := by
  unfold roundTo at h
  dsimp only at h
  split at h
  · next scaled => exact Binary64.isFinite_mul scaled
  · exact h

private theorem numberOf_ok (h : t.numberOf value = .ok x) : value.toBinary64? = some x := by
  unfold numberOf at h
  split at h
  · next read =>
    cases h
    exact read
  · cases h

/-- A number that counts is the one that the value reads as. -/
private theorem counted_ok {y : Binary64} (h : t.counted value = .ok x) (read : value.toBinary64? = some y) :
    y = x := by
  unfold counted at h
  split at h
  · next null => cases value <;> contradiction
  · exact Option.some.inj (read.symm.trans (numberOf_ok h))

/-- A calculation that succeeds has made a number out of finite numbers. -/
theorem apply_ok (calculates : t.calculates = true) (h : t.apply value amount decimals = .ok result) :
    result.Numeric ∧ (∀ x, value.toBinary64? = some x → x.isFinite = true) ∧
      (t ≠ .round → (amount.getD (.ofNat 1)).isFinite = true) := by
  cases t with
  | uppercase => cases calculates
  | lowercase => cases calculates
  | trim => cases calculates
  | round =>
    obtain ⟨x, number, h⟩ := Decode.except_bind_ok.mp h
    dsimp only at h
    split at h
    · cases h
    · obtain ⟨finite, numeric⟩ := finite_ok h
      refine ⟨numeric, fun y read => ?_, fun other => absurd rfl other⟩
      cases read.symm.trans (numberOf_ok number)
      exact isFinite_roundTo finite
  | increment =>
    obtain ⟨x, number, h⟩ := Decode.except_bind_ok.mp h
    obtain ⟨finite, numeric⟩ := finite_ok h
    obtain ⟨left, right⟩ := Binary64.isFinite_add finite
    exact ⟨numeric, fun y read => counted_ok number read ▸ left, fun _ => right⟩
  | decrement =>
    obtain ⟨x, number, h⟩ := Decode.except_bind_ok.mp h
    obtain ⟨finite, numeric⟩ := finite_ok h
    obtain ⟨left, right⟩ := Binary64.isFinite_sub finite
    exact ⟨numeric, fun y read => counted_ok number read ▸ left, fun _ => right⟩

private theorem counted_eq (h : value.Counts n) :
    ∃ x, t.counted value = .ok x ∧ x.IsInt n := by
  rcases h with ⟨rfl, rfl⟩ | ⟨x, read, whole⟩
  · exact ⟨.zero, rfl, Binary64.isInt_zero⟩
  · have some : value.isNull = false := by
      cases value <;> first | rfl | cases read
    refine ⟨x, ?_, whole⟩
    simp [counted, some, numberOf, read]

/-- Counting is exact as long as the sum is within the limit. -/
theorem applyNamed_adds (adds : t.Adds amount m) (counts : value.Counts n)
    (small : (n + m).natAbs ≤ Binary64.wholeLimit) :
    applyNamed t.name value amount decimals = .ok (.ofInt (n + m)) := by
  obtain ⟨x, counted, whole⟩ := counted_eq (t := t) counts
  have inside : (n + m).natAbs < 2 ^ 63 := Nat.lt_of_le_of_lt small (by decide)
  rw [applyNamed_name]
  rcases adds with ⟨rfl, by'⟩ | ⟨rfl, by'⟩
  · have sum := whole.add by' small
    simp [apply, counted, finite, sum.isFinite, sum.ofBinary64 inside, bind, Except.bind]
  · have same : n - -m = n + m := Int.sub_neg n m
    have sum := whole.sub by' (same ▸ small)
    rw [same] at sum
    simp [apply, counted, finite, sum.isFinite, sum.ofBinary64 inside, bind, Except.bind]

/-- A whole number is rounded to itself. -/
theorem applyNamed_round (read : value.toBinary64? = some x) (whole : x.IsInt n)
    (small : n.natAbs ≤ Binary64.wholeLimit) :
    applyNamed round.name value amount none = .ok (.ofInt n) := by
  have inside : n.natAbs < 2 ^ 63 := Nat.lt_of_le_of_lt small (by decide)
  have one : (Binary64.ofNat 1).IsInt 1 := Binary64.isInt_ofNat (by decide)
  have scaled : (x.mul (.ofNat 1)).IsInt (n * 1) := whole.mul one (by rwa [Int.mul_one])
  have rounded := (scaled.round (by rwa [Int.mul_one])).div one (by decide) small
  have number : numberOf round value = .ok x := by rw [numberOf, read]
  have factor : roundTo x 0 = (x.mul (.ofNat 1)).round.div (.ofNat 1) := if_pos scaled.isFinite
  rw [applyNamed_name]
  change (numberOf round value >>= fun x => finite round (roundTo x 0)) = _
  rw [number]
  change finite round (roundTo x 0) = _
  rw [factor, finite, if_pos rounded.isFinite, rounded.ofBinary64 inside]

end Transform

/-- A whole number within the limit counts as itself. -/
theorem Json.Value.counts_ofInt {n : Int} (small : n.natAbs ≤ Binary64.wholeLimit) :
    (Value.ofInt n).Counts n := .inr ⟨_, rfl, Binary64.isInt_ofInt small⟩

namespace Engine

open MemoryStore

/-- What comes of a step that calculates the value of a key from a field of its record. -/
def Calculated (ctx : Context) (s : MemoryStore) (recordId : Option String) (field key : String)
    (calculation : Value → Except StepError Value) : StepOutcome → MemoryStore → Prop
  | .completed output _, after => ∃ record value changed, IsTarget ctx s recordId record ∧
      calculation (fieldValue record field) = .ok value ∧ value.Numeric ∧
      output.member? "value" = some value ∧ after.get? .records record.id = some changed ∧
      fieldValue changed key = value
  | .failed _ _, after => after = s
  | .crashed _, after => after = s ∨
      ∃ record value, IsTarget ctx s recordId record ∧ calculation (fieldValue record field) = .ok value

variable {idAt : Nat → String} {engine : Engine} {ctx : Context} {step : Step} {p : Primitive}
  {s after : MemoryStore} {t : Transform} {record : Document} {c : DataChange} {field : String}
  {target recordId : Option String} {amount : Option Binary64} {decimals : Option Nat}

/-- A step that finds nothing to intend leaves the store as it is, however it ends. -/
private theorem runStep_plans (mutates : step.type.mutates = true)
    (parsed : Command.parse step.type step.id (Template.resolve ctx step.config) = .ok (.primitive p)) :
    (engine.runStep step ctx).Meets (world idAt) .free
      (fun _ after => after = s ∨ ∃ intent, Intended ctx s p intent) s := by
  obtain ⟨id, type, name, config, thenSteps, elseSteps, steps⟩ := step
  have same : p.type.mutates = true := Command.type_of_parse parsed ▸ mutates
  have plans : (engine.runPrimitive ctx id p).Meets (world idAt) .free
      (fun _ after => after = s ∨ ∃ intent, Intended ctx s p intent)
      (fun _ after => after = s ∨ ∃ intent, Intended ctx s p intent) s := by
    rw [runPrimitive_eq engine ctx id same]
    refine (plan_intends reading_world same).before (fun _ _ => .inl rfl) fun intent intended => ?_
    exact (Work.meets_any _ s).mono (fun _ _ _ => .inr ⟨intent, intended⟩)
      fun _ _ _ => .inr ⟨intent, intended⟩
  unfold runStep
  rw [parsed]
  refine Program.Meets.bind plans ?_
  rintro (stop | v) after post
  · cases stop <;> exact post
  · exact post

private theorem change_transform (changes : FieldCommand.change record
      (.transform field t.name target amount decimals) = .ok c) :
    ∃ value, t.apply (fieldValue record field) amount decimals = .ok value ∧ c.value = some value ∧
      c.change.field = (Command.nonBlank? target).getD field ∧ c.output.lookup "value" = some value ∧
      (("recordId" :: c.output.map (·.1))).Nodup := by
  obtain ⟨value, calculated, done⟩ := Decode.except_bind_ok.mp changes
  rw [Transform.applyNamed_name] at calculated
  cases done
  exact ⟨value, calculated, rfl, rfl, rfl, by simp [DataChange.setting]⟩

/-- A change that was carried out is what the record has, and the audit log was told. -/
private theorem changed_of_carried {stepId : String} {now : Time.Instant} {v : Value}
    (target : IsTarget ctx s recordId record)
    (carried : Carried (world idAt) ctx stepId s (.change ctx record c now) v after) :
    v = .ofPairs (("recordId", .string record.id) :: c.output) ∧
      after.get? .records record.id =
        some { record with fields := (c.update now).applyFields record.fields } := by
  cases carried with
  | act clears does encoded told =>
  cases clears
  obtain ⟨-, doc, found, rfl⟩ := update_performed (c.expect_update now) does
  cases found.symm.trans target.stored
  have others := docs_of_world told (show Table.auditLogs ≠ .records from nofun)
  refine ⟨rfl, ?_⟩
  rw [get?, others]
  exact get?_place s .records { record with fields := (c.update now).applyFields record.fields }

private theorem calculated_of_comes {outcome : StepOutcome} (calculates : t.calculates = true)
    (parsed : Command.parse step.type step.id (Template.resolve ctx step.config) =
      .ok (.primitive (.field (.transform field t.name target amount decimals) recordId)))
    (comes : Comes (world idAt) (fun _ => True) step ctx s outcome after)
    (plans : after = s ∨ ∃ intent,
      Intended ctx s (.field (.transform field t.name target amount decimals) recordId) intent) :
    Calculated ctx s recordId field ((Command.nonBlank? target).getD field)
      (Transform.applyNamed t.name · amount decimals) outcome after := by
  cases outcome with
  | completed output next =>
    obtain ⟨-, p, intent, parsed', intended, carried⟩ := comes
    cases parsed.symm.trans parsed'
    cases intended with
    | change here changes =>
    obtain ⟨value, calculated, is, key, told, distinct⟩ := change_transform changes
    obtain ⟨rfl, stored⟩ := changed_of_carried here carried
    refine ⟨_, value, _, here, (Transform.applyNamed_name ..).trans calculated,
      (Transform.apply_ok calculates calculated).1, ?_, stored, ?_⟩
    · rw [Json.Members.member?_ofPairs (by simpa using distinct)]
      exact told
    · rw [DataChange.fieldValue_update, if_pos key, is, Option.getD_some]
  | failed e output =>
    obtain unchanged | ⟨p, parsed', abandoned⟩ := comes
    · exact unchanged
    cases parsed.symm.trans parsed'
    cases abandoned with
    | early => rfl
    | late intended part cleared =>
      cases intended with
      | change here changes =>
        obtain rfl := List.prefix_nil.mp part
        cases cleared
        rfl
  | crashed crash =>
    refine plans.imp_right ?_
    rintro ⟨intent, intended⟩
    cases intended with
    | change here changes =>
      obtain ⟨value, calculated, -⟩ := change_transform changes
      exact ⟨_, value, here, (Transform.applyNamed_name ..).trans calculated⟩

/-- Rounding, counting up and counting down never give anything but a number: from a value that reads as
none, or as one that is not finite, they fail. Up to 2 ^ 53 they are exact on integers. A step that does
one of these has written the number when it completes; if it fails nothing is changed, and if it crashes
nothing is changed either unless the calculation has succeeded. -/
theorem calculations_numeric :
    (∀ t : Transform, t.calculates = true → ∀ (value : Value) amount decimals,
      (∃ e, Transform.applyNamed t.name value amount decimals = .error e) ∨
      ∃ result, Transform.applyNamed t.name value amount decimals = .ok result ∧ result.Numeric ∧
        ∀ x, value.toBinary64? = some x → x.isFinite = true) ∧
    (∀ n : Int, n.natAbs ≤ Binary64.wholeLimit →
      (∀ a : Int, a.natAbs ≤ Binary64.wholeLimit → ∀ decimals,
        ((n + a).natAbs ≤ Binary64.wholeLimit →
          Transform.applyNamed Transform.increment.name (.ofInt n) (some (.ofInt a)) decimals =
            .ok (.ofInt (n + a))) ∧
        ((n - a).natAbs ≤ Binary64.wholeLimit →
          Transform.applyNamed Transform.decrement.name (.ofInt n) (some (.ofInt a)) decimals =
            .ok (.ofInt (n - a)))) ∧
      ∀ amount, Transform.applyNamed Transform.round.name (.ofInt n) amount none = .ok (.ofInt n)) ∧
    ∀ {τ : Type} (engine : Engine) (around : Surroundings τ) (step : Step) (ctx : Context)
      (t : Transform) field target amount decimals recordId, t.calculates = true →
      Command.parse step.type step.id (Template.resolve ctx step.config) =
        .ok (.primitive (.field (.transform field t.name target amount decimals) recordId)) →
      ∀ store s, let ran := (engine.runStep step ctx).run around.environment (store, s)
        Calculated ctx store recordId field ((Command.nonBlank? target).getD field)
          (Transform.applyNamed t.name · amount decimals) ran.1 ran.2.1 := by
  refine ⟨?_, ?_, ?_⟩
  · intro t calculates value amount decimals
    rw [Transform.applyNamed_name]
    cases done : t.apply value amount decimals with
    | error e => exact .inl ⟨e, rfl⟩
    | ok result =>
      obtain ⟨numeric, finite, -⟩ := Transform.apply_ok calculates done
      exact .inr ⟨result, rfl, numeric, finite⟩
  · intro n small
    have counts := Json.Value.counts_ofInt small
    refine ⟨fun a small' decimals => ?_, fun amount => ?_⟩
    · have amount := Binary64.isInt_ofInt small'
      constructor
      · exact Transform.applyNamed_adds (.inl ⟨rfl, amount⟩) counts
      · refine Transform.applyNamed_adds (.inr ⟨rfl, ?_⟩) counts
        rwa [Int.neg_neg]
    · exact Transform.applyNamed_round rfl (Binary64.isInt_ofInt small) small
  · intro τ engine around step ctx t field target amount decimals recordId calculates parsed store s
    have type : step.type = .transformField := (Command.type_of_parse parsed).symm
    have mutates : step.type.mutates = true := type ▸ rfl
    have comes : (engine.runStep step ctx).Meets (MemoryStore.world around.idAt) .free
      (Comes (MemoryStore.world around.idAt) (fun _ => True) step ctx store) store :=
        runStep_comes reading_world mutates
    have plans : (engine.runStep step ctx).Meets (MemoryStore.world around.idAt) .free _ store :=
      runStep_plans mutates parsed
    exact calculated_of_comes calculates parsed
      (comes.run (s := (store, s)) Prod.fst (world_environment around))
      (plans.run (s := (store, s)) Prod.fst (world_environment around))

section

private def rounding : Step :=
  ⟨"up", .transformField, none, .object [("field", .string "n"), ("transform", .string "round")],
    [], [], []⟩

private def aboutNumber : Context := .initial "w" none (some ⟨"r", 0, none, []⟩) none

/-- A record whose key spells a number. -/
private def spelled (text : String) : MemoryStore where
  records := [⟨"r", 0, [("data", .object [("n", .string text)]), ("workspaceId", .string "w")]⟩]

private theorem rounding_parsed : Command.parse rounding.type rounding.id
    (Template.resolve aboutNumber rounding.config) =
      .ok (.primitive (.field (.transform "n" Transform.round.name none none none) none)) := by
  cbv

private def completes? : StepOutcome → Option Bool
  | .completed _ _ => some true
  | .failed _ _ => some false
  | .crashed _ => none

variable {key : String} {calculation : Value → Except StepError Value} {outcome : StepOutcome}

private theorem Calculated.kept (h : Calculated ctx s recordId field key calculation outcome after)
    (failed : completes? outcome = some false) : after = s := by
  cases outcome <;> first | exact h | cases failed

private theorem Calculated.written (h : Calculated ctx s recordId field key calculation outcome after)
    (completed : completes? outcome = some true) : ∃ record changed, IsTarget ctx s recordId record ∧
      after.get? .records record.id = some changed ∧ (fieldValue changed key).Numeric := by
  cases outcome with
  | completed output next =>
    obtain ⟨record, value, changed, here, -, numeric, -, stored, rfl⟩ := h
    exact ⟨record, changed, here, stored, numeric⟩
  | failed e output => cases completed
  | crashed crash => cases completed

/-- A text that spells a number beyond all others is not rounded and stays, while one that spells a number
of common size becomes the nearest integer. -/
theorem calculations_numeric_spelled :
    let ran (text : String) := (bareEngine.runStep rounding aboutNumber).run
      Surroundings.still.environment (spelled text, ())
    (∃ e, Transform.applyNamed Transform.round.name (.string "1e999") none none = .error e) ∧
      (ran "1e999").2.1 = spelled "1e999" ∧
      ∃ changed, (ran "41.6").2.1.get? .records "r" = some changed ∧ (fieldValue changed "n").Numeric := by
  obtain ⟨numbers, -, steps⟩ := calculations_numeric
  have went (text : String) := steps bareEngine .still rounding aboutNumber .round "n" none none none none
    rfl rounding_parsed (spelled text) ()
  refine ⟨?_, ?_, ?_⟩
  · obtain failed | ⟨result, -, -, finite⟩ := numbers .round rfl (.string "1e999") none none
    · exact failed
    · have infinite : (Value.string "1e999").toBinary64? = some (.infinite false) := by decide +kernel
      cases finite _ infinite
  · have failed : completes? ((bareEngine.runStep rounding aboutNumber).run
        Surroundings.still.environment (spelled "1e999", ())).1 = some false := by decide +kernel
    exact (went "1e999").kept failed
  · have completed : completes? ((bareEngine.runStep rounding aboutNumber).run
        Surroundings.still.environment (spelled "41.6", ())).1 = some true := by decide +kernel
    obtain ⟨record, changed, here, stored, numeric⟩ := (went "41.6").written completed
    obtain named : "r" = record.id := Except.ok.inj here.named
    exact ⟨changed, named ▸ stored, numeric⟩

end

end Engine
end Automation
