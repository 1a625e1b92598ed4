import Automation.Proofs.Condition.Equality
import Automation.Proofs.Condition.Order

/-!
How integers compare. Every comparison looks at the nearest binary64 numbers, so of two integers one is
always found equal, less or greater, and never less where it is greater; but two different integers beyond
2 ^ 53 may be found equal. Where binary64 keeps the integers apart that stand at the same place, equality is
exact, also inside arrays and objects.
-/
namespace Automation

open Json (Number Value)
open Json.Value (Same)

namespace Condition

/-- Of equality, less and greater. -/
def comparing : List Operator := [.equals, .lessThan, .greaterThan]

/-- Binary64 keeps two integers apart if one of them is below 2 ^ 53, if it holds both, or if both have 64
bits and are more than 2 ^ 11 apart. -/
inductive KeptApart (i j : Int) : Prop
  | below (h : i.natAbs < 2 ^ 53)
  | above (h : j.natAbs < 2 ^ 53)
  | held (h : Binary64.Held i) (h' : Binary64.Held j)
  | far (h : i.natAbs < 2 ^ 64) (h' : j.natAbs < 2 ^ 64) (distance : 2 ^ 11 < (i - j).natAbs)

section Numbers

variable {m n : Number} {op : Operator} {i j : Int}

private theorem holds_number_iff (ordering : op ∈ Operator.ordering) :
    op.Holds (.number m) (.number n) ↔ op.Asks m.place n.place := by
  have unmixed : ¬ Mixed (.number m) (.number n) := nofun
  rw [holds_iff_relates ordering unmixed]
  constructor
  · rintro (⟨⟨⟩, ⟨⟩, hp, hq, asked⟩ | _)
    rw [Number.place?_toBinary64, Option.some.injEq] at hp hq
    rwa [hp, hq]
  · exact fun asked => .numbers rfl rfl m.place?_toBinary64 n.place?_toBinary64 asked

private theorem equals_iff : Operator.equals.Holds (.ofInt i) (.ofInt j) ↔
    Binary64.intPlace i = Binary64.intPlace j :=
  Number.same_iff_near

private theorem lessThan_iff : Operator.lessThan.Holds (.ofInt i) (.ofInt j) ↔
    Binary64.intPlace i < Binary64.intPlace j :=
  holds_number_iff (by decide)

private theorem greaterThan_iff : Operator.greaterThan.Holds (.ofInt i) (.ofInt j) ↔
    Binary64.intPlace j < Binary64.intPlace i :=
  holds_number_iff (by decide)

/-- Places are in order only if the integers are. -/
private theorem lt_of_intPlace (h : Binary64.intPlace i < Binary64.intPlace j) : i < j :=
  lt_of_not_ge fun le => absurd h (not_lt_of_ge (Binary64.intPlace_mono le))

private theorem comparing_unique (i j : Int) :
    ∃! op, op ∈ comparing ∧ op.Holds (.ofInt i) (.ofInt j) := by
  have only {op : Operator} (here : op ∈ comparing ∧ op.Holds (.ofInt i) (.ofInt j))
      (others : ∀ other ∈ comparing, other.Holds (.ofInt i) (.ofInt j) → other = op) :
      ∃! op, op ∈ comparing ∧ op.Holds (.ofInt i) (.ofInt j) :=
    ⟨op, here, fun other h => others other h.1 h.2⟩
  simp only [comparing, List.forall_mem_cons, equals_iff, lessThan_iff, greaterThan_iff] at only
  rcases lt_trichotomy (Binary64.intPlace i) (Binary64.intPlace j) with less | same | greater
  · exact only ⟨.tail _ (.head _), lessThan_iff.mpr less⟩
      ⟨fun h => absurd h less.ne, fun _ => rfl, fun h => absurd h less.asymm, by simp⟩
  · exact only ⟨.head _, equals_iff.mpr same⟩
      ⟨fun _ => rfl, fun h => absurd same h.ne, fun h => absurd same.symm h.ne, by simp⟩
  · exact only ⟨.tail _ (.tail _ (.head _)), greaterThan_iff.mpr greater⟩
      ⟨fun h => absurd h greater.ne', fun h => absurd h greater.asymm, fun _ => rfl, by simp⟩

theorem KeptApart.resolved (h : KeptApart i j) : (Number.int i).Resolved (.int j) := by
  intro same
  rw [Number.exact_int]
  cases h with
  | below small => exact Binary64.eq_of_small small same
  | above small => exact (Binary64.eq_of_small small same.symm).symm
  | held hi hj => exact Binary64.eq_of_held hi hj same
  | far hi hj distance => exact absurd same (Binary64.intPlace_ne_of_far hi hj distance)

end Numbers

section Values

private theorem agrees_iff {doc : Document} {path : String} {value : Value} :
    doc.agrees path value = true ↔ ∃ found, doc.get? path = some found ∧ Same found value := by
  unfold Document.agrees
  cases doc.get? path <;> simp [Same]

/-- Tests by equality are exact where binary64 mixes up no value found with the one given. -/
private theorem all_agrees_iff {doc : Document} {tests : List (String × Value)}
    (resolved : ∀ path value, (path, value) ∈ tests → ∀ found, doc.get? path = some found →
      found.Resolved value) :
    (tests.all fun (path, value) => doc.agrees path value) = true ↔ ∀ path value, (path, value) ∈ tests →
      ∃ found, doc.get? path = some found ∧ found.Exact value := by
  rw [List.all_eq_true]
  constructor
  · intro all path value mem
    obtain ⟨found, there, same⟩ := agrees_iff.mp (all _ mem)
    exact ⟨found, there, (Value.same_iff_exact (resolved path value mem found there)).mp same⟩
  · rintro all ⟨path, value⟩ mem
    obtain ⟨found, there, equal⟩ := all path value mem
    exact agrees_iff.mpr ⟨found, there, Value.same_of_exact equal⟩

end Values

/-- Of equality, less and greater just one holds between two integers; equal integers are found equal, and
an integer is found less or greater only if it is. All three are exact between integers that binary64 keeps
apart, and then so is equality of values with such integers at any depth, be it asked by an operator, by
the filters of a query or by the preconditions of an update. Integers are kept apart if one of them is below
2 ^ 53, if binary64 holds both, or if both have 64 bits and are more than 2 ^ 11 apart. -/
theorem integers_compared (i j : Int) :
    (∃! op, op ∈ comparing ∧ op.Holds (.ofInt i) (.ofInt j)) ∧
    (i = j → Operator.equals.Holds (.ofInt i) (.ofInt j)) ∧
    (Operator.lessThan.Holds (.ofInt i) (.ofInt j) → i < j) ∧
    (Operator.greaterThan.Holds (.ofInt i) (.ofInt j) → j < i) ∧
    ((Number.int i).Resolved (.int j) →
      (Operator.equals.Holds (.ofInt i) (.ofInt j) ↔ i = j) ∧
      (Operator.lessThan.Holds (.ofInt i) (.ofInt j) ↔ i < j) ∧
      (Operator.greaterThan.Holds (.ofInt i) (.ofInt j) ↔ j < i)) ∧
    (KeptApart i j → (Number.int i).Resolved (.int j)) ∧
    ((Value.ofInt i).Exact (.ofInt j) ↔ i = j) ∧
    (∀ a b : Value, a.Resolved b →
      (a.same b = true ↔ a.Exact b) ∧ (Operator.equals.Holds a b ↔ a.Exact b)) ∧
    (∀ (a : Value) choices, (∀ b ∈ choices, a.Resolved b) →
      (Operator.isIn.Holds a (.array choices) ↔ ∃ b ∈ choices, a.Exact b)) ∧
    (∀ (q : Query) (doc : Document), (∀ path value, (path, value) ∈ q.filters →
        ∀ found, doc.get? path = some found → found.Resolved value) →
      (q.accepts doc = true ↔ ∀ path value, (path, value) ∈ q.filters →
        ∃ found, doc.get? path = some found ∧ found.Exact value)) ∧
    (∀ (u : DocumentUpdate) (doc : Document), (∀ path value, (path, value) ∈ u.expect →
        ∀ found, doc.get? path = some found → found.Resolved value) →
      (u.isExpected doc = true ↔ ∀ path value, (path, value) ∈ u.expect →
        ∃ found, doc.get? path = some found ∧ found.Exact value)) := by
  refine ⟨comparing_unique i j, ?_, fun h => lt_of_intPlace (lessThan_iff.mp h),
    fun h => lt_of_intPlace (greaterThan_iff.mp h), ?_, KeptApart.resolved, Value.exact_ofInt, ?_, ?_,
    fun q doc => all_agrees_iff, fun u doc => all_agrees_iff⟩
  · rintro rfl
    exact equals_iff.mpr rfl
  · intro resolved
    have equal : Binary64.intPlace i = Binary64.intPlace j ↔ i = j :=
      ⟨fun same => Number.exact_int.mp (resolved same), fun same => congrArg _ same⟩
    have less : i < j → Binary64.intPlace i < Binary64.intPlace j := fun h =>
      lt_of_le_of_ne (Binary64.intPlace_mono h.le) fun same => h.ne (equal.mp same)
    have greater : j < i → Binary64.intPlace j < Binary64.intPlace i := fun h =>
      lt_of_le_of_ne (Binary64.intPlace_mono h.le) fun same => h.ne' (equal.mp same.symm)
    rw [equals_iff, lessThan_iff, greaterThan_iff]
    exact ⟨equal, ⟨lt_of_intPlace, less⟩, ⟨lt_of_intPlace, greater⟩⟩
  · intro a b resolved
    exact ⟨Value.same_iff_exact resolved, Value.same_iff_exact resolved⟩
  · intro a choices resolved
    have held : Operator.isIn.Holds a (.array choices) ↔ ∃ b ∈ choices, Same a b := List.any_eq_true
    rw [held]
    exact exists_congr fun b => and_congr_right fun mem => Value.same_iff_exact (resolved b mem)

/-- Two neighbours beyond 2 ^ 53 are found equal, and neither less nor greater, alone and inside an array. -/
theorem integers_mixedUp :
    Operator.equals.Holds (.ofInt 9007199254740993) (.ofInt 9007199254740992) ∧
      ¬ Operator.greaterThan.Holds (.ofInt 9007199254740993) (.ofInt 9007199254740992) ∧
      Operator.equals.Holds (.array [.ofInt 9007199254740993]) (.array [.ofInt 9007199254740992]) ∧
      (9007199254740993 : Int) ≠ 9007199254740992 := by
  unfold Operator.Holds
  decide +kernel

end Condition
end Automation
