import Automation.Condition.Evaluation
import Automation.Proofs.Json.Sameness
import Automation.Store.Update

/-!
Equality as conditions, filters and preconditions ask for it. What they answer depends on no more than the
classes of equal values that the values found and given belong to, and not on which of the two comes first.
-/
namespace Automation

open Json (Members Value)
open Json.Value (EqualBy Same same_congr same_comm same_iff)

/-- The operators that ask for equality. -/
def Operator.equating : List Operator := [equals, notEquals, isIn, isNotIn]

/-- Equal, where a missing value counts as null. -/
def SameOrNull (a b : Option Value) : Prop := Same (a.getD .null) (b.getD .null)

/-- The same paths with equal values. -/
def SameTests (tests others : List (String × Value)) : Prop :=
  List.Forall₂ (fun test other => test.1 = other.1 ∧ Same test.2 other.2) tests others

/-- Equal fields; the id and the creation time may differ. -/
def Document.SameFields (doc other : Document) : Prop := Same (.object doc.fields) (.object other.fields)

section Relations

private theorem rel_same {a b : Option Value} (h : Option.Rel (EqualBy Json.Number.Near) a b) :
    Option.Rel Same a b := by
  cases h with
  | none => exact .none
  | some equal => exact .some (same_iff.mpr equal)

theorem sameOrNull_of_rel {a b : Option Value} (h : Option.Rel Same a b) : SameOrNull a b := by
  cases h with
  | none => exact Value.same_equivalence.refl _
  | some equal => exact equal

theorem any_congr {a b : Option Value} {v w : Value} (found : Option.Rel Same a b) (given : Same v w) :
    a.any (·.same v) = b.any (·.same w) := by
  cases found with
  | none => rfl
  | some equal => exact same_congr equal given

theorem rel_lookup? {a b : Value} (h : Same a b) (path : String) :
    Option.Rel Same (a.lookup? path) (b.lookup? path) :=
  rel_same (Value.lookup?_congr (same_iff.mp h) path)

end Relations

namespace Condition

variable {op : Operator} {left left' right right' : Option Value}

theorem memberOf_congr {choices choices' : List Value} (h : SameOrNull left left')
    (each : List.Forall₂ Same choices choices') : memberOf left choices = memberOf left' choices' := by
  unfold memberOf
  induction each with
  | nil => rfl
  | cons equal _ ih => rw [List.any_cons, List.any_cons, same_congr h equal, ih]

theorem holdsFor_isIn (left right : Option Value) :
    holdsFor .isIn left right = (right.getD .null).asArray?.any (memberOf left) := by
  cases right with
  | none => rfl
  | some value => cases value <;> rfl

theorem holdsFor_isNotIn (left right : Option Value) :
    holdsFor .isNotIn left right = (right.getD .null).asArray?.any (!memberOf left ·) := by
  cases right with
  | none => rfl
  | some value => cases value <;> rfl

theorem rel_asArray? {a b : Value} (h : Same a b) :
    Option.Rel (List.Forall₂ Same) a.asArray? b.asArray? := by
  have equal := same_iff.mp h
  cases equal with
  | array size items =>
    exact .some ((EqualBy.array_iff.mp (.array size items)).imp fun _ _ => same_iff.mpr)
  | _ => exact .none

theorem holdsFor_congr (equating : op ∈ Operator.equating) (hl : SameOrNull left left')
    (hr : SameOrNull right right') : holdsFor op left right = holdsFor op left' right' := by
  have lists := rel_asArray? hr
  simp only [Operator.equating, List.mem_cons, List.not_mem_nil, or_false] at equating
  rcases equating with rfl | rfl | rfl | rfl
  · exact same_congr hl hr
  · exact congrArg (!·) (same_congr hl hr)
  · rw [holdsFor_isIn, holdsFor_isIn]
    generalize (right.getD .null).asArray? = choices at lists
    generalize (right'.getD .null).asArray? = choices' at lists
    cases lists with
    | none => rfl
    | some each => exact memberOf_congr hl each
  · rw [holdsFor_isNotIn, holdsFor_isNotIn]
    generalize (right.getD .null).asArray? = choices at lists
    generalize (right'.getD .null).asArray? = choices' at lists
    cases lists with
    | none => rfl
    | some each => exact congrArg (!·) (memberOf_congr hl each)

end Condition

namespace Document

variable {doc other : Document}

theorem rel_get? (h : doc.SameFields other) (path : String) :
    Option.Rel Same (doc.get? path) (other.get? path) := by
  unfold get?
  split
  · next head rest _ =>
    have found := rel_same (Value.get?_congr (same_iff.mp h) head)
    generalize doc.fields.get? head = x at found
    generalize other.fields.get? head = y at found
    cases found with
    | none => exact .none
    | some equal => exact rel_lookup? equal rest
  · exact rel_same (Value.get?_congr (same_iff.mp h) path)

/-- Tests by equality come out alike on documents with equal fields. -/
theorem all_agrees_congr {tests others : List (String × Value)} (h : doc.SameFields other)
    (same : SameTests tests others) : (tests.all fun (path, value) => doc.agrees path value) =
      others.all fun (path, value) => other.agrees path value := by
  induction same with
  | nil => rfl
  | @cons test test' _ _ equal _ ih =>
    obtain ⟨path, value⟩ := test
    obtain ⟨path', value'⟩ := test'
    obtain ⟨paths, values⟩ := equal
    cases paths
    have first : doc.agrees path value = other.agrees path value' :=
      any_congr (rel_get? h path) values
    rw [List.all_cons, List.all_cons, ih]
    exact congrArg (· && _) first

end Document

/-- Equality of values is an equivalence. An integer is equal to the float of the same value; in an array
or an object any value may be replaced by an equal one; and two objects are equal just if the one has as
many members as the other and each of its members is found in the other with an equal value. So the
operators that ask for equality, the filters of a query and the preconditions of an update give the same
answer whichever of several equal values is stored or given, and whichever of two values comes first. -/
theorem equality_lawful :
    Equivalence Same ∧
    (∀ (i : Int) (x : Binary64.Finite), x.toUnits = i * (2 ^ Binary64.pointBits : Nat) →
      Same (.ofInt i) (.number (.float x))) ∧
    (∀ (items : List Value) k v w, items[k]? = some v → Same v w →
      Same (.array items) (.array (items.set k w))) ∧
    (∀ (members : Members) key v w, members.Sorted → members.get? key = some v → Same v w →
      Same (.object members) (.object (members.insert key w))) ∧
    (∀ xs ys : Members, xs.Sorted → ys.Sorted → (Same (.object xs) (.object ys) ↔
      xs.length = ys.length ∧ ∀ key v, xs.get? key = some v → ∃ w, ys.get? key = some w ∧ Same v w)) ∧
    (∀ c c' : Condition, ∀ data data', c.operator ∈ Operator.equating → c'.operator = c.operator →
      c'.field = c.field → SameOrNull c.value c'.value → Same data data' →
      c.holds data = c'.holds data') ∧
    (∀ left right, Condition.holdsFor .equals left right = Condition.holdsFor .equals right left ∧
      Condition.holdsFor .notEquals left right = Condition.holdsFor .notEquals right left) ∧
    (∀ left choices, Condition.holdsFor .isIn left (some (.array choices)) =
        choices.any (·.same (left.getD .null)) ∧
      Condition.holdsFor .isNotIn left (some (.array choices)) =
        !choices.any (·.same (left.getD .null))) ∧
    (∀ (doc : Document) path value, doc.agrees path value = (doc.get? path).any (value.same ·)) ∧
    (∀ (q q' : Query) (doc doc' : Document), SameTests q.filters q'.filters → doc.SameFields doc' →
      q.accepts doc = q'.accepts doc') ∧
    (∀ (u u' : DocumentUpdate) (doc doc' : Document), SameTests u.expect u'.expect →
      doc.SameFields doc' → u.isExpected doc = u'.isExpected doc') := by
  refine ⟨Value.same_equivalence, ?_, ?_, ?_, ?_, ?_, ?_, ?_, ?_, ?_, ?_⟩
  · intro i x value
    exact Json.Number.same_iff_near.mpr (Json.Number.near_of_exact value.symm)
  · intro items k v w there equal
    exact same_iff.mpr (Value.array_set Json.Number.near_refl there (same_iff.mp equal))
  · intro members key v w sorted there equal
    exact same_iff.mpr (Value.object_insert Json.Number.near_refl sorted there (same_iff.mp equal))
  · intro xs ys sorted sorted'
    simp only [same_iff]
    exact Value.object_iff_get? sorted sorted'
  · rintro ⟨field, op, value, logic⟩ ⟨field', op', value', logic'⟩ data data' equating ops fields hv hd
    cases ops
    cases fields
    exact Condition.holdsFor_congr equating (sameOrNull_of_rel (rel_lookup? hd field)) hv
  · intro left right
    exact ⟨same_comm _ _, congrArg (!·) (same_comm _ _)⟩
  · intro left choices
    have swapped : Condition.memberOf left choices = choices.any (·.same (left.getD .null)) := by
      unfold Condition.memberOf
      simp only [same_comm]
    exact ⟨swapped, congrArg (!·) swapped⟩
  · intro doc path value
    unfold Document.agrees
    simp only [same_comm]
  · intro q q' doc doc' tests fields
    exact Document.all_agrees_congr fields tests
  · intro u u' doc doc' tests fields
    exact Document.all_agrees_congr fields tests

end Automation
