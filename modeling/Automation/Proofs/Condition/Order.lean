import Automation.Condition.Evaluation
import Automation.Proofs.Number.Rounding

/-!
The order that conditions see in values: numbers and texts that spell numbers lie on one line, and other
texts are ordered by their characters. Both orders are strict, transitive and free of cycles. A text that
spells a number is taken for a mere text when it meets one, and there the two do not fit together.
-/
namespace Automation

open Json (Value)

namespace Operator

/-- The operators that ask for an order. -/
def ordering : List Operator := [greaterThan, lessThan, greaterThanOrEquals, lessThanOrEquals]

/-- What an operator asks of two things in an order. -/
def Asks {α : Type} [LT α] [LE α] (op : Operator) (a b : α) : Prop :=
  match op with
  | greaterThan => b < a
  | lessThan => a < b
  | greaterThanOrEquals => b ≤ a
  | lessThanOrEquals => a ≤ b
  | _ => False

/-- The operator holds between the value of a field and that of a condition. -/
def Holds (op : Operator) (a b : Value) : Prop := Condition.holdsFor op (some a) (some b) = true

/-- What an operator asks of the places of two numbers, or of texts that spell them, or else of the
characters of two texts. -/
inductive Relates (op : Operator) : Value → Value → Prop
  | numbers {a b : Value} {x y : Binary64} {p q : WithBot (WithTop Int)} (left : a.toBinary64? = some x)
      (right : b.toBinary64? = some y) (hp : x.place? = some p) (hq : y.place? = some q)
      (asked : op.Asks p q) : Relates op a b
  | texts {s t : String} (left : (Value.string s).toBinary64? = none)
      (right : (Value.string t).toBinary64? = none) (asked : op.Asks s t) :
      Relates op (.string s) (.string t)

end Operator

namespace Condition

open Operator (Relates)

/-- Two texts, only one of which spells a number. -/
inductive Mixed : Value → Value → Prop
  | texts {s t : String}
      (differ : (Value.string s).toBinary64?.isSome ≠ (Value.string t).toBinary64?.isSome) :
      Mixed (.string s) (.string t)

variable {op : Operator} {a b c : Value}

/-- The orders that an operator is content with. -/
private def accepts : Operator → Ordering → Bool
  | .greaterThan => Ordering.isGT
  | .lessThan => Ordering.isLT
  | .greaterThanOrEquals => Ordering.isGE
  | .lessThanOrEquals => Ordering.isLE
  | _ => fun _ => false

private theorem accepts_iff {α : Type} [LinearOrder α] {p q : α} {order : Ordering}
    (h : order.Compares p q) : accepts op order = true ↔ op.Asks p q := by
  cases order with
  | lt =>
    have below : p < q := h
    cases op <;> simp [accepts, Operator.Asks, below, below.le, below.not_gt]
  | eq =>
    have same : p = q := h
    cases op <;> simp [accepts, Operator.Asks, same]
  | gt =>
    have above : q < p := h
    cases op <;> simp [accepts, Operator.Asks, above, above.le, above.not_gt]

private theorem compares_text (s t : String) : (compare s t).Compares s t := by
  have order := cmp_compares s t
  rwa [cmp_eq_compare] at order

private theorem holds_iff_order (ordering : op ∈ Operator.ordering) :
    op.Holds a b ↔ ∃ order, order? a b = some order ∧ accepts op order = true := by
  have any (accept : Ordering → Bool) : ordered accept (some a) (some b) = true ↔
      ∃ order, order? a b = some order ∧ accept order = true := by
    cases found : order? a b with
    | none => simp [ordered, found]
    | some order => simp [ordered, found]
  simp only [Operator.ordering, List.mem_cons, List.not_mem_nil, or_false] at ordering
  rcases ordering with rfl | rfl | rfl | rfl <;> exact any _

/-- Numbers have the order of their places, if they have any. -/
private theorem holds_numbers (ordering : op ∈ Operator.ordering) {x y : Binary64}
    (left : a.toBinary64? = some x) (right : b.toBinary64? = some y) :
    op.Holds a b ↔ op.Relates a b := by
  have found : order? a b = x.compare? y := by simp [order?, left, right]
  rw [holds_iff_order ordering, found]
  constructor
  · rintro ⟨order, compared, accepted⟩
    obtain ⟨p, q, hp, hq⟩ := Binary64.places_of_compare? compared
    obtain ⟨_, same, compares⟩ := Binary64.compare?_places hp hq
    cases compared.symm.trans same
    exact .numbers left right hp hq ((accepts_iff compares).mp accepted)
  · rintro (⟨left', right', hp, hq, asked⟩ | ⟨none, -, -⟩)
    · cases left.symm.trans left'
      cases right.symm.trans right'
      obtain ⟨order, compared, compares⟩ := Binary64.compare?_places hp hq
      exact ⟨order, compared, (accepts_iff compares).mpr asked⟩
    · cases left.symm.trans none

/-- Two texts that are not both numbers have the order of their characters. -/
private theorem holds_texts (ordering : op ∈ Operator.ordering) {s t : String}
    (either : (Value.string s).toBinary64? = none ∨ (Value.string t).toBinary64? = none) :
    op.Holds (.string s) (.string t) ↔ op.Asks s t := by
  have found : order? (.string s) (.string t) = some (compare s t) := by
    unfold order?
    split
    · next x y left right => simp [left, right] at either
    · rfl
  simp [holds_iff_order ordering, found, accepts_iff (compares_text s t)]

/-- Values that are neither two numbers nor two texts have no order. -/
private theorem not_holds (ordering : op ∈ Operator.ordering)
    (either : a.toBinary64? = none ∨ b.toBinary64? = none)
    (other : ∀ s t, a = .string s → b ≠ .string t) : ¬ op.Holds a b := by
  have unlike : order? a b = none := by
    unfold order?
    split
    · next x y left right => simp [left, right] at either
    · split
      · next s t _ => exact absurd rfl (other s t rfl)
      · rfl
  simp [holds_iff_order ordering, unlike]

/-- Unless a text that spells a number meets one that does not, an operator holds where it is meant to. -/
theorem holds_iff_relates (ordering : op ∈ Operator.ordering) (unmixed : ¬ Mixed a b) :
    op.Holds a b ↔ op.Relates a b := by
  by_cases numbers : a.toBinary64?.isSome ∧ b.toBinary64?.isSome
  · obtain ⟨x, left⟩ := Option.isSome_iff_exists.mp numbers.1
    obtain ⟨y, right⟩ := Option.isSome_iff_exists.mp numbers.2
    exact holds_numbers ordering left right
  · have either : a.toBinary64? = none ∨ b.toBinary64? = none := by
      simpa only [not_and_or, Option.not_isSome_iff_eq_none] using numbers
    by_cases texts : ∃ s t, a = .string s ∧ b = .string t
    · obtain ⟨s, t, rfl, rfl⟩ := texts
      have same : (Value.string s).toBinary64?.isSome = (Value.string t).toBinary64?.isSome :=
        not_not.mp fun differ => unmixed (.texts differ)
      have both : (Value.string s).toBinary64? = none ∧ (Value.string t).toBinary64? = none := by
        rcases either with none | none <;> simpa [none] using same
      rw [holds_texts ordering either]
      refine ⟨.texts both.1 both.2, fun related => ?_⟩
      cases related with
      | numbers left _ _ _ _ => cases both.1.symm.trans left
      | texts _ _ asked => exact asked
    · have other (s t : String) (left : a = .string s) : b ≠ .string t :=
        fun right => texts ⟨s, t, left, right⟩
      refine iff_of_false (not_holds ordering either other) ?_
      rintro (⟨left, right, -, -, -⟩ | ⟨-, -, -⟩)
      · simp [left, right] at either
      · exact other _ _ rfl rfl

/-- What is compared as it is meant to be is not mixed. -/
private theorem not_mixed (h : op.Relates a b) : ¬ Mixed a b := by
  rintro ⟨differ⟩
  rcases h with ⟨left, right, -, -, -⟩ | ⟨left, right, -⟩ <;> simp [left, right] at differ

theorem Mixed.symm (h : Mixed a b) : Mixed b a := by
  obtain ⟨differ⟩ := h
  exact .texts differ.symm

/-- A text that spells a number is compared with one that does not by its characters. -/
private theorem holds_mixed (ordering : op ∈ Operator.ordering) {s t : String}
    (mixed : Mixed (.string s) (.string t)) : op.Holds (.string s) (.string t) ↔ op.Asks s t := by
  refine holds_texts ordering ?_
  obtain ⟨differ⟩ := mixed
  rw [← Option.not_isSome_iff_eq_none, ← Option.not_isSome_iff_eq_none, ← not_and_or]
  rintro ⟨left, right⟩
  exact differ (left.trans right.symm)

private theorem relates_trans (first : Relates .lessThan a b) (second : Relates .lessThan b c) :
    Relates .lessThan a c := by
  rcases first with ⟨left, middle, hp, hq, below⟩ | ⟨left, middle, below⟩
  · rcases second with ⟨middle', right, hq', hr, above⟩ | ⟨middle', -, -⟩
    · cases middle.symm.trans middle'
      cases hq.symm.trans hq'
      exact .numbers left right hp hr (lt_trans below above)
    · cases middle.symm.trans middle'
  · cases second with
    | numbers middle' _ _ _ _ => cases middle.symm.trans middle'
    | texts _ right above => exact .texts left right (lt_trans below above)

private theorem relates_irrefl : ¬ Relates .lessThan a a := by
  intro h
  cases h with
  | numbers left right hp hq below =>
    cases left.symm.trans right
    cases hp.symm.trans hq
    exact lt_irrefl _ below
  | texts _ _ below => exact lt_irrefl _ below

private theorem relates_swap : Relates .greaterThan a b ↔ Relates .lessThan b a := by
  constructor
  · rintro (⟨left, right, hp, hq, above⟩ | ⟨left, right, above⟩)
    · exact .numbers right left hq hp above
    · exact .texts right left above
  · rintro (⟨left, right, hp, hq, below⟩ | ⟨left, right, below⟩)
    · exact .numbers right left hq hp below
    · exact .texts right left below

private theorem lessThan_irrefl : ¬ Operator.lessThan.Holds a a := by
  have unmixed : ¬ Mixed a a := by
    rintro ⟨differ⟩
    exact differ rfl
  rw [holds_iff_relates (by decide) unmixed]
  exact relates_irrefl

private theorem greaterThan_swap : Operator.greaterThan.Holds a b ↔ Operator.lessThan.Holds b a := by
  have greater : Operator.greaterThan ∈ Operator.ordering := by decide
  have less : Operator.lessThan ∈ Operator.ordering := by decide
  by_cases mixed : Mixed a b
  · obtain ⟨differ⟩ := mixed
    exact (holds_mixed greater (.texts differ)).trans (holds_mixed less (.texts differ.symm)).symm
  · rw [holds_iff_relates greater mixed, holds_iff_relates less fun h => mixed h.symm]
    exact relates_swap

/-- The operators that ask for an order compare numbers and texts that spell numbers by their places, two
other texts by their characters, and find nothing else in order, but that they also compare a text that
spells a number with one that does not, by their characters. No value is less than itself and `greaterThan`
is the converse of `lessThan`, for all values. Where no two such texts meet, `lessThan` is transitive and
three values are in no cycle. -/
theorem ordering_consistent (a b c : Value) :
    (∀ op ∈ Operator.ordering, ¬ Mixed a b → (op.Holds a b ↔ op.Relates a b)) ∧
    (∀ op ∈ Operator.ordering, ∀ s t, a = .string s → b = .string t → Mixed a b →
      (op.Holds a b ↔ op.Asks s t)) ∧
    ¬ Operator.lessThan.Holds a a ∧
    (Operator.greaterThan.Holds a b ↔ Operator.lessThan.Holds b a) ∧
    (¬ Mixed a b → ¬ Mixed b c → Operator.lessThan.Holds a b → Operator.lessThan.Holds b c →
      Operator.lessThan.Holds a c ∧ ¬ Operator.lessThan.Holds c a) := by
  have less : Operator.lessThan ∈ Operator.ordering := by decide
  refine ⟨fun op ordering => holds_iff_relates ordering, ?_, lessThan_irrefl, greaterThan_swap,
    fun unmixed unmixed' first second => ?_⟩
  · rintro op ordering s t rfl rfl mixed
    exact holds_mixed ordering mixed
  · rw [holds_iff_relates less unmixed] at first
    rw [holds_iff_relates less unmixed'] at second
    have across := relates_trans first second
    have apart := not_mixed across
    refine ⟨(holds_iff_relates less apart).mpr across, fun back => ?_⟩
    rw [holds_iff_relates less fun mixed => apart mixed.symm] at back
    exact relates_irrefl (relates_trans across back)

/-- Three texts in a cycle: the first two spell numbers and the last one does not. -/
theorem lessThan_cyclic :
    (Value.string "9").toBinary64?.isSome ∧ (Value.string "10").toBinary64?.isSome ∧
      (Value.string "5a").toBinary64? = none ∧ Operator.lessThan.Holds (.string "9") (.string "10") ∧
      Operator.lessThan.Holds (.string "10") (.string "5a") ∧
      Operator.lessThan.Holds (.string "5a") (.string "9") := by
  unfold Operator.Holds
  decide +kernel

end Condition
end Automation
