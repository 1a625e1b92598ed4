import Automation.Condition.Evaluation
import Mathlib.Data.List.Basic

/-!
What a list of conditions says. The fold has no precedence, so an "or" starts afresh: the list holds just
if some condition from which it may start holds, and so do all conditions after that one which are joined
by "and".
-/
namespace Automation.Condition

variable {c : Condition} {conditions rest : List Condition} {data : Json.Value} {result : Bool}

/-- Joined by "or" to what is before it. -/
def Alternative (c : Condition) : Prop := c.logic = some .any

/-- Each condition behind place `k` that is joined by "and" holds. -/
def HoldsBehind (conditions : List Condition) (data : Json.Value) (k : Nat) : Prop :=
  ∀ j c, k < j → conditions[j]? = some c → ¬ c.Alternative → c.holds data = true

/-- At place `k` stands the first condition or an alternative, it holds, and so does what must hold
behind it. -/
def Carries (conditions : List Condition) (data : Json.Value) (k : Nat) : Prop :=
  ∃ c, conditions[k]? = some c ∧ (k = 0 ∨ c.Alternative) ∧ c.holds data = true ∧
    HoldsBehind conditions data k

theorem join_alternative (h : c.Alternative) : join result c data = (result || c.holds data) := by
  have logic : c.logic = some .any := h
  simp [join, logic]

theorem join_requirement (h : ¬ c.Alternative) : join result c data = (result && c.holds data) := by
  unfold join
  match logic : c.logic with
  | none => rfl
  | some .all => rfl
  | some .any => exact absurd logic h

/-- A list that is not empty is folded onto the result of its first condition. -/
theorem allHold_append (h : conditions ≠ []) : allHold (conditions ++ rest) data =
    rest.foldl (fun result c => join result c data) (allHold conditions data) := by
  cases conditions with
  | nil => exact absurd rfl h
  | cons first others => simp [allHold]

theorem allHold_concat (h : conditions ≠ []) :
    allHold (conditions ++ [c]) data = join (allHold conditions data) c data := allHold_append h

private theorem holdsBehind_cons_zero : HoldsBehind (c :: rest) data 0 ↔
    ∀ d ∈ rest, ¬ d.Alternative → d.holds data = true := by
  constructor
  · intro h d hd
    obtain ⟨j, found⟩ := List.mem_iff_getElem?.mp hd
    exact h (j + 1) d (by omega) (by simpa using found)
  · intro h j d behind found
    obtain ⟨i, rfl⟩ : ∃ i, j = i + 1 := ⟨j - 1, by omega⟩
    exact h d (List.mem_iff_getElem?.mpr ⟨i, by simpa using found⟩)

private theorem holdsBehind_cons_succ {k : Nat} :
    HoldsBehind (c :: rest) data (k + 1) ↔ HoldsBehind rest data k := by
  constructor
  · intro h j d behind found
    exact h (j + 1) d (by omega) (by simpa using found)
  · intro h j d behind found
    obtain ⟨i, rfl⟩ : ∃ i, j = i + 1 := ⟨j - 1, by omega⟩
    exact h i d (by omega) (by simpa using found)

/-- Some condition carries the list, the first one of all only if `first` admits it. -/
private def Starts (first : Prop) (conditions : List Condition) (data : Json.Value) : Prop :=
  ∃ k c, conditions[k]? = some c ∧ (k = 0 ∧ first ∨ c.Alternative) ∧ c.holds data = true ∧
    HoldsBehind conditions data k

private theorem starts_cons {first : Prop} : Starts first (c :: rest) data ↔
    ((first ∨ c.Alternative) ∧ c.holds data = true ∧
      ∀ d ∈ rest, ¬ d.Alternative → d.holds data = true) ∨ Starts False rest data := by
  constructor
  · rintro ⟨k, d, found, start, holds, behind⟩
    cases k with
    | zero =>
      cases found
      exact .inl ⟨by simpa using start, holds, holdsBehind_cons_zero.mp behind⟩
    | succ k =>
      have alternative : d.Alternative := start.resolve_left (by omega)
      exact .inr ⟨k, d, found, .inr alternative, holds, holdsBehind_cons_succ.mp behind⟩
  · rintro (⟨start, holds, required⟩ | ⟨k, d, found, start, holds, behind⟩)
    · exact ⟨0, c, rfl, by simpa using start, holds, holdsBehind_cons_zero.mpr required⟩
    · have alternative : d.Alternative := start.resolve_left fun h => h.2
      exact ⟨k + 1, d, found, .inr alternative, holds, holdsBehind_cons_succ.mpr behind⟩

/-- The result so far counts if all that is joined by "and" holds; else the list has to start afresh. -/
private theorem foldl_join_iff : rest.foldl (fun result c => join result c data) result = true ↔
    (result = true ∧ ∀ d ∈ rest, ¬ d.Alternative → d.holds data = true) ∨ Starts False rest data := by
  induction rest generalizing result with
  | nil => simp [Starts]
  | cons d rest ih =>
    rw [List.foldl_cons, ih, starts_cons, List.forall_mem_cons]
    by_cases alternative : d.Alternative
    · simp only [join_alternative alternative, Bool.or_eq_true, alternative, not_true_eq_false,
        false_implies, true_and, or_true]
      tauto
    · simp only [join_requirement alternative, Bool.and_eq_true, alternative, not_false_eq_true,
        true_implies, or_false, false_and, false_or, and_assoc]

theorem allHold_iff : allHold conditions data = true ↔
    conditions = [] ∨ ∃ k, Carries conditions data k := by
  cases conditions with
  | nil => simp [allHold]
  | cons first rest =>
    have carried : (∃ k, Carries (first :: rest) data k) ↔ Starts True (first :: rest) data := by
      simp [Carries, Starts]
    rw [carried, starts_cons]
    simp only [allHold, foldl_join_iff, true_or, true_and, reduceCtorEq, false_or]

/-- The operators `in` and `notIn` answer alike just where they are given no list to look in. -/
private theorem isIn_complementary : ({ c with operator := .isNotIn }.holds data =
      !{ c with operator := .isIn }.holds data ↔ ∃ choices, c.value = some (.array choices)) ∧
    ((¬ ∃ choices, c.value = some (.array choices)) →
      { c with operator := .isIn }.holds data = false ∧
        { c with operator := .isNotIn }.holds data = false) := by
  obtain ⟨field, operator, value, logic⟩ := c
  cases value with
  | none => simp [holds, holdsFor]
  | some value => cases value <;> simp [holds, holdsFor]

/-- A list of conditions holds just if it is empty or some condition carries it: the first one or one
joined by "or" that holds, as do all behind it that are joined by "and". The logic of the first condition
does not matter. What follows a list that is not empty sees no more of it than its result; one more
condition joined by "or" keeps a result that is true, and one joined by "and" a result that is false. Three
operators are the negations of three others; `in` and `notIn` are negations of each other just if the value
is an array, and else both false. -/
theorem allHold_carried (data : Json.Value) :
    (∀ conditions, allHold conditions data = true ↔
      conditions = [] ∨ ∃ k, Carries conditions data k) ∧
    (∀ first logic rest, allHold ({ first with logic } :: rest) data = allHold (first :: rest) data) ∧
    (∀ conditions others rest, conditions ≠ [] → others ≠ [] →
      allHold conditions data = allHold others data →
      allHold (conditions ++ rest) data = allHold (others ++ rest) data) ∧
    (∀ conditions c, conditions ≠ [] → c.Alternative →
      allHold conditions data = true → allHold (conditions ++ [c]) data = true) ∧
    (∀ conditions c, conditions ≠ [] → ¬ c.Alternative →
      allHold conditions data = false → allHold (conditions ++ [c]) data = false) ∧
    ∀ c : Condition,
      { c with operator := .notEquals }.holds data = (!{ c with operator := .equals }.holds data) ∧
      { c with operator := .notContains }.holds data = (!{ c with operator := .contains }.holds data) ∧
      { c with operator := .isNotEmpty }.holds data = (!{ c with operator := .isEmpty }.holds data) ∧
      ({ c with operator := .isNotIn }.holds data = !{ c with operator := .isIn }.holds data ↔
        ∃ choices, c.value = some (.array choices)) ∧
      ((¬ ∃ choices, c.value = some (.array choices)) →
        { c with operator := .isIn }.holds data = false ∧
          { c with operator := .isNotIn }.holds data = false) := by
  refine ⟨fun conditions => allHold_iff, fun _ _ _ => rfl, ?_, ?_, ?_, ?_⟩
  · intro conditions others rest filled filled' same
    rw [allHold_append filled, allHold_append filled', same]
  · intro conditions c filled alternative held
    rw [allHold_concat filled, join_alternative alternative, held, Bool.true_or]
  · intro conditions c filled required failed
    rw [allHold_concat filled, join_requirement required, failed, Bool.false_and]
  · intro c
    exact ⟨rfl, rfl, rfl, isIn_complementary⟩

/-- The first condition fails and is then passed over by the second, and the third one joins it. -/
example : allHold [⟨"a", .equals, some (.ofInt 0), none⟩, ⟨"b", .equals, some (.ofInt 2), some .any⟩,
    ⟨"c", .equals, some (.ofInt 0), none⟩]
    (.ofPairs [("a", .ofInt 1), ("b", .ofInt 2), ("c", .ofInt 3)]) = false := by decide +kernel

end Automation.Condition
