import Automation.Json.Path
import Automation.Proofs.Json.Members
import Automation.Proofs.Number.Rounding

/-!
Equality of values in which numbers count by their nearest binary64 numbers. It is an equivalence that
goes through arrays and objects, and on objects in key order it is what it is meant to be: as many members
in the one as in the other, and each of the one is found in the other with an equal value. Beside it stands
equality by exact values, and the two agree unless numbers at the same place of both values fall together.
-/
namespace Automation.Json

namespace Number

variable {m n : Number}

/-- Where the nearest binary64 number lies. -/
def place : Number → WithBot (WithTop Int)
  | .int i => Binary64.intPlace i
  | .float x => ((x.toUnits : WithTop Int) : WithBot (WithTop Int))

/-- The exact value in units of 2 ^ -1074. -/
def units : Number → Int
  | .int i => i * (2 ^ Binary64.pointBits : Nat)
  | .float x => x.toUnits

/-- The nearest binary64 numbers are equal. -/
def Near (m n : Number) : Prop := m.place = n.place

/-- The values are equal. -/
def Exact (m n : Number) : Prop := m.units = n.units

/-- Binary64 does not mix up the two. -/
def Resolved (m n : Number) : Prop := m.Near n → m.Exact n

theorem near_refl (n : Number) : n.Near n := rfl

theorem place?_toBinary64 (n : Number) : n.toBinary64.place? = some n.place := by
  cases n with
  | int i => exact Binary64.place?_ofInt i
  | float x => rfl

theorem same_iff_near : m.same n = true ↔ m.Near n := by
  obtain ⟨order, compared, compares⟩ :=
    Binary64.compare?_places m.place?_toBinary64 n.place?_toBinary64
  rw [same, compared, Near]
  cases order with
  | lt => exact iff_of_false (by decide) (ne_of_lt compares)
  | eq => exact iff_of_true (by decide) compares
  | gt => exact iff_of_false (by decide) (ne_of_gt compares)

/-- An integer and a float of one value lie at one place, as do two integers and two floats. -/
theorem near_of_exact (h : m.Exact n) : m.Near n := by
  unfold Near
  cases m with
  | int i =>
    cases n with
    | int j => rw [Int.eq_of_mul_eq_mul_right Binary64.units_pos.ne' h]
    | float y =>
      have value : y.toUnits = i * (2 ^ Binary64.pointBits : Nat) := h.symm
      rw [place, place, Binary64.intPlace_of_held ⟨y, value⟩, value]
  | float x =>
    cases n with
    | int j =>
      have value : x.toUnits = j * (2 ^ Binary64.pointBits : Nat) := h
      rw [place, place, Binary64.intPlace_of_held ⟨x, value⟩, value]
    | float y => exact congrArg (fun p : Int => ((p : WithTop Int) : WithBot (WithTop Int))) h

theorem exact_int {i j : Int} : (Number.int i).Exact (.int j) ↔ i = j := by
  constructor
  · exact fun h => Int.eq_of_mul_eq_mul_right Binary64.units_pos.ne' h
  · rintro rfl
    rfl

end Number

namespace Value

variable {eq eq' : Number → Number → Prop} {a b c : Value}

mutual
/-- What passes from the values inside an array or object to it holds of every value. -/
theorem induct {P : Value → Prop} (null : P .null) (bool : ∀ b, P (.bool b))
    (number : ∀ n, P (.number n)) (string : ∀ s, P (.string s))
    (array : ∀ items, (∀ v ∈ items, P v) → P (.array items))
    (object : ∀ members : Members, (∀ m ∈ members, P m.2) → P (.object members)) : ∀ v, P v
  | .null => null
  | .bool b => bool b
  | .number n => number n
  | .string s => string s
  | .array items => array items (inductItems null bool number string array object items)
  | .object members => object members (inductMembers null bool number string array object members)

theorem inductItems {P : Value → Prop} (null : P .null) (bool : ∀ b, P (.bool b))
    (number : ∀ n, P (.number n)) (string : ∀ s, P (.string s))
    (array : ∀ items, (∀ v ∈ items, P v) → P (.array items))
    (object : ∀ members : Members, (∀ m ∈ members, P m.2) → P (.object members)) :
    ∀ items : List Value, ∀ v ∈ items, P v
  | [] => by simp
  | v :: rest => List.forall_mem_cons.mpr ⟨induct null bool number string array object v,
      inductItems null bool number string array object rest⟩

theorem inductMembers {P : Value → Prop} (null : P .null) (bool : ∀ b, P (.bool b))
    (number : ∀ n, P (.number n)) (string : ∀ s, P (.string s))
    (array : ∀ items, (∀ v ∈ items, P v) → P (.array items))
    (object : ∀ members : Members, (∀ m ∈ members, P m.2) → P (.object members)) :
    ∀ members : List (String × Value), ∀ m ∈ members, P m.2
  | [] => by simp
  | (_, v) :: rest => List.forall_mem_cons.mpr ⟨induct null bool number string array object v,
      inductMembers null bool number string array object rest⟩
end

/-- Equal but for the numbers, which `eq` compares. -/
inductive EqualBy (eq : Number → Number → Prop) : Value → Value → Prop
  | null : EqualBy eq .null .null
  | bool (b : Bool) : EqualBy eq (.bool b) (.bool b)
  | number {m n : Number} (equal : eq m n) : EqualBy eq (.number m) (.number n)
  | string (text : String) : EqualBy eq (.string text) (.string text)
  | array {xs ys : List Value} (size : xs.length = ys.length)
      (items : ∀ i (h : i < xs.length) (h' : i < ys.length), EqualBy eq xs[i] ys[i]) :
      EqualBy eq (.array xs) (.array ys)
  | object {xs ys : Members} (size : xs.length = ys.length)
      (keys : ∀ i (h : i < xs.length) (h' : i < ys.length), xs[i].1 = ys[i].1)
      (values : ∀ i (h : i < xs.length) (h' : i < ys.length), EqualBy eq xs[i].2 ys[i].2) :
      EqualBy eq (.object xs) (.object ys)

/-- A number of one value and one of another, at the same place in both. -/
inductive Facing : Value → Value → Number → Number → Prop
  | here (m n : Number) : Facing (.number m) (.number n) m n
  | item {xs ys : List Value} {m n : Number} (i : Nat) (h : i < xs.length) (h' : i < ys.length)
      (inside : Facing xs[i] ys[i] m n) : Facing (.array xs) (.array ys) m n
  | member {xs ys : Members} {m n : Number} (i : Nat) (h : i < xs.length) (h' : i < ys.length)
      (key : xs[i].1 = ys[i].1) (inside : Facing xs[i].2 ys[i].2 m n) :
      Facing (.object xs) (.object ys) m n

/-- The answer of `same`. -/
def Same (a b : Value) : Prop := a.same b = true

/-- Equal, with numbers by their exact values. -/
def Exact (a b : Value) : Prop := EqualBy Number.Exact a b

/-- Binary64 mixes up no two numbers at the same place of the two values. -/
def Resolved (a b : Value) : Prop := ∀ m n, Facing a b m n → m.Resolved n

namespace EqualBy

theorem refl (h : ∀ n, eq n n) (a : Value) : EqualBy eq a a := by
  induction a using Value.induct with
  | null => exact .null
  | bool b => exact .bool b
  | number n => exact .number (h n)
  | string s => exact .string s
  | array items ih => exact .array rfl fun i inside _ => ih _ (List.getElem_mem inside)
  | object members ih =>
    exact .object rfl (fun _ _ _ => rfl) fun i inside _ => ih _ (List.getElem_mem inside)

theorem symm (swap : ∀ m n, eq m n → eq n m) (h : EqualBy eq a b) : EqualBy eq b a := by
  induction h with
  | null => exact .null
  | bool b => exact .bool b
  | number equal => exact .number (swap _ _ equal)
  | string s => exact .string s
  | array size _ ih => exact .array size.symm fun i h h' => ih i h' h
  | object size keys _ ih =>
    exact .object size.symm (fun i h h' => (keys i h' h).symm) fun i h h' => ih i h' h

theorem trans (chain : ∀ l m n, eq l m → eq m n → eq l n) (first : EqualBy eq a b)
    (second : EqualBy eq b c) : EqualBy eq a c := by
  induction first generalizing c with
  | null => exact second
  | bool b => exact second
  | number equal =>
    cases second with
    | number equal' => exact .number (chain _ _ _ equal equal')
  | string s => exact second
  | array size _ ih =>
    cases second with
    | array size' items => exact .array (size.trans size') fun i h h' => ih i h (by omega) (items i _ h')
  | object size keys _ ih =>
    cases second with
    | object size' keys' values =>
      exact .object (size.trans size') (fun i h h' => (keys i h (by omega)).trans (keys' i _ h'))
        fun i h h' => ih i h (by omega) (values i _ h')

/-- Only numbers at the same place are compared. -/
theorem imp (step : ∀ m n, Facing a b m n → eq m n → eq' m n) (h : EqualBy eq a b) :
    EqualBy eq' a b := by
  induction h with
  | null => exact .null
  | bool b => exact .bool b
  | number equal => exact .number (step _ _ (.here _ _) equal)
  | string s => exact .string s
  | array size _ ih =>
    exact .array size fun i h h' => ih i h h' fun m n facing => step m n (.item i h h' facing)
  | object size keys _ ih =>
    refine .object size keys fun i h h' => ih i h h' fun m n facing => ?_
    exact step m n (.member i h h' (keys i h h') facing)

theorem array_iff {xs ys : List Value} :
    EqualBy eq (.array xs) (.array ys) ↔ List.Forall₂ (EqualBy eq) xs ys := by
  rw [List.forall₂_iff_get]
  constructor
  · intro h
    cases h with
    | array size items => exact ⟨size, items⟩
  · rintro ⟨size, items⟩
    exact .array size items

theorem object_iff {xs ys : Members} : EqualBy eq (.object xs) (.object ys) ↔
    List.Forall₂ (fun m n => m.1 = n.1 ∧ EqualBy eq m.2 n.2) xs ys := by
  rw [List.forall₂_iff_get]
  constructor
  · intro h
    cases h with
    | object size keys values => exact ⟨size, fun i h h' => ⟨keys i h h', values i h h'⟩⟩
  · rintro ⟨size, both⟩
    exact .object size (fun i h h' => (both i h h').1) fun i h h' => (both i h h').2

end EqualBy

theorem sameItems_iff {xs ys : List Value} : sameItems xs ys = true ↔ List.Forall₂ Same xs ys := by
  induction xs generalizing ys with
  | nil => cases ys <;> simp [sameItems]
  | cons x xs ih => cases ys <;> simp [sameItems, ih, Same]

theorem sameMembers_iff {xs ys : Members} :
    sameMembers xs ys = true ↔ List.Forall₂ (fun m n => m.1 = n.1 ∧ Same m.2 n.2) xs ys := by
  induction xs generalizing ys with
  | nil => cases ys <;> simp [sameMembers]
  | cons x xs ih => cases ys <;> simp [sameMembers, ih, Same]

private theorem same_of_equalBy (h : EqualBy Number.Near a b) : Same a b := by
  induction h with
  | null => rfl
  | bool b => simp [Same, same]
  | number near => exact Number.same_iff_near.mpr near
  | string s => simp [Same, same]
  | array size _ ih =>
    exact sameItems_iff.mpr (List.forall₂_iff_get.mpr ⟨size, ih⟩)
  | object size keys _ ih =>
    exact sameMembers_iff.mpr (List.forall₂_iff_get.mpr ⟨size, fun i h h' => ⟨keys i h h', ih i h h'⟩⟩)

private theorem equalBy_of_same (h : Same a b) : EqualBy Number.Near a b := by
  induction a using Value.induct generalizing b with
  | null =>
    cases b with
    | null => exact .null
    | _ => simp [Same, same] at h
  | bool x =>
    cases b with
    | bool y =>
      obtain rfl : x = y := by simpa [Same, same] using h
      exact .bool x
    | _ => simp [Same, same] at h
  | number m =>
    cases b with
    | number n => exact .number (Number.same_iff_near.mp h)
    | _ => simp [Same, same] at h
  | string s =>
    cases b with
    | string t =>
      obtain rfl : s = t := by simpa [Same, same] using h
      exact .string s
    | _ => simp [Same, same] at h
  | array items ih =>
    cases b with
    | array others =>
      obtain ⟨size, each⟩ := List.forall₂_iff_get.mp (sameItems_iff.mp h)
      exact .array size fun i h h' => ih _ (List.getElem_mem h) (each i h h')
    | _ => simp [Same, same] at h
  | object members ih =>
    cases b with
    | object others =>
      obtain ⟨size, each⟩ := List.forall₂_iff_get.mp (sameMembers_iff.mp h)
      exact .object size (fun i h h' => (each i h h').1) fun i h h' =>
        ih _ (List.getElem_mem h) (each i h h').2
    | _ => simp [Same, same] at h

theorem same_iff : Same a b ↔ EqualBy Number.Near a b := ⟨equalBy_of_same, same_of_equalBy⟩

theorem same_equivalence : Equivalence Same where
  refl a := same_iff.mpr (EqualBy.refl Number.near_refl a)
  symm h := same_iff.mpr ((same_iff.mp h).symm fun _ _ near => near.symm)
  trans h h' := same_iff.mpr ((same_iff.mp h).trans (fun _ _ _ near near' => near.trans near')
    (same_iff.mp h'))

theorem same_comm (a b : Value) : a.same b = b.same a :=
  Bool.eq_iff_iff.mpr ⟨same_equivalence.symm, same_equivalence.symm⟩

/-- Equality sees no difference between values that are equal. -/
theorem same_congr {a' b' : Value} (left : Same a a') (right : Same b b') : a.same b = a'.same b' := by
  refine Bool.eq_iff_iff.mpr ⟨fun h => ?_, fun h => ?_⟩
  · exact same_equivalence.trans (same_equivalence.symm left) (same_equivalence.trans h right)
  · exact same_equivalence.trans left (same_equivalence.trans h (same_equivalence.symm right))

theorem same_of_exact (h : a.Exact b) : Same a b :=
  same_iff.mpr (h.imp fun _ _ _ => Number.near_of_exact)

/-- Where binary64 mixes nothing up, values are compared by their exact numbers. -/
theorem same_iff_exact (h : a.Resolved b) : Same a b ↔ a.Exact b :=
  ⟨fun same => (same_iff.mp same).imp h, same_of_exact⟩

theorem exact_ofInt {i j : Int} : (ofInt i).Exact (ofInt j) ↔ i = j := by
  rw [← Number.exact_int]
  constructor
  · intro h
    cases h with
    | number equal => exact equal
  · exact fun h => .number h

section Containers

theorem get?_congr {xs ys : Members} (h : EqualBy eq (.object xs) (.object ys)) (key : String) :
    Option.Rel (EqualBy eq) (xs.get? key) (ys.get? key) := by
  rw [EqualBy.object_iff] at h
  induction h with
  | nil => exact .none
  | @cons m n _ _ equal _ ih =>
    obtain ⟨k, v⟩ := m
    obtain ⟨l, w⟩ := n
    obtain ⟨keys, values⟩ := equal
    cases keys
    unfold Members.get?
    split
    · exact .some values
    · exact ih

theorem getElem?_congr {xs ys : List Value} (h : EqualBy eq (.array xs) (.array ys)) (i : Nat) :
    Option.Rel (EqualBy eq) xs[i]? ys[i]? := by
  cases h with
  | array size items =>
    by_cases inside : i < xs.length
    · rw [List.getElem?_eq_getElem inside, List.getElem?_eq_getElem (size ▸ inside)]
      exact .some (items i inside _)
    · rw [List.getElem?_eq_none (by omega), List.getElem?_eq_none (by omega)]
      exact .none

theorem step?_congr (h : EqualBy eq a b) (segment : String) :
    Option.Rel (EqualBy eq) (a.step? segment) (b.step? segment) := by
  cases a with
  | array xs =>
    cases b with
    | array ys =>
      unfold step?
      cases indexOf? segment with
      | none => exact .none
      | some i => exact getElem?_congr h i
    | _ => cases h
  | object xs =>
    cases b with
    | object ys => exact get?_congr h segment
    | _ => cases h
  | _ =>
    cases h
    exact .none

theorem follow?_congr (h : EqualBy eq a b) (path : List String) :
    Option.Rel (EqualBy eq) (a.follow? path) (b.follow? path) := by
  induction path generalizing a b with
  | nil => exact .some h
  | cons segment rest ih =>
    unfold follow?
    have found := step?_congr h segment
    generalize a.step? segment = x at found
    generalize b.step? segment = y at found
    cases found with
    | none => exact .none
    | some equal => exact ih equal

/-- Equal values have equal values at every path. -/
theorem lookup?_congr (h : EqualBy eq a b) (path : String) :
    Option.Rel (EqualBy eq) (a.lookup? path) (b.lookup? path) := by
  unfold lookup?
  split
  · exact .some h
  · exact follow?_congr h _

theorem array_set (reflexive : ∀ n, eq n n) {items : List Value} {k : Nat} {v w : Value}
    (there : items[k]? = some v) (equal : EqualBy eq v w) :
    EqualBy eq (.array items) (.array (items.set k w)) := by
  refine .array (List.length_set).symm fun i h h' => ?_
  rw [List.getElem_set]
  split
  · next place =>
    subst place
    rw [List.getElem?_eq_getElem h] at there
    cases there
    exact equal
  · exact .refl reflexive _

theorem object_insert (reflexive : ∀ n, eq n n) {members : Members} {key : String} {v w : Value}
    (sorted : members.Sorted) (there : members.get? key = some v) (equal : EqualBy eq v w) :
    EqualBy eq (.object members) (.object (members.insert key w)) := by
  rw [EqualBy.object_iff]
  induction members with
  | nil => cases there
  | cons m rest ih =>
    obtain ⟨k, x⟩ := m
    obtain ⟨least, sorted⟩ := List.pairwise_cons.mp sorted
    have rest_equal (members : Members) :
        List.Forall₂ (fun m n => m.1 = n.1 ∧ EqualBy eq m.2 n.2) members members :=
      List.forall₂_same.mpr fun m _ => ⟨rfl, .refl reflexive m.2⟩
    unfold Members.get? at there
    unfold Members.insert
    by_cases same : k = key
    · rw [if_pos same] at there ⊢
      cases there
      exact .cons ⟨same, equal⟩ (rest_equal rest)
    · rw [if_neg same] at there ⊢
      have behind : k < key := least _ (Members.mem_of_get? there)
      rw [if_neg (String.lt_asymm behind)]
      exact .cons ⟨rfl, .refl reflexive x⟩ (ih sorted there)

/-- Of two lists of one length in key order, all keys of the one are keys of the other only if the keys
are the same. -/
private theorem keys_eq {xs ys : Members} (sorted : xs.Sorted) (sorted' : ys.Sorted)
    (size : xs.length = ys.length) (inside : xs.map (·.1) ⊆ ys.map (·.1)) :
    xs.map (·.1) = ys.map (·.1) := by
  have perm : (xs.map (·.1)).Perm (ys.map (·.1)) :=
    (sorted.nodup.subperm inside).perm_of_length_le (by simp [size])
  refine perm.eq_of_pairwise (fun k l _ _ lt gt => ?_) (List.pairwise_map.mpr sorted)
    (List.pairwise_map.mpr sorted')
  exact absurd (String.lt_trans lt gt) (String.lt_irrefl _)

/-- Objects in key order are equal just if the one has as many members as the other, and each of its
members is found in the other with an equal value. -/
theorem object_iff_get? {xs ys : Members} (sorted : xs.Sorted) (sorted' : ys.Sorted) :
    EqualBy eq (.object xs) (.object ys) ↔ xs.length = ys.length ∧
      ∀ key v, xs.get? key = some v → ∃ w, ys.get? key = some w ∧ EqualBy eq v w := by
  constructor
  · intro h
    refine ⟨(EqualBy.object_iff.mp h).length_eq, fun key v found => ?_⟩
    have other := get?_congr h key
    rw [found] at other
    generalize ys.get? key = y at other
    cases other with
    | some equal => exact ⟨_, rfl, equal⟩
  · rintro ⟨size, found⟩
    have get (i : Nat) (h : i < xs.length) : xs.get? xs[i].1 = some xs[i].2 :=
      Members.get?_of_mem sorted.nodup (List.getElem_mem h)
    have inside : xs.map (·.1) ⊆ ys.map (·.1) := by
      intro key hkey
      obtain ⟨m, hm, rfl⟩ := List.mem_map.mp hkey
      obtain ⟨w, there, -⟩ := found m.1 m.2 (Members.get?_of_mem sorted.nodup hm)
      exact List.mem_map.mpr ⟨(m.1, w), Members.mem_of_get? there, rfl⟩
    have keys (i : Nat) (h : i < xs.length) (h' : i < ys.length) : xs[i].1 = ys[i].1 := by
      have all := keys_eq sorted sorted' size inside
      have here := congrArg (·[i]?) all
      simpa [List.getElem?_eq_getElem h, List.getElem?_eq_getElem h'] using here
    refine .object size keys fun i h h' => ?_
    obtain ⟨w, there, equal⟩ := found _ _ (get i h)
    rw [keys i h h', Members.get?_of_mem sorted'.nodup (List.getElem_mem h')] at there
    cases there
    exact equal

end Containers

end Value
end Automation.Json
