import Automation.Json.Parser
import Automation.Json.Path
import Automation.Proofs.Decode.Ensures
import Automation.Proofs.Json.Members

/-!
Values whose objects have their members in key order, each key once. All that is read from text or
decoded is of this kind, and decoding such a value gives it back.
-/
namespace Automation.Json

namespace Value

mutual
/-- At every depth. -/
def Canonical : Value → Prop
  | .array items => CanonicalItems items
  | .object members => members.Pairwise (·.1 < ·.1) ∧ CanonicalMembers members
  | .null | .bool _ | .number _ | .string _ => True
termination_by structural value => value

def CanonicalItems : List Value → Prop
  | [] => True
  | item :: rest => item.Canonical ∧ CanonicalItems rest
termination_by structural items => items

def CanonicalMembers : List (String × Value) → Prop
  | [] => True
  | (_, value) :: rest => value.Canonical ∧ CanonicalMembers rest
termination_by structural members => members
end

theorem canonicalItems_iff {items : List Value} :
    CanonicalItems items ↔ ∀ v ∈ items, v.Canonical := by
  induction items with
  | nil => simp [CanonicalItems]
  | cons v rest ih => simp [CanonicalItems, ih]

theorem canonicalMembers_iff {members : Members} :
    CanonicalMembers members ↔ ∀ m ∈ members, m.2.Canonical := by
  induction members with
  | nil => simp [CanonicalMembers]
  | cons m rest ih =>
    obtain ⟨key, v⟩ := m
    simp [CanonicalMembers, ih]

@[simp] theorem canonical_null : Canonical .null := trivial
@[simp] theorem canonical_bool (b : Bool) : Canonical (.bool b) := trivial
@[simp] theorem canonical_number (n : Number) : Canonical (.number n) := trivial
@[simp] theorem canonical_string (s : String) : Canonical (.string s) := trivial
@[simp] theorem canonical_ofInt (i : Int) : (ofInt i).Canonical := trivial
@[simp] theorem canonical_ofNat (n : Nat) : (ofNat n).Canonical := trivial

@[simp] theorem canonical_array {items : List Value} :
    Canonical (.array items) ↔ ∀ v ∈ items, v.Canonical := by
  rw [Canonical, canonicalItems_iff]

@[simp] theorem canonical_ofText? (text : Option String) : (ofText? text).Canonical := by
  cases text <;> trivial

theorem canonical_object {members : Members} : Canonical (.object members) ↔
    members.Pairwise (·.1 < ·.1) ∧ ∀ m ∈ members, m.2.Canonical := by
  rw [Canonical, canonicalMembers_iff]

end Value

namespace Members

/-- In key order, with values of the same kind. -/
def Canonical (members : Members) : Prop := (Value.object members).Canonical

theorem canonical_nil : Canonical [] := by simp [Canonical, Value.canonical_object]

theorem canonical_insert {k : String} {value : Value} {members : Members}
    (h : members.Canonical) (hv : value.Canonical) : (members.insert k value).Canonical := by
  obtain ⟨sorted, values⟩ := Value.canonical_object.mp h
  refine Value.canonical_object.mpr ⟨sorted_insert sorted, fun m hm => ?_⟩
  rcases mem_insert hm with rfl | hm
  · exact hv
  · exact values m hm

theorem canonical_foldl_insert {pairs : List (String × Value)} {members : Members}
    (h : members.Canonical) (hp : ∀ p ∈ pairs, p.2.Canonical) :
    (pairs.foldl (fun ms p => ms.insert p.1 p.2) members).Canonical := by
  induction pairs generalizing members with
  | nil => exact h
  | cons p rest ih =>
    rw [List.forall_mem_cons] at hp
    exact ih (canonical_insert h hp.1) hp.2

theorem canonical_ofList {pairs : List (String × Value)} (h : ∀ p ∈ pairs, p.2.Canonical) :
    (ofList pairs).Canonical :=
  canonical_foldl_insert canonical_nil h

theorem canonical_merge {members others : Members} (h : members.Canonical)
    (h' : others.Canonical) : (members.merge others).Canonical :=
  canonical_foldl_insert h (Value.canonical_object.mp h').2

theorem canonical_erase {key : String} {members : Members} (h : members.Canonical) :
    (members.erase key).Canonical := by
  obtain ⟨sorted, values⟩ := Value.canonical_object.mp h
  exact Value.canonical_object.mpr ⟨sorted_erase sorted, fun m hm => values m (List.mem_filter.mp hm).1⟩

theorem canonical_get? {key : String} {value : Value} {members : Members} (h : members.Canonical)
    (found : members.get? key = some value) : value.Canonical := by
  have values := (Value.canonical_object.mp h).2
  clear h
  induction members with
  | nil => cases found
  | cons m rest ih =>
    rw [List.forall_mem_cons] at values
    unfold get? at found
    split at found
    · cases found
      exact values.1
    · exact ih found values.2

theorem insert_of_lt {key : String} {value : Value} {members : Members}
    (h : ∀ m ∈ members, m.1 < key) : members.insert key value = members ++ [(key, value)] := by
  induction members with
  | nil => rfl
  | cons m rest ih =>
    rw [List.forall_mem_cons] at h
    have hne : m.1 ≠ key := String.ne_of_lt h.1
    have hnl : ¬ key < m.1 := String.lt_asymm h.1
    simp [insert, hne, hnl, ih h.2]

end Members

namespace Value

theorem canonical_ofPairs {pairs : List (String × Value)} (h : ∀ p ∈ pairs, p.2.Canonical) :
    (ofPairs pairs).Canonical :=
  Members.canonical_ofList h

theorem canonical_ofPresent {pairs : List (String × Option Value)}
    (h : ∀ p ∈ pairs, ∀ v ∈ p.2, v.Canonical) : (ofPresent pairs).Canonical := by
  apply canonical_ofPairs
  intro p hp
  obtain ⟨⟨key, found⟩, hq, he⟩ := List.mem_filterMap.mp hp
  obtain ⟨v, hv, rfl⟩ := Option.map_eq_some_iff.mp he
  exact h _ hq v hv

theorem canonical_member? {key : String} {value v : Value} (h : value.Canonical)
    (found : value.member? key = some v) : v.Canonical := by
  cases value with
  | object members => exact Members.canonical_get? h found
  | _ => cases found

private theorem canonical_step? {segment : String} {value v : Value} (h : value.Canonical)
    (found : value.step? segment = some v) : v.Canonical := by
  cases value with
  | object members => exact Members.canonical_get? h found
  | array items =>
    obtain ⟨index, _, at_index⟩ := Option.bind_eq_some_iff.mp found
    exact canonical_array.mp h v (List.mem_of_getElem? at_index)
  | _ => cases found

theorem canonical_lookup? {value v : Value} {path : String} (h : value.Canonical)
    (found : value.lookup? path = some v) : v.Canonical := by
  unfold lookup? at found
  split at found
  · cases found
    exact h
  · generalize Text.splitAll '.' path = segments at found
    induction segments generalizing value with
    | nil =>
      cases found
      exact h
    | cons segment rest ih =>
      obtain ⟨inner, first, found⟩ := Option.bind_eq_some_iff.mp found
      exact ih (canonical_step? h first) found

end Value
end Automation.Json

namespace Automation.Decode

open Json (Value Members)

mutual
private theorem value_canonical : ∀ (tree : Tree) (v : Value), value tree = .ok v → v.Canonical
  | .null, v, ok | .bool b, v, ok | .number n, v, ok | .text s, v, ok => by
    cases ok
    trivial
  | .plain s, v, ok => by
    change plainValue s = .ok v at ok
    unfold plainValue at ok
    split at ok
    case h_3 =>
      split at ok <;> cases ok
      trivial
    all_goals
      cases ok
      trivial
  | .sequence _ trees, v, ok => by
    obtain ⟨items, read, rfl⟩ := except_map_ok.mp ok
    exact Value.canonical_array.mpr (valueItems_canonical trees 0 items read)
  | .mapping _ entries, v, ok => by
    obtain ⟨members, read, rfl⟩ := except_map_ok.mp ok
    exact valueMembers_canonical entries [] members Members.canonical_nil read
  | .marked mark tree, v, ok => value_canonical tree v (except_mapError_ok.mp ok)
  | .broken e, v, ok => by cases ok
termination_by structural tree => tree

private theorem valueItems_canonical : ∀ (trees : List Tree) (place : Nat) (items : List Value),
    valueItems place trees = .ok items → ∀ v ∈ items, v.Canonical
  | [], place, items, ok => by
    cases ok
    simp
  | tree :: rest, place, items, ok => by
    obtain ⟨first, read, ok⟩ := except_bind_ok.mp ok
    obtain ⟨others, more, ok⟩ := except_bind_ok.mp ok
    cases ok
    have head := value_canonical tree first (except_mapError_ok.mp read)
    have tail := valueItems_canonical rest (place + 1) others more
    exact List.forall_mem_cons.mpr ⟨head, tail⟩
termination_by structural trees => trees

private theorem valueMembers_canonical : ∀ (entries : List (Tree × Tree)) (read members : Members),
    read.Canonical → valueMembers read entries = .ok members → members.Canonical
  | [], read, members, h, ok => by
    cases ok
    exact h
  | (key, tree) :: rest, read, members, h, ok => by
    obtain ⟨name, _, ok⟩ := except_bind_ok.mp ok
    obtain ⟨v, readV, ok⟩ := except_bind_ok.mp ok
    have hv := value_canonical tree v (except_mapError_ok.mp readV)
    exact valueMembers_canonical rest _ members (Members.canonical_insert h hv) ok
termination_by structural entries => entries
end

theorem ensures_value : Decoder.Ensures Value.Canonical value := value_canonical

theorem ensures_members : Decoder.Ensures Members.Canonical members := by
  apply ensures_located
  intro tree ms ok
  dsimp only at ok
  split at ok
  · exact valueMembers_canonical _ [] ms Members.canonical_nil ok
  · cases ok
    exact Members.canonical_nil
  · exact absurd ok unexpected_ne_ok

/-- Decoding makes no value null, and none of null. -/
theorem isNull_of_value {v read : Value} (ok : value (.ofValue v) = .ok read) :
    read.isNull = v.isNull := by
  cases v with
  | null | bool b | number n | string s =>
    cases ok
    rfl
  | array items | object members =>
    obtain ⟨inside, -, rfl⟩ := except_map_ok.mp ok
    rfl

mutual
/-- Decoding changes nothing. -/
theorem value_ofValue : ∀ v : Value, v.Canonical → value (.ofValue v) = .ok v
  | .null, _ | .bool _, _ | .number _, _ | .string _, _ => rfl
  | .array items, h => by
    change (valueItems 0 (Tree.ofItems items)).map Value.array = _
    rw [valueItems_ofItems items 0 h]
    rfl
  | .object members, h => by
    change (valueMembers [] (Tree.ofMembers members)).map Value.object = _
    rw [valueMembers_ofMembers members [] h.1 h.2 (by simp)]
    rfl
termination_by structural v => v

theorem valueItems_ofItems : ∀ (items : List Value) (place : Nat), Value.CanonicalItems items →
    valueItems place (Tree.ofItems items) = .ok items
  | [], _, _ => rfl
  | v :: rest, place, h => by
    change (do
      let first ← within (.index place) (value (Tree.ofValue v))
      let others ← valueItems (place + 1) (Tree.ofItems rest)
      return first :: others) = _
    rw [value_ofValue v h.1, valueItems_ofItems rest (place + 1) h.2]
    rfl
termination_by structural items => items

theorem valueMembers_ofMembers : ∀ (ms read : Members), ms.Pairwise (·.1 < ·.1) →
    Value.CanonicalMembers ms → (∀ r ∈ read, ∀ m ∈ ms, r.1 < m.1) →
    valueMembers read (Tree.ofMembers ms) = .ok (read ++ ms)
  | [], read, _, _, _ => by
    rw [List.append_nil]
    rfl
  | (key, v) :: rest, read, sorted, h, before => by
    change (do
      let value ← within (.field key) (value (Tree.ofValue v))
      valueMembers (read.insert key value) (Tree.ofMembers rest)) = _
    rw [value_ofValue v h.1]
    change valueMembers (read.insert key v) (Tree.ofMembers rest) = _
    rw [List.pairwise_cons] at sorted
    rw [Members.insert_of_lt fun r hr => before r hr _ List.mem_cons_self,
      valueMembers_ofMembers rest _ sorted.2 h.2, List.append_assoc]
    · rfl
    · intro r hr m hm
      rcases List.mem_append.mp hr with hr | hr
      · exact before r hr m (List.mem_cons_of_mem _ hm)
      · cases List.mem_singleton.mp hr
        exact sorted.1 m hm
termination_by structural ms => ms
end

end Automation.Decode

namespace Automation.Json

namespace Parser

private theorem items_canonical {item : Reader Value}
    (hi : ∀ cs v rest, item cs = some (v, rest) → v.Canonical) (fuel : Nat) (read : List Value)
    (cs : List Char) (found : List Value) (rest : List Char) (h : ∀ v ∈ read, v.Canonical)
    (ok : items item fuel read cs = some (found, rest)) : ∀ v ∈ found, v.Canonical := by
  induction fuel generalizing read cs with
  | zero => cases ok
  | succ fuel ih =>
    unfold items at ok
    obtain ⟨⟨v, more⟩, hv, ok⟩ := Option.bind_eq_some_iff.mp ok
    have all : ∀ w ∈ v :: read, w.Canonical := List.forall_mem_cons.mpr ⟨hi _ _ _ hv, h⟩
    dsimp only at ok
    split at ok
    · exact ih _ _ all ok
    · cases ok
      exact fun w hw => all w (List.mem_reverse.mp hw)
    · cases ok

private theorem members_canonical {item : Reader Value}
    (hi : ∀ cs v rest, item cs = some (v, rest) → v.Canonical) (fuel : Nat) (read : Members)
    (cs : List Char) (found : Members) (rest : List Char) (h : read.Canonical)
    (ok : members item fuel read cs = some (found, rest)) : found.Canonical := by
  induction fuel generalizing read cs with
  | zero => cases ok
  | succ fuel ih =>
    unfold members at ok
    split at ok
    · obtain ⟨⟨key, more⟩, _, ok⟩ := Option.bind_eq_some_iff.mp ok
      dsimp only at ok
      split at ok
      · obtain ⟨⟨v, last⟩, hv, ok⟩ := Option.bind_eq_some_iff.mp ok
        have next := Members.canonical_insert (k := key) h (hi _ _ _ hv)
        dsimp only at ok
        split at ok
        · exact ih _ _ next ok
        · cases ok
          exact next
        · cases ok
      · cases ok
    · cases ok

private theorem map_canonical {α : Type} {read : Option (α × List Char)} {make : α → Value}
    {v : Value} {rest : List Char} (ok : read.map (fun (a, rest) => (make a, rest)) = some (v, rest))
    (h : ∀ a rest, read = some (a, rest) → (make a).Canonical) : v.Canonical := by
  obtain ⟨⟨a, more⟩, found, eq⟩ := Option.map_eq_some_iff.mp ok
  cases eq
  exact h a _ found

private theorem literal_canonical {word cs rest : List Char} {value v : Value} (hv : value.Canonical)
    (ok : literal word value cs = some (v, rest)) : v.Canonical := by
  unfold literal at ok
  split at ok
  · cases ok
    exact hv
  · cases ok

theorem value_canonical (depth : Nat) (cs : List Char) (v : Value) (rest : List Char)
    (ok : value depth cs = some (v, rest)) : v.Canonical := by
  induction depth generalizing cs v rest with
  | zero =>
    unfold value at ok
    split at ok
    case h_1 => exact map_canonical ok fun _ _ _ => trivial
    case h_2 => exact map_canonical ok fun _ _ _ => trivial
    case h_3 => exact literal_canonical (Value.canonical_bool true) ok
    case h_4 => exact literal_canonical (Value.canonical_bool false) ok
    case h_5 => exact literal_canonical Value.canonical_null ok
    case h_6 => cases ok
    case h_7 => cases ok
    case h_8 => exact map_canonical ok fun _ _ _ => trivial
  | succ depth ih =>
    unfold value at ok
    split at ok
    case h_1 => exact map_canonical ok fun _ _ _ => trivial
    case h_2 => exact map_canonical ok fun _ _ _ => trivial
    case h_3 => exact literal_canonical (Value.canonical_bool true) ok
    case h_4 => exact literal_canonical (Value.canonical_bool false) ok
    case h_5 => exact literal_canonical Value.canonical_null ok
    case h_6 =>
      dsimp only at ok
      split at ok
      · cases ok
        simp
      · refine map_canonical ok fun xs more found => Value.canonical_array.mpr ?_
        exact items_canonical ih _ [] _ xs more (by simp) found
    case h_7 =>
      dsimp only at ok
      split at ok
      · cases ok
        exact Members.canonical_nil
      · refine map_canonical ok fun ms more found => ?_
        exact members_canonical ih _ [] _ ms more Members.canonical_nil found
    case h_8 => exact map_canonical ok fun _ _ _ => trivial

end Parser

theorem parse?_canonical {text : String} {v : Value} (ok : parse? text = some v) :
    v.Canonical := by
  unfold parse? at ok
  split at ok
  · next read =>
    split at ok
    · cases ok
      exact Parser.value_canonical _ _ _ _ read
    · cases ok
  · cases ok

end Automation.Json
