import Automation.Json.Value

/-!
What is found under a key of an object that is put together from pairs.
-/
namespace Automation.Json

namespace Members

theorem mem_insert {key : String} {value : Value} {members : Members}
    {m : String × Value} (h : m ∈ members.insert key value) : m = (key, value) ∨ m ∈ members := by
  induction members with
  | nil => exact .inl (List.mem_singleton.mp h)
  | cons first rest ih => grind [insert]

theorem mem_foldl_insert {pairs : List (String × Value)} {members : Members} {m : String × Value}
    (h : m ∈ pairs.foldl (fun ms p => ms.insert p.1 p.2) members) : m ∈ pairs ∨ m ∈ members := by
  induction pairs generalizing members with
  | nil => exact .inr h
  | cons p rest ih =>
    rcases ih h with known | known
    · exact .inl (List.mem_cons_of_mem _ known)
    · rcases mem_insert known with rfl | known
      · exact .inl List.mem_cons_self
      · exact .inr known

theorem mem_ofList {pairs : List (String × Value)} {m : String × Value} (h : m ∈ ofList pairs) :
    m ∈ pairs :=
  (mem_foldl_insert h).resolve_right (by simp)

/-- In key order, each key once. -/
def Sorted (members : Members) : Prop := members.Pairwise (·.1 < ·.1)

theorem Sorted.nodup {members : Members} (h : members.Sorted) : (members.map (·.1)).Nodup :=
  List.pairwise_map.mpr (h.imp fun lt => String.ne_of_lt lt)

theorem sorted_insert {key : String} {value : Value} {members : Members} (h : members.Sorted) :
    (members.insert key value).Sorted := by
  induction members with
  | nil => simp [Sorted, insert]
  | cons first rest ih =>
    obtain ⟨k, v⟩ := first
    obtain ⟨least, sorted⟩ := List.pairwise_cons.mp h
    unfold insert
    split
    · next eq =>
      subst eq
      exact List.pairwise_cons.mpr ⟨least, sorted⟩
    · split
      · next lt =>
        refine List.pairwise_cons.mpr ⟨fun m hm => ?_, h⟩
        rcases List.mem_cons.mp hm with rfl | hm
        · exact lt
        · exact String.lt_trans lt (least m hm)
      · next ne nlt =>
        refine List.pairwise_cons.mpr ⟨fun m hm => ?_, ih sorted⟩
        rcases mem_insert hm with rfl | hm
        · grind
        · exact least m hm

theorem sorted_merge {members others : Members} (h : members.Sorted) :
    (members.merge others).Sorted := by
  induction others generalizing members with
  | nil => exact h
  | cons p rest ih => exact ih (sorted_insert h)

theorem sorted_ofList (pairs : List (String × Value)) : (ofList pairs).Sorted :=
  sorted_merge List.Pairwise.nil

theorem sorted_erase {key : String} {members : Members} (h : members.Sorted) :
    (members.erase key).Sorted :=
  h.sublist List.filter_sublist

theorem get?_insert {key other : String} {value : Value} {members : Members} :
    get? other (insert key value members) = if key = other then some value else get? other members := by
  split
  · next same => rw [← same, get?_insert_self]
  · next ne => exact get?_insert_of_ne value members ne

theorem get?_erase {key other : String} {members : Members} :
    get? other (erase key members) = if key = other then none else get? other members := by
  split
  · next same => rw [← same, get?_erase_self]
  · next ne => exact get?_erase_of_ne members ne

private theorem get?_foldl_of_not_mem {key : String} {pairs : List (String × Value)}
    {members : Members} (h : ∀ p ∈ pairs, p.1 ≠ key) :
    (pairs.foldl (fun ms p => ms.insert p.1 p.2) members).get? key = members.get? key := by
  induction pairs generalizing members with
  | nil => rfl
  | cons p rest ih =>
    rw [List.forall_mem_cons] at h
    rw [List.foldl_cons, ih h.2, get?_insert_of_ne _ _ h.1]

theorem get?_merge_of_not_mem {key : String} {members others : Members}
    (h : ∀ p ∈ others, p.1 ≠ key) : (members.merge others).get? key = members.get? key :=
  get?_foldl_of_not_mem h

theorem lookup_eq_get? {key : String} {members : Members} : members.lookup key = members.get? key := by
  induction members with
  | nil => rfl
  | cons m rest ih =>
    obtain ⟨k, v⟩ := m
    rw [List.lookup_cons, get?]
    by_cases same : k = key
    · simp [same]
    · rw [if_neg same, beq_eq_false_iff_ne.mpr (Ne.symm same)]
      exact ih

theorem get?_merge {key : String} {members others : Members}
    (distinct : (others.map (·.1)).Nodup) :
    (members.merge others).get? key = (others.get? key).or (members.get? key) := by
  induction others generalizing members with
  | nil => rfl
  | cons p rest ih =>
    obtain ⟨k, v⟩ := p
    rw [List.map_cons, List.nodup_cons] at distinct
    have step : members.merge ((k, v) :: rest) = (members.insert k v).merge rest := rfl
    rw [step, get?]
    by_cases same : k = key
    · subst same
      rw [get?_merge_of_not_mem fun p hp e => distinct.1 (List.mem_map.mpr ⟨p, hp, e⟩)]
      simp
    · rw [ih distinct.2, get?_insert_of_ne _ _ same, if_neg same]

theorem get?_ofList {key : String} {pairs : List (String × Value)}
    (distinct : (pairs.map (·.1)).Nodup) : (ofList pairs).get? key = pairs.lookup key := by
  change (merge [] pairs).get? key = _
  rw [get?_merge distinct, lookup_eq_get?]
  simp

/-- The last of several values for one key is found. -/
theorem get?_ofList_of_last {key : String} {value : Value} {before after : List (String × Value)}
    (last : ∀ p ∈ after, p.1 ≠ key) : (ofList (before ++ (key, value) :: after)).get? key = some value := by
  have cut : ofList (before ++ (key, value) :: after) = (insert key value (ofList before)).merge after :=
    List.foldl_append
  rw [cut, get?_merge_of_not_mem last, get?_insert_self]

theorem mem_keys_insert {key other : String} {value : Value} {members : Members} :
    other ∈ (members.insert key value).map (·.1) ↔ other = key ∨ other ∈ members.map (·.1) := by
  induction members with
  | nil => simp [insert]
  | cons member rest ih => grind [insert]

theorem mem_keys_ofList {key : String} {pairs : List (String × Value)} :
    key ∈ (ofList pairs).map (·.1) ↔ key ∈ pairs.map (·.1) := by
  have all (members : Members) : key ∈ (members.merge pairs).map (·.1) ↔
      key ∈ pairs.map (·.1) ∨ key ∈ members.map (·.1) := by
    induction pairs generalizing members with
    | nil => simp [merge]
    | cons p rest ih =>
      have step : members.merge (p :: rest) = (members.insert p.1 p.2).merge rest := rfl
      rw [step, ih, mem_keys_insert, List.map_cons, List.mem_cons, or_left_comm, or_assoc]
  exact (all []).trans (or_iff_left List.not_mem_nil)

theorem member?_ofPairs {key : String} {pairs : List (String × Value)}
    (distinct : (pairs.map (·.1)).Nodup) : (Value.ofPairs pairs).member? key = pairs.lookup key :=
  get?_ofList distinct

private theorem lookup_present {key : String} {pairs : List (String × Option Value)}
    (distinct : (pairs.map (·.1)).Nodup) :
    (pairs.filterMap fun (k, value) => value.map (k, ·)).lookup key = (pairs.lookup key).join := by
  induction pairs with
  | nil => rfl
  | cons p rest ih =>
    obtain ⟨k, value⟩ := p
    rw [List.map_cons, List.nodup_cons] at distinct
    rw [List.lookup_cons]
    cases value with
    | some v =>
      simp only [List.filterMap_cons, Option.map_some, List.lookup_cons]
      split
      · rfl
      · exact ih distinct.2
    | none =>
      simp only [List.filterMap_cons, Option.map_none, ih distinct.2]
      split
      · next same =>
        have absent : rest.lookup key = none := by
          refine List.lookup_eq_none_iff.mpr fun p hp => bne_iff_ne.mpr fun e => distinct.1 ?_
          exact List.mem_map.mpr ⟨p, hp, e ▸ beq_iff_eq.mp same⟩
        rw [absent]
        rfl
      · rfl

private theorem present_sublist (pairs : List (String × Option Value)) :
    ((pairs.filterMap fun (k, value) => value.map (k, ·)).map (·.1)).Sublist (pairs.map (·.1)) := by
  induction pairs with
  | nil => exact .slnil
  | cons p rest ih =>
    obtain ⟨k, value⟩ := p
    cases value with
    | some v => exact ih.cons_cons k
    | none => exact ih.cons k

theorem get?_present (key : String) (pairs : List (String × Option Value))
    (distinct : (pairs.map (·.1)).Nodup) :
    (ofList (pairs.filterMap fun (k, value) => value.map (k, ·))).get? key =
      (pairs.lookup key).join := by
  rw [get?_ofList (distinct.sublist (present_sublist pairs)), lookup_present distinct]

theorem get?_of_mem {members : Members} {m : String × Value} (distinct : (members.map (·.1)).Nodup)
    (h : m ∈ members) : members.get? m.1 = some m.2 := by
  induction members with
  | nil => cases h
  | cons first rest ih =>
    rw [List.map_cons, List.nodup_cons] at distinct
    unfold get?
    rcases List.mem_cons.mp h with rfl | h
    · exact if_pos rfl
    · have ne : first.1 ≠ m.1 := fun same => distinct.1 (List.mem_map.mpr ⟨m, h, same.symm⟩)
      rw [if_neg ne, ih distinct.2 h]

/-- Of two values for one key the later one stays. -/
theorem insert_insert_self {key : String} {first second : Value} {members : Members} :
    insert key second (insert key first members) = insert key second members := by
  induction members with
  | nil => simp [insert]
  | cons member rest ih => grind [insert]

theorem erase_insert_self {key : String} {value : Value} {members : Members} :
    erase key (insert key value members) = erase key members := by
  induction members with
  | nil => simp [insert, erase]
  | cons member rest ih => grind [insert, erase]

theorem mem_of_get? {key : String} {value : Value} {members : Members}
    (found : members.get? key = some value) : (key, value) ∈ members := by
  induction members with
  | nil => cases found
  | cons first rest ih =>
    unfold get? at found
    split at found
    · next same =>
      cases found
      exact same ▸ List.mem_cons_self
    · exact List.mem_cons_of_mem _ (ih found)

/-- In key order, members are known by what is found under each key. -/
theorem Sorted.ext {members others : Members} (h : members.Sorted) (h' : others.Sorted)
    (same : ∀ key, members.get? key = others.get? key) : members = others := by
  have mem {members : Members} (h : members.Sorted) (m : String × Value) :
      m ∈ members ↔ members.get? m.1 = some m.2 := ⟨get?_of_mem h.nodup, mem_of_get?⟩
  have apart {members : Members} (h : members.Sorted) : members.Nodup :=
    h.imp fun lt same => String.ne_of_lt lt (congrArg _ same)
  have perm : members.Perm others := by
    refine (List.perm_ext_iff_of_nodup (apart h) (apart h')).mpr fun m => ?_
    rw [mem h, mem h', same]
  refine perm.eq_of_pairwise (fun a b _ _ lt gt => ?_) h h'
  exact absurd (String.lt_trans lt gt) (String.lt_irrefl _)

/-- An object of pairs in any order has them in the order of their keys. -/
theorem ofList_of_perm {pairs : List (String × Value)} {members : Members} (perm : pairs.Perm members)
    (sorted : members.Sorted) : ofList pairs = members := by
  have distinct : (pairs.map (·.1)).Nodup := (perm.map _).nodup_iff.mpr sorted.nodup
  refine (sorted_ofList pairs).ext sorted fun key => ?_
  rw [get?_ofList distinct, lookup_eq_get?]
  refine Option.ext fun v => ⟨fun found => ?_, fun found => ?_⟩
  · exact get?_of_mem (m := (key, v)) sorted.nodup (perm.mem_iff.mp (mem_of_get? found))
  · exact get?_of_mem (m := (key, v)) distinct (perm.mem_iff.mpr (mem_of_get? found))

/-- An object of the members that have a value lists them in the order of their keys. -/
theorem ofPresent_of_perm {pairs others : List (String × Option Value)} (perm : pairs.Perm others)
    (sorted : (others.map (·.1)).Pairwise (· < ·)) : Value.ofPresent pairs = Value.listed others := by
  refine congrArg Value.object (ofList_of_perm (perm.filterMap _) ?_)
  exact List.pairwise_map.mp (sorted.sublist (present_sublist others))

variable {key other : String} {value : Value} {members : Members}

theorem insert_comm {value' : Value} (apart : key ≠ other) (h : members.Sorted) :
    insert key value (insert other value' members) = insert other value' (insert key value members) := by
  refine (sorted_insert (sorted_insert h)).ext (sorted_insert (sorted_insert h)) fun name => ?_
  simp only [get?_insert]
  split
  · next same => rw [if_neg (same ▸ apart.symm)]
  · rfl

theorem erase_insert (apart : key ≠ other) (h : members.Sorted) :
    erase key (insert other value members) = insert other value (erase key members) := by
  refine (sorted_erase (sorted_insert h)).ext (sorted_insert (sorted_erase h)) fun name => ?_
  simp only [get?_insert, get?_erase]
  split
  · next same => rw [if_neg (same ▸ apart.symm)]
  · rfl

end Members
end Automation.Json
