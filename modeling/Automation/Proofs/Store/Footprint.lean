import Automation.Proofs.Json.Canonical
import Automation.Proofs.Store.Update
import Mathlib.Data.List.Induction

/-!
Updates of a document that touch different places. What an update makes of a path depends on nothing but
what was there, so updates whose footprints are apart may come in either order or both at once, and each
path of a footprint ends as the update says.
-/
namespace Automation

open Json (Value Members)

theorem Text.append_of_splitOnce {sep : Char} {text before after : String}
    (cut : splitOnce sep text = some (before, after)) :
    text.toList = before.toList ++ sep :: after.toList := by
  obtain ⟨⟨front, back⟩, found, same⟩ := Option.map_eq_some_iff.mp cut
  cases same
  rw [String.toList_ofList, String.toList_ofList]
  clear cut
  generalize text.toList = cs at found
  induction cs generalizing front with
  | nil => cases found
  | cons c rest ih =>
    unfold cutFirst at found
    split at found
    · next here =>
      cases found
      rw [here, List.nil_append]
    · obtain ⟨⟨front, back⟩, later, same⟩ := Option.map_eq_some_iff.mp found
      cases same
      rw [ih front later, List.cons_append]

namespace DocumentUpdate

/-- All paths that an update sets or unsets. -/
def footprint (u : DocumentUpdate) : List String := u.set.map (·.1) ++ u.unset

/-- One path names a field, and the other one a key in it. -/
def IsParent (path other : String) : Prop := ∃ key, Text.splitOnce '.' other = some (path, key)

/-- Neither path is the other one or its parent. -/
structure Apart (path other : String) : Prop where
  ne : path ≠ other
  notParent : ¬IsParent path other
  notChild : ¬IsParent other path

def Disjoint (u v : DocumentUpdate) : Prop :=
  ∀ path ∈ u.footprint, ∀ other ∈ v.footprint, Apart path other

/-- No path of an update is the parent of another one. -/
def Flat (u : DocumentUpdate) : Prop :=
  ∀ path ∈ u.footprint, ∀ other ∈ u.footprint, ¬IsParent path other

/-- The update that does what two updates do. -/
def union (u v : DocumentUpdate) : DocumentUpdate where
  set := u.set.merge v.set
  unset := u.unset ++ v.unset
  expect := u.expect ++ v.expect

/-- No path of an update is a field that the store keeps, or a key in one. -/
def SparesSystem (u : DocumentUpdate) : Prop :=
  ∀ path ∈ u.footprint, fieldOf path ≠ idField ∧ fieldOf path ≠ creationTimeField

instance (path other : String) : Decidable (IsParent path other) :=
  decidable_of_iff ((Text.splitOnce '.' other).map (·.1) = some path) (by
    cases cut : Text.splitOnce '.' other <;> simp [IsParent, cut, Prod.ext_iff])

instance (path other : String) : Decidable (Apart path other) :=
  decidable_of_iff (path ≠ other ∧ ¬IsParent path other ∧ ¬IsParent other path)
    ⟨fun ⟨ne, notParent, notChild⟩ => ⟨ne, notParent, notChild⟩,
      fun h => ⟨h.ne, h.notParent, h.notChild⟩⟩

instance (u v : DocumentUpdate) : Decidable (u.Disjoint v) := List.decidableBAll ..

instance (u : DocumentUpdate) : Decidable u.Flat := List.decidableBAll ..

instance (u : DocumentUpdate) : Decidable u.SparesSystem := List.decidableBAll ..

/-- What is found at a path: a field, or a key of the object in one. -/
def valueAt (fields : Members) (path : String) : Option Value :=
  match Text.splitOnce '.' path with
  | some (parent, key) => ((fields.get? parent).bind (·.asObject?)).bind (Members.get? key)
  | none => fields.get? path

/-- A path is set to a value, or unset. -/
def write (fields : Members) (path : String) : Option Value → Members
  | some value => setPath fields path value
  | none => unsetPath fields path

/-- What an update does at its paths, in the order in which it does it. -/
def writes (u : DocumentUpdate) : List (String × Option Value) :=
  u.unset.map (·, none) ++ u.set.map fun (path, value) => (path, some value)

/-- Fields after a list of writes. -/
def writeAll (writes : List (String × Option Value)) (fields : Members) : Members :=
  writes.foldl (fun fields (path, value) => write fields path value) fields

theorem writeAll_append (ws others : List (String × Option Value)) (fields : Members) :
    writeAll (ws ++ others) fields = writeAll others (writeAll ws fields) := List.foldl_append

theorem writeAll_cons (w : String × Option Value) (ws : List (String × Option Value))
    (fields : Members) : writeAll (w :: ws) fields = writeAll ws (write fields w.1 w.2) := rfl

theorem applyFields_eq (u : DocumentUpdate) (fields : Members) :
    u.applyFields fields = writeAll u.writes fields := by
  rw [writes, writeAll_append, writeAll, writeAll, List.foldl_map, List.foldl_map]
  rfl

theorem mem_footprint {u : DocumentUpdate} {w : String × Option Value} (h : w ∈ u.writes) :
    w.1 ∈ u.footprint := by
  rcases List.mem_append.mp h with h | h
  · obtain ⟨path, known, rfl⟩ := List.mem_map.mp h
    exact List.mem_append_right _ known
  · obtain ⟨m, known, rfl⟩ := List.mem_map.mp h
    exact List.mem_append_left _ (List.mem_map_of_mem known)

theorem Apart.symm {path other : String} (h : Apart path other) : Apart other path :=
  ⟨h.ne.symm, h.notChild, h.notParent⟩

/-- Paths that begin with one field and are apart are keys in it. -/
theorem Apart.keys {path other : String} (h : Apart path other) (same : fieldOf path = fieldOf other) :
    ∃ parent key key', Text.splitOnce '.' path = some (parent, key) ∧
      Text.splitOnce '.' other = some (parent, key') ∧ key ≠ key' := by
  unfold fieldOf at same
  cases cut : Text.splitOnce '.' path with
  | none =>
    cases cut' : Text.splitOnce '.' other with
    | none =>
      rw [cut, cut'] at same
      exact absurd same h.ne
    | some parts =>
      have parent : parts.1 = path := (by simpa [cut, cut'] using same : path = parts.1).symm
      exact absurd ⟨parts.2, parent ▸ cut'⟩ h.notParent
  | some parts =>
    cases cut' : Text.splitOnce '.' other with
    | none =>
      have parent : parts.1 = other := by simpa [cut, cut'] using same
      exact absurd ⟨parts.2, parent ▸ cut⟩ h.notChild
    | some parts' =>
      rw [cut, cut'] at same
      refine ⟨parts.1, parts.2, parts'.2, rfl, congrArg some (Prod.ext same.symm rfl), fun keys => h.ne ?_⟩
      rw [← String.toList_inj, Text.append_of_splitOnce cut, Text.append_of_splitOnce cut', keys]
      exact congrArg (·.toList ++ _) same

/-- The members of an object; anything else has none. -/
private def inside (value : Option Value) : Members := (value.bind (·.asObject?)).getD []

/-- What a write makes of the field that its path begins with. -/
private def rewritten (path : String) (value before : Option Value) : Option Value :=
  match Text.splitOnce '.' path, value with
  | some (_, key), some value => some (.object (Members.insert key value (inside before)))
  | some (_, key), none => match before with
    | some (.object members) => some (.object (Members.erase key members))
    | _ => before
  | none, some value => if path = idField ∨ path = creationTimeField then before else some value
  | none, none => none

private theorem get?_write (fields : Members) (path name : String) (value : Option Value) :
    (write fields path value).get? name =
      if fieldOf path = name then rewritten path value (fields.get? name) else fields.get? name := by
  cases cut : Text.splitOnce '.' path with
  | some parts =>
    obtain ⟨parent, key⟩ := parts
    have field : fieldOf path = parent := by rw [fieldOf, cut]; rfl
    rw [field]
    cases value with
    | some value =>
      simp only [write, setPath, rewritten, cut, Members.get?_insert]
      split
      · next same => rw [same, inside]
      · rfl
    | none =>
      simp only [write, unsetPath, rewritten, cut]
      split
      · next members found =>
        rw [Members.get?_insert]
        split
        · next same => rw [← same, found]
        · rfl
      · next other =>
        split
        · next same =>
          subst same
          split
          · next members found => exact absurd found (other members)
          · rfl
        · rfl
  | none =>
    have field : fieldOf path = path := by rw [fieldOf, cut]; rfl
    rw [field]
    cases value with
    | some value =>
      simp only [write, setPath, rewritten, cut]
      split
      · split <;> rfl
      · rw [Members.get?_insert]
    | none => simp only [write, unsetPath, rewritten, cut, Members.get?_erase]

theorem canonical_write {fields : Members} {path : String} {value : Option Value}
    (h : fields.Canonical) (hv : ∀ v ∈ value, v.Canonical) : (write fields path value).Canonical := by
  cases value with
  | some value =>
    have hv := hv value rfl
    simp only [write, setPath]
    split
    · refine Members.canonical_insert h (Members.canonical_insert ?_ hv)
      cases found : fields.get? _ with
      | none => exact Members.canonical_nil
      | some before =>
        cases before with
        | object members => exact Members.canonical_get? h found
        | _ => exact Members.canonical_nil
    · split
      · exact h
      · exact Members.canonical_insert h hv
  | none =>
    simp only [write, unsetPath]
    split
    · split
      · next members found =>
        exact Members.canonical_insert h (Members.canonical_erase (Members.canonical_get? h found))
      · exact h
    · exact Members.canonical_erase h

/-- Values that are written are canonical. -/
def Tidy (ws : List (String × Option Value)) : Prop := ∀ w ∈ ws, ∀ v ∈ w.2, v.Canonical

theorem canonical_writeAll {ws : List (String × Option Value)} {fields : Members}
    (h : fields.Canonical) (tidy : Tidy ws) : (writeAll ws fields).Canonical := by
  induction ws generalizing fields with
  | nil => exact h
  | cons w rest ih =>
    rw [Tidy, List.forall_mem_cons] at tidy
    exact ih (canonical_write h tidy.1) tidy.2

/-- Values that are set, as writes. -/
private def sets (members : Members) : List (String × Option Value) :=
  members.map fun (path, value) => (path, some value)

/-- Paths that are unset, as writes. -/
private def drops (paths : List String) : List (String × Option Value) := paths.map (·, none)

private theorem sets_append (members others : Members) :
    sets (members ++ others) = sets members ++ sets others := List.map_append

private theorem writes_eq (u : DocumentUpdate) : u.writes = drops u.unset ++ sets u.set := rfl

private theorem tidy_sets {members : Members} (values : ∀ m ∈ members, m.2.Canonical) : Tidy (sets members) := by
  intro w known v written
  obtain ⟨m, inside, rfl⟩ := List.mem_map.mp known
  cases written
  exact values m inside

private theorem tidy_drops (paths : List String) : Tidy (drops paths) := by
  intro w known v written
  obtain ⟨path, -, rfl⟩ := List.mem_map.mp known
  cases written

theorem tidy_writes {u : DocumentUpdate} (h : u.set.Canonical) : Tidy u.writes :=
  List.forall_mem_append.mpr ⟨tidy_drops u.unset, tidy_sets (Value.canonical_object.mp h).2⟩

section

variable {path parent key : String} (cut : Text.splitOnce '.' path = some (parent, key))
include cut

private theorem rewritten_set (value : Value) (before : Option Value) :
    rewritten path (some value) before = some (.object (Members.insert key value (inside before))) := by
  simp only [rewritten, cut]

private theorem rewritten_unset (members : Members) :
    rewritten path none (some (.object members)) = some (.object (Members.erase key members)) := by
  simp only [rewritten, cut]

private theorem inside_unset (before : Option Value) :
    inside (rewritten path none before) = Members.erase key (inside before) := by
  simp only [rewritten, cut]
  split
  · rfl
  · next other =>
    have nothing : inside before = [] := by
      cases before with
      | none => rfl
      | some value =>
        cases value with
        | object members => exact absurd rfl (other members)
        | _ => rfl
    rw [nothing]
    rfl

end

private theorem rewritten_comm {path other : String} {value value' before : Option Value}
    (apart : Apart path other) (same : fieldOf path = fieldOf other)
    (h : ∀ v ∈ before, v.Canonical) :
    rewritten path value (rewritten other value' before) =
      rewritten other value' (rewritten path value before) := by
  obtain ⟨parent, key, key', cut, cut', ne⟩ := apart.keys same
  have sorted : (inside before).Sorted := by
    cases before with
    | none => exact List.Pairwise.nil
    | some v =>
      cases v with
      | object members => exact (Value.canonical_object.mp (h _ rfl)).1
      | _ => exact List.Pairwise.nil
  cases value with
  | some value =>
    cases value' with
    | some value' =>
      simp only [rewritten_set cut, rewritten_set cut']
      exact congrArg (some ∘ Value.object) (Members.insert_comm ne sorted)
    | none =>
      rw [rewritten_set cut, rewritten_set cut, rewritten_unset cut', inside_unset cut',
        Members.erase_insert ne.symm sorted]
  | none =>
    cases value' with
    | some value' =>
      rw [rewritten_set cut', rewritten_set cut', rewritten_unset cut, inside_unset cut,
        Members.erase_insert ne sorted]
    | none =>
      simp only [rewritten, cut, cut']
      cases before with
      | none => rfl
      | some v =>
        cases v with
        | object members => simp only [Members.erase, List.filter_filter, Bool.and_comm]
        | _ => rfl

/-- Writes at paths that are apart may be exchanged. -/
theorem write_comm {fields : Members} {path other : String} {value value' : Option Value}
    (apart : Apart path other) (h : fields.Canonical) (hv : ∀ v ∈ value, v.Canonical)
    (hv' : ∀ v ∈ value', v.Canonical) :
    write (write fields other value') path value = write (write fields path value) other value' := by
  have sorted {members : Members} (h : members.Canonical) : members.Sorted :=
    (Value.canonical_object.mp h).1
  refine (sorted (canonical_write (canonical_write h hv') hv)).ext
    (sorted (canonical_write (canonical_write h hv) hv')) fun name => ?_
  simp only [get?_write]
  split
  · next here =>
    split
    · next here' =>
      exact rewritten_comm apart (here.trans here'.symm) fun v found => Members.canonical_get? h found
    · rfl
  · rfl

/-- A write may be put off until others are done that are apart from it. -/
private theorem write_writeAll {fields : Members} {w : String × Option Value}
    {ws : List (String × Option Value)} (apart : ∀ w' ∈ ws, Apart w.1 w'.1) (h : fields.Canonical)
    (hv : ∀ v ∈ w.2, v.Canonical) (tidy : Tidy ws) :
    writeAll ws (write fields w.1 w.2) = write (writeAll ws fields) w.1 w.2 := by
  induction ws generalizing fields with
  | nil => rfl
  | cons w' rest ih =>
    rw [List.forall_mem_cons] at apart
    rw [Tidy, List.forall_mem_cons] at tidy
    rw [writeAll_cons, writeAll_cons, ← write_comm apart.1 h hv tidy.1]
    exact ih apart.2 (canonical_write h tidy.1) tidy.2

theorem writeAll_comm {fields : Members} {ws others : List (String × Option Value)}
    (apart : ∀ w ∈ ws, ∀ w' ∈ others, Apart w.1 w'.1) (h : fields.Canonical) (tidy : Tidy ws)
    (tidy' : Tidy others) :
    writeAll (ws ++ others) fields = writeAll (others ++ ws) fields := by
  induction ws generalizing fields with
  | nil => rw [List.nil_append, List.append_nil]
  | cons w rest ih =>
    rw [List.forall_mem_cons] at apart
    rw [Tidy, List.forall_mem_cons] at tidy
    rw [List.cons_append, writeAll_cons, ih apart.2 (canonical_write h tidy.1) tidy.2,
      writeAll_append, writeAll_append, writeAll_cons, write_writeAll apart.1 h tidy.1 tidy']

/-- A new path may as well be set last if it is apart from those that come behind it. -/
private theorem writeAll_insert {fields members : Members} {key : String} {value : Value}
    (h : fields.Canonical) (canonical : members.Canonical) (hv : value.Canonical)
    (new : ∀ m ∈ members, m.1 ≠ key) (apart : ∀ m ∈ members, key < m.1 → Apart key m.1) :
    writeAll (sets (members.insert key value)) fields =
      write (writeAll (sets members) fields) key (some value) := by
  obtain ⟨sorted, values⟩ := Value.canonical_object.mp canonical
  clear canonical
  have hv : ∀ v ∈ some value, v.Canonical := fun v same => Option.some.inj same ▸ hv
  induction members generalizing fields with
  | nil => rfl
  | cons first rest ih =>
    obtain ⟨least, ordered⟩ := List.pairwise_cons.mp sorted
    have tidy := tidy_sets values
    rw [List.forall_mem_cons] at new values
    by_cases lt : key < first.1
    · have behind : ∀ m ∈ first :: rest, key < m.1 :=
        List.forall_mem_cons.mpr ⟨lt, fun m known => String.lt_trans lt (least m known)⟩
      have put : Members.insert key value (first :: rest) = (key, value) :: first :: rest := by
        simp [Members.insert, new.1, lt]
      rw [put]
      refine write_writeAll (w := (key, some value)) (fun w written => ?_) h hv tidy
      obtain ⟨m, known, rfl⟩ := List.mem_map.mp written
      exact apart m known (behind m known)
    · have put : Members.insert key value (first :: rest) = first :: Members.insert key value rest := by
        simp [Members.insert, new.1, lt]
      rw [put]
      have done : (write fields first.1 (some first.2)).Canonical :=
        canonical_write h (tidy _ List.mem_cons_self)
      exact ih done new.2 (fun m known => apart m (.tail _ known)) ordered values.2

/-- Values of two updates that are apart may be set in the order of all their paths. -/
private theorem writeAll_merge {fields members others : Members} (h : fields.Canonical)
    (canonical : members.Canonical) (canonical' : others.Canonical)
    (apart : ∀ m ∈ members, ∀ m' ∈ others, Apart m.1 m'.1) :
    writeAll (sets (members.merge others)) fields = writeAll (sets members ++ sets others) fields := by
  induction others using List.reverseRecOn with
  | nil =>
    change writeAll (sets members) fields = writeAll (sets members ++ []) fields
    rw [List.append_nil]
  | append_singleton before last ih =>
    obtain ⟨key, value⟩ := last
    obtain ⟨sorted, values⟩ := Value.canonical_object.mp canonical'
    obtain ⟨ordered, -, greatest⟩ := List.pairwise_append.mp sorted
    rw [List.forall_mem_append, List.forall_mem_singleton] at values
    have before_canonical : Members.Canonical before := Value.canonical_object.mpr ⟨ordered, values.1⟩
    have last_known : (key, value) ∈ before ++ [(key, value)] :=
      List.mem_append_right _ (List.mem_singleton_self _)
    -- What is there before the last path is set has a lesser path or is of the other update.
    have known (m : String × Value) (hm : m ∈ members.merge before) : m.1 < key ∨ Apart m.1 key :=
      (Members.mem_foldl_insert hm).imp (greatest m · _ (List.mem_singleton_self _))
        (apart m · _ last_known)
    have new (m : String × Value) (hm : m ∈ members.merge before) : m.1 ≠ key :=
      (known m hm).elim String.ne_of_lt Apart.ne
    have behind (m : String × Value) (hm : m ∈ members.merge before) (lt : key < m.1) : Apart key m.1 := by
      rcases known m hm with gt | apart
      · exact absurd (String.lt_trans gt lt) (String.lt_irrefl _)
      · exact apart.symm
    have merged : members.merge (before ++ [(key, value)]) = (members.merge before).insert key value :=
      List.foldl_append
    have ih := ih before_canonical fun m hm m' hm' => apart m hm m' (List.mem_append_left _ hm')
    calc writeAll (sets (members.merge (before ++ [(key, value)]))) fields
      _ = write (writeAll (sets (members.merge before)) fields) key (some value) := by
        rw [merged]
        exact writeAll_insert h (Members.canonical_merge canonical before_canonical) values.2 new behind
      _ = write (writeAll (sets members ++ sets before) fields) key (some value) := by rw [ih]
      _ = writeAll (sets members ++ sets (before ++ [(key, value)])) fields := by
        rw [sets_append before, ← List.append_assoc, writeAll_append (sets members ++ sets before)]
        rfl

variable {u v : DocumentUpdate} {fields : Members}

theorem applyFields_comm (h : fields.Canonical) (hu : u.set.Canonical) (hv : v.set.Canonical)
    (disjoint : u.Disjoint v) :
    v.applyFields (u.applyFields fields) = u.applyFields (v.applyFields fields) := by
  simp only [applyFields_eq, ← writeAll_append]
  exact writeAll_comm (fun w hw w' hw' => disjoint _ (mem_footprint hw) _ (mem_footprint hw')) h
    (tidy_writes hu) (tidy_writes hv)

theorem applyFields_union (h : fields.Canonical) (hu : u.set.Canonical) (hv : v.set.Canonical)
    (disjoint : u.Disjoint v) :
    (u.union v).applyFields fields = v.applyFields (u.applyFields fields) := by
  have dropped (paths : List String) : (writeAll (drops paths) fields).Canonical :=
    canonical_writeAll h (tidy_drops paths)
  have unset : drops (u.unset ++ v.unset) = drops u.unset ++ drops v.unset := List.map_append
  have merged : writeAll (sets (u.set.merge v.set)) (writeAll (drops (u.unset ++ v.unset)) fields) =
      writeAll (sets u.set ++ sets v.set) (writeAll (drops (u.unset ++ v.unset)) fields) := by
    refine writeAll_merge (dropped _) hu hv fun m hm m' hm' => disjoint _ ?_ _ ?_
    · exact List.mem_append_left _ (List.mem_map_of_mem hm)
    · exact List.mem_append_left _ (List.mem_map_of_mem hm')
  have exchanged : writeAll (drops v.unset ++ sets u.set) (writeAll (drops u.unset) fields) =
      writeAll (sets u.set ++ drops v.unset) (writeAll (drops u.unset) fields) := by
    refine writeAll_comm (fun w hw w' hw' => ?_) (dropped _) (tidy_drops _) fun w hw => ?_
    · exact (disjoint _ (mem_footprint (List.mem_append_right _ hw')) _
        (mem_footprint (List.mem_append_left _ hw))).symm
    · exact tidy_writes hu w (List.mem_append_right _ hw)
  calc (u.union v).applyFields fields
    _ = writeAll (sets u.set ++ sets v.set) (writeAll (drops (u.unset ++ v.unset)) fields) := by
      rw [applyFields_eq, writes_eq, writeAll_append, ← merged]
      rfl
    _ = writeAll (sets v.set)
        (writeAll (drops v.unset ++ sets u.set) (writeAll (drops u.unset) fields)) := by
      rw [unset]
      simp only [writeAll_append]
    _ = writeAll v.writes (writeAll u.writes fields) := by
      rw [exchanged]
      simp only [writes_eq, writeAll_append]
    _ = v.applyFields (u.applyFields fields) := by rw [applyFields_eq, applyFields_eq]

private theorem valueAt_key {path parent key : String}
    (cut : Text.splitOnce '.' path = some (parent, key)) (fields : Members) :
    valueAt fields path = Members.get? key (inside (fields.get? parent)) := by
  simp only [valueAt, cut, inside]
  cases (fields.get? parent).bind (·.asObject?) <;> rfl

private theorem fieldOf_key {path parent key : String}
    (cut : Text.splitOnce '.' path = some (parent, key)) : fieldOf path = parent := by
  rw [fieldOf, cut]
  rfl

private theorem fieldOf_whole {path : String} (cut : Text.splitOnce '.' path = none) :
    fieldOf path = path := by
  rw [fieldOf, cut]
  rfl

theorem valueAt_congr {path : String} {fields others : Members}
    (same : fields.get? (fieldOf path) = others.get? (fieldOf path)) :
    valueAt fields path = valueAt others path := by
  cases cut : Text.splitOnce '.' path with
  | some parts =>
    rw [fieldOf_key cut] at same
    rw [valueAt_key cut, valueAt_key cut, same]
  | none =>
    rw [fieldOf_whole cut] at same
    simpa only [valueAt, cut] using same

theorem valueAt_write_self {path : String} {value : Option Value} {fields : Members}
    (own : fieldOf path ≠ idField ∧ fieldOf path ≠ creationTimeField) :
    valueAt (write fields path value) path = value := by
  cases cut : Text.splitOnce '.' path with
  | some parts =>
    rw [valueAt_key cut, get?_write, if_pos (fieldOf_key cut)]
    cases value with
    | some value =>
      rw [rewritten_set cut]
      exact Members.get?_insert_self ..
    | none => rw [inside_unset cut, Members.get?_erase_self]
  | none =>
    rw [fieldOf_whole cut] at own
    have free : ¬(path = idField ∨ path = creationTimeField) := not_or.mpr own
    simp only [valueAt, cut, get?_write, fieldOf_whole cut, if_true]
    cases value with
    | some value => simp only [rewritten, cut, if_neg free]
    | none => simp only [rewritten, cut]

theorem valueAt_write_of_apart {path other : String} {value : Option Value} {fields : Members}
    (apart : Apart path other) : valueAt (write fields other value) path = valueAt fields path := by
  by_cases same : fieldOf path = fieldOf other
  · obtain ⟨parent, key, key', cut, cut', ne⟩ := apart.keys same
    rw [valueAt_key cut, valueAt_key cut, get?_write, if_pos (fieldOf_key cut')]
    cases value with
    | some value =>
      rw [rewritten_set cut']
      exact Members.get?_insert_of_ne _ _ ne.symm
    | none => rw [inside_unset cut', Members.get?_erase_of_ne _ ne.symm]
  · exact valueAt_congr (by rw [get?_write, if_neg (Ne.symm same)])

theorem valueAt_writeAll_of_apart {path : String} {ws : List (String × Option Value)}
    {fields : Members} (apart : ∀ w ∈ ws, Apart path w.1) :
    valueAt (writeAll ws fields) path = valueAt fields path := by
  induction ws generalizing fields with
  | nil => rfl
  | cons w rest ih =>
    rw [List.forall_mem_cons] at apart
    exact (ih apart.2).trans (valueAt_write_of_apart apart.1)

/-- What is unset stays so. -/
private theorem valueAt_writeAll_eq_none {path : String} {ws : List (String × Option Value)}
    {fields : Members} (own : fieldOf path ≠ idField ∧ fieldOf path ≠ creationTimeField)
    (each : ∀ w ∈ ws, w = (path, none) ∨ Apart path w.1) (gone : valueAt fields path = none) :
    valueAt (writeAll ws fields) path = none := by
  induction ws generalizing fields with
  | nil => exact gone
  | cons w rest ih =>
    rw [List.forall_mem_cons] at each
    refine ih each.2 ?_
    rcases each.1 with rfl | apart
    · exact valueAt_write_self own
    · exact (valueAt_write_of_apart apart).trans gone

private theorem Flat.apart (flat : u.Flat) {path other : String} (here : path ∈ u.footprint)
    (there : other ∈ u.footprint) (ne : path ≠ other) : Apart path other :=
  ⟨ne, flat path here other there, flat other there path here⟩

/-- A path that is set has its value in the end. -/
theorem valueAt_set (flat : u.Flat) (spares : u.SparesSystem) (sorted : u.set.Sorted)
    {m : String × Value} (known : m ∈ u.set) (fields : Members) :
    valueAt (u.applyFields fields) m.1 = some m.2 := by
  have here : m.1 ∈ u.footprint := List.mem_append_left _ (List.mem_map_of_mem known)
  obtain ⟨front, back, split⟩ := List.append_of_mem known
  have parts : u.writes = (drops u.unset ++ sets front) ++ (m.1, some m.2) :: sets back := by
    rw [writes_eq, split, sets_append, List.append_assoc]
    rfl
  rw [applyFields_eq, parts, writeAll_append, writeAll_cons]
  refine (valueAt_writeAll_of_apart fun w hw => ?_).trans (valueAt_write_self (spares _ here))
  obtain ⟨m', later, rfl⟩ := List.mem_map.mp hw
  rw [Members.Sorted, split, List.pairwise_append] at sorted
  have lt : m.1 < m'.1 := (List.pairwise_cons.mp sorted.2.1).1 m' later
  refine flat.apart here ?_ (String.ne_of_lt lt)
  exact List.mem_append_left _ (List.mem_map_of_mem (split ▸ List.mem_append_right _ (.tail _ later)))

/-- A path that is unset and not set holds nothing in the end. -/
theorem valueAt_unset (flat : u.Flat) (spares : u.SparesSystem) {path : String} (known : path ∈ u.unset)
    (unwritten : path ∉ u.set.map (·.1)) (fields : Members) :
    valueAt (u.applyFields fields) path = none := by
  have here : path ∈ u.footprint := List.mem_append_right _ known
  have each : ∀ w ∈ u.writes, w = (path, none) ∨ Apart path w.1 := by
    intro w hw
    by_cases same : path = w.1
    · rcases List.mem_append.mp hw with hw | hw
      · obtain ⟨path', -, rfl⟩ := List.mem_map.mp hw
        exact .inl (congrArg (·, none) same.symm)
      · obtain ⟨m, hm, rfl⟩ := List.mem_map.mp hw
        exact absurd (same ▸ List.mem_map_of_mem hm) unwritten
    · exact .inr (flat.apart here (mem_footprint hw) same)
  obtain ⟨front, back, split⟩ := List.append_of_mem known
  have parts : u.writes = drops front ++ (path, none) :: (drops back ++ sets u.set) := by
    rw [writes_eq, split, drops, List.map_append, List.append_assoc]
    rfl
  rw [parts] at each
  rw [applyFields_eq, parts, writeAll_append, writeAll_cons]
  refine valueAt_writeAll_eq_none (spares _ here) (fun w hw => ?_) (valueAt_write_self (spares _ here))
  exact each w (List.mem_append_right _ (.tail _ hw))

/-- Updates that expect nothing and have disjoint footprints make the same document in either order, and
so does the one update that holds both. In an update whose paths are no parents of each other and spare
the fields of the store, each path ends with the value that is set, or with none if it is only unset, and
all other fields stay. -/
theorem updates_merge (doc : Document) (canonical : doc.fields.Canonical) :
    (∀ u v : DocumentUpdate, u.set.Canonical → v.set.Canonical → u.expect = [] → v.expect = [] →
      u.Disjoint v → ∃ new, (u.applyTo? doc).bind v.applyTo? = some new ∧
        (v.applyTo? doc).bind u.applyTo? = some new ∧ (u.union v).applyTo? doc = some new) ∧
    ∀ u : DocumentUpdate, u.set.Canonical → u.Flat → u.SparesSystem → u.isExpected doc = true →
      ∃ new, u.applyTo? doc = some new ∧ new.id = doc.id ∧ new.creationTime = doc.creationTime ∧
        (∀ m ∈ u.set, valueAt new.fields m.1 = some m.2) ∧
        (∀ path ∈ u.unset, path ∉ u.set.map (·.1) → valueAt new.fields path = none) ∧
        ∀ name, name ∉ u.footprint.map fieldOf → new.fields.get? name = doc.fields.get? name := by
  constructor
  · intro u v hu hv free free' disjoint
    have applied {w : DocumentUpdate} (free : w.expect = []) (doc : Document) :
        w.applyTo? doc = some { doc with fields := w.applyFields doc.fields } := by
      simp [applyTo?, isExpected, free]
    refine ⟨{ doc with fields := (u.union v).applyFields doc.fields }, ?_, ?_, ?_⟩
    · rw [applied free, Option.bind_some, applied free', applyFields_union canonical hu hv disjoint]
    · rw [applied free', Option.bind_some, applied free, applyFields_union canonical hu hv disjoint,
        applyFields_comm canonical hu hv disjoint]
    · exact applied (List.append_eq_nil_iff.mpr ⟨free, free'⟩) doc
  · intro u hu flat spares expected
    refine ⟨{ doc with fields := u.applyFields doc.fields }, by rw [applyTo?, if_pos expected], rfl, rfl,
      fun m known => ?_, fun path known unwritten => ?_, fun name out => get?_applyFields out⟩
    · exact valueAt_set flat spares (Value.canonical_object.mp hu).1 known doc.fields
    · exact valueAt_unset flat spares known unwritten doc.fields

section

private def account : Document where
  id := "r"
  creationTime := 5
  fields := .ofList [("owner", .ofInt 1), ("data", .object [("x", .ofInt 1), ("y", .ofInt 2)])]

private def assign : DocumentUpdate where
  set := .ofList [("owner.name", .string "Ada")]
  unset := ["data.x"]

private def extend : DocumentUpdate where
  set := .ofList [("closed", .null), ("data.z", .ofInt 7)]
  unset := ["owner.mail"]

/-- The account with an object for the number that was its owner. -/
private def assigned : Document where
  id := "r"
  creationTime := 5
  fields := .ofList [("closed", .null), ("data", .object [("y", .ofInt 2), ("z", .ofInt 7)]),
    ("owner", .object [("name", .string "Ada")])]

/-- Two updates that write keys of the same fields make one document, whichever comes first. -/
theorem updates_merge_nested :
    (assign.applyTo? account).bind extend.applyTo? = some assigned ∧
    (extend.applyTo? account).bind assign.applyTo? = some assigned ∧
    (assign.union extend).applyTo? account = some assigned ∧
    valueAt assigned.fields "owner.name" = some (.string "Ada") ∧
    valueAt assigned.fields "data.x" = none ∧
    assigned.fields.get? "name" = account.fields.get? "name" := by
  have data : Value.Canonical (.object [("x", .ofInt 1), ("y", .ofInt 2)]) :=
    Value.canonical_object.mpr ⟨by decide +kernel, by simp⟩
  have values : ∀ p ∈ [("owner", Value.ofInt 1), ("data", .object [("x", .ofInt 1), ("y", .ofInt 2)])],
      p.2.Canonical := by simp [data]
  have canonical : assign.set.Canonical ∧ extend.set.Canonical ∧ (assign.union extend).set.Canonical :=
    have here : assign.set.Canonical := Members.canonical_ofList (by simp)
    have there : extend.set.Canonical := Members.canonical_ofList (by simp)
    ⟨here, there, Members.canonical_merge here there⟩
  obtain ⟨merges, ends⟩ := updates_merge account (Members.canonical_ofList values)
  obtain ⟨new, inOrder, inTurn, atOnce⟩ :=
    merges assign extend canonical.1 canonical.2.1 rfl rfl (by decide +kernel)
  obtain ⟨new', same, -, -, set, unset, others⟩ :=
    ends (assign.union extend) canonical.2.2 (by decide +kernel) (by decide +kernel) rfl
  have told : (assign.union extend).applyTo? account = some assigned := by decide +kernel
  obtain rfl : new = assigned := Option.some.inj (atOnce.symm.trans told)
  obtain rfl : new' = assigned := Option.some.inj (same.symm.trans told)
  refine ⟨inOrder, inTurn, atOnce, set ("owner.name", .string "Ada") (by decide +kernel),
    unset "data.x" (by decide +kernel) (by decide +kernel), others "name" (by decide +kernel)⟩

end

end DocumentUpdate
end Automation
