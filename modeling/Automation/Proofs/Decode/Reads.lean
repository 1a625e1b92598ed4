import Automation.Proofs.Decode.Ensures
import Automation.Proofs.Json.Members

/-!
What a record is read as when the values of its fields are known. The rules follow the way in which
decoders of records are put together.
-/
namespace Automation.Decode

open Json (Value Members)

variable {α β : Type}

mutual
private theorem intact_ofValue : ∀ v : Value, (Tree.ofValue v).intact = .ok ()
  | .null | .bool _ | .number _ | .string _ => rfl
  | .array items => intactItems_ofItems items 0
  | .object members => intactEntries_ofMembers members
termination_by structural v => v

private theorem intactItems_ofItems : ∀ (items : List Value) (place : Nat),
    Tree.intactItems place (Tree.ofItems items) = .ok ()
  | [], _ => rfl
  | v :: rest, place => by
    refine except_bind_ok.mpr ⟨(), ?_, intactItems_ofItems rest (place + 1)⟩
    exact except_mapError_ok.mpr (intact_ofValue v)
termination_by structural items => items

private theorem intactEntries_ofMembers : ∀ members : Members,
    Tree.intactEntries (Tree.ofMembers members) = .ok ()
  | [] => rfl
  | (_, v) :: rest => by
    refine except_bind_ok.mpr ⟨(), rfl, except_bind_ok.mpr ⟨(), ?_, intactEntries_ofMembers rest⟩⟩
    exact except_mapError_ok.mpr (intact_ofValue v)
termination_by structural members => members
end

theorem isNull_ofValue (v : Value) : (Tree.ofValue v).isNull = v.isNull := by
  cases v <;> rfl

private theorem items_ofItems {decode : Decoder β} {e : α → Value} {r : α → β} {as : List α}
    (ok : ∀ a ∈ as, decode (.ofValue (e a)) = .ok (r a)) (place : Nat) :
    items decode place (Tree.ofItems (as.map e)) = .ok (as.map r) := by
  induction as generalizing place with
  | nil => rfl
  | cons a rest ih =>
    rw [List.forall_mem_cons] at ok
    refine except_bind_ok.mpr ⟨r a, except_mapError_ok.mpr ok.1, ?_⟩
    exact except_bind_ok.mpr ⟨rest.map r, ih ok.2 (place + 1), rfl⟩

/-- An array is read item by item. -/
theorem list_ofValue {decode : Decoder β} {e : α → Value} {r : α → β} {as : List α}
    (ok : ∀ a ∈ as, decode (.ofValue (e a)) = .ok (r a)) :
    list decode (.ofValue (.array (as.map e))) = .ok (as.map r) :=
  items_ofItems ok 0

/-- Items that are read as they were are the same list again. -/
theorem list_ofValue_self {decode : Decoder α} {e : α → Value} {as : List α}
    (ok : ∀ a ∈ as, decode (.ofValue (e a)) = .ok a) :
    list decode (.ofValue (.array (as.map e))) = .ok as := by
  rw [list_ofValue ok, List.map_id']

namespace Record

/-- With the values that are found by name, the record is read as `a`. -/
structure Reads (record : Record α) (find : String → Option Value) (a : α) : Prop where
  plain : ∀ field ∈ record.fields, field.aliases = []
  checks : ∀ field ∈ record.fields, ∀ v ∈ find field.name, field.check (.ofValue v) = .ok ()
  read : ∀ entries : String → Option Tree,
    (∀ field ∈ record.fields, entries field.name = (find field.name).map .ofValue) →
      record.ofMapping entries = .ok a

variable {find : String → Option Value} {name : String} {decode : Decoder α} {a : α}

private theorem checking_ok {tree : Tree} (ok : decode tree = .ok a) :
    checking decode tree = .ok () := by
  rw [checking, ok]
  rfl

theorem reads_required {v : Value} (found : find name = some v) (ok : decode (.ofValue v) = .ok a) :
    (required name decode).Reads find a where
  plain := List.forall_mem_singleton.mpr rfl
  checks := List.forall_mem_singleton.mpr fun w hw => by
    cases found.symm.trans hw
    exact checking_ok ok
  read entries same := by
    have here := List.forall_mem_singleton.mp same
    simp only [found, Option.map_some] at here
    simp only [required, requiredAs, here, ok]

theorem reads_withDefault {v : Value} {default : α} (found : find name = some v)
    (ok : decode (.ofValue v) = .ok a) : (withDefault name default decode).Reads find a where
  plain := List.forall_mem_singleton.mpr rfl
  checks := List.forall_mem_singleton.mpr fun w hw => by
    cases found.symm.trans hw
    exact checking_ok ok
  read entries same := by
    have here := List.forall_mem_singleton.mp same
    simp only [found, Option.map_some] at here
    simp only [withDefault, here, ok]

theorem reads_absent {default : α} (absent : find name = none) :
    (withDefault name default decode).Reads find default where
  plain := List.forall_mem_singleton.mpr rfl
  checks := List.forall_mem_singleton.mpr fun v hv => by cases absent.symm.trans hv
  read entries same := by
    have here := List.forall_mem_singleton.mp same
    simp only [absent, Option.map_none] at here
    simp only [withDefault, here]

theorem reads_maybe {e : α → Value} {found : Option α} (shown : find name = found.map e)
    (ok : ∀ a ∈ found, (e a).isNull = false ∧ decode (.ofValue (e a)) = .ok a) :
    (maybe name decode).Reads find found := by
  cases found with
  | some a =>
    obtain ⟨there, ok⟩ := ok a rfl
    refine reads_withDefault shown ?_
    rw [optional, isNull_ofValue, there, ok]
    rfl
  | none => exact reads_absent shown

theorem Reads.map {record : Record α} {f : α → β} (h : record.Reads find a) :
    (f <$> record).Reads find (f a) where
  plain := h.plain
  checks := h.checks
  read entries same := except_map_ok.mpr ⟨a, h.read entries same, rfl⟩

theorem Reads.seq {record : Record (α → β)} {next : Record α} {f : α → β} (h : record.Reads find f)
    (h' : next.Reads find a) : (record <*> next).Reads find (f a) where
  plain field known := (List.mem_append.mp known).elim (h.plain field) (h'.plain field)
  checks field known := (List.mem_append.mp known).elim (h.checks field) (h'.checks field)
  read entries same := by
    refine except_bind_ok.mpr ⟨f, h.read entries fun field known => ?_, ?_⟩
    · exact same field (List.mem_append_left _ known)
    · refine except_bind_ok.mpr ⟨a, h'.read entries fun field known => ?_, rfl⟩
      exact same field (List.mem_append_right _ known)

end Record

private theorem answersTo_plain {field : Field} {name : String} (plain : field.aliases = []) :
    field.answersTo name = (field.name == name) := by
  simp [Field.answersTo, plain]

private theorem checkEntries_ofMembers {fields : List Field} {seen : List String} {members : Members}
    (plain : ∀ field ∈ fields, field.aliases = []) (distinct : (members.map (·.1)).Nodup)
    (checks : ∀ field ∈ fields, ∀ m ∈ members, field.name = m.1 →
      field.check (.ofValue m.2) = .ok ())
    (unseen : ∀ m ∈ members, m.1 ∉ seen) :
    checkEntries fields (fun key tree => within key.segment tree.intact) seen
      (Tree.ofMembers members) = .ok () := by
  induction members generalizing seen with
  | nil => rfl
  | cons m rest ih =>
    obtain ⟨key, v⟩ := m
    rw [List.map_cons, List.nodup_cons] at distinct
    rw [List.forall_mem_cons] at unseen
    have others (field : Field) (known : field ∈ fields) := (List.forall_mem_cons.mp (checks field known)).2
    refine except_bind_ok.mpr ⟨key, rfl, ?_⟩
    cases found : fields.find? (·.answersTo key) with
    | none =>
      refine except_bind_ok.mpr ⟨(), except_mapError_ok.mpr (intact_ofValue v), ?_⟩
      exact ih distinct.2 others unseen.2
    | some field =>
      have known := List.mem_of_find?_eq_some found
      have answers := List.find?_some found
      rw [answersTo_plain (plain field known), beq_iff_eq] at answers
      have fresh : seen.contains field.name = false := by
        simpa [answers] using unseen.1
      dsimp only
      rw [fresh]
      refine except_bind_ok.mpr ⟨(), except_mapError_ok.mpr ?_, ih distinct.2 others fun m hm again => ?_⟩
      · exact (List.forall_mem_cons.mp (checks field known)).1 answers
      · rcases List.mem_cons.mp again with same | again
        · exact distinct.1 (List.mem_map.mpr ⟨m, hm, same.trans answers⟩)
        · exact unseen.2 m hm again

private theorem find?_ofMembers {field : Field} {members : Members} (plain : field.aliases = []) :
    ((Tree.ofMembers members).find? fun entry => entry.1.keyText?.any field.answersTo).map (·.2) =
      (members.get? field.name).map .ofValue := by
  induction members with
  | nil => rfl
  | cons m rest ih =>
    obtain ⟨key, v⟩ := m
    rw [Tree.ofMembers, List.find?_cons, Members.get?]
    simp only [Tree.keyText?, Option.any_some, answersTo_plain plain]
    by_cases same : key = field.name
    · simp [same]
    · have other : (field.name == key) = false := by simpa using Ne.symm same
      rw [if_neg same, other]
      exact ih

private theorem findEntry_ofMembers {fields : List Field} {members : Members} {field : Field}
    (plain : ∀ field ∈ fields, field.aliases = []) (known : field ∈ fields) :
    findEntry fields (Tree.ofMembers members) field.name = (members.get? field.name).map .ofValue := by
  unfold findEntry
  cases found : fields.find? (·.name == field.name) with
  | none => exact absurd (List.find?_eq_none.mp found field known) (by simp)
  | some first =>
    have same : first.name = field.name := by simpa using List.find?_some found
    dsimp only
    rw [find?_ofMembers (plain first (List.mem_of_find?_eq_some found)), same]

/-- An object is read as the record that its members make up. -/
theorem Record.Reads.decode {record : Record α} {members : Members} {a : α} {kind : String}
    (h : record.Reads members.get? a) (distinct : (members.map (·.1)).Nodup) :
    record.decode kind (.ofValue (.object members)) = .ok a := by
  refine except_bind_ok.mpr ⟨(), checkEntries_ofMembers h.plain distinct ?_ (by simp), ?_⟩
  · intro field known m hm same
    refine h.checks field known m.2 ?_
    rw [same]
    exact Members.get?_of_mem distinct hm
  · exact h.read _ fun field known => findEntry_ofMembers h.plain known

/-- What an object is read as is made of the values of its members. -/
theorem Record.ofMapping_of_decode {record : Record α} {members : Members} {kind : String} {a : α}
    (plain : ∀ field ∈ record.fields, field.aliases = [])
    (ok : record.decode kind (.ofValue (.object members)) = .ok a) :
    ∃ find, (∀ field ∈ record.fields,
      find field.name = (members.get? field.name).map .ofValue) ∧ record.ofMapping find = .ok a := by
  change (checkEntries record.fields _ [] (Tree.ofMembers members) >>= fun _ =>
    record.ofMapping (findEntry record.fields (Tree.ofMembers members))) = .ok a at ok
  obtain ⟨_, _, ok⟩ := except_bind_ok.mp ok
  exact ⟨_, fun field known => findEntry_ofMembers plain known, ok⟩

/-- What holds of all that is made of the value of one member. -/
theorem Record.Gives.decode {record : Record α} {P : α → Prop} {members : Members}
    {name kind : String} {v : Value} (plain : ∀ field ∈ record.fields, field.aliases = [])
    (declared : name ∈ record.fields.map (·.name)) (found : members.get? name = some v)
    (h : ∀ find, find name = some (.ofValue v) → record.Gives find P) {a : α}
    (ok : record.decode kind (.ofValue (.object members)) = .ok a) : P a := by
  obtain ⟨field, known, rfl⟩ := List.mem_map.mp declared
  obtain ⟨find, same, ok⟩ := Record.ofMapping_of_decode plain ok
  refine h find ?_ a ok
  rw [same field known, found]
  rfl

end Automation.Decode
