import Automation.Proofs.Engine.ClosingOnce
import Automation.Proofs.Engine.Reach
import Automation.Proofs.Program.Reliance
import Automation.Proofs.Store.Entries

/-!
Runs that add records to lists, remove them and delete records at the same time. Each of them looks at
the store before it makes an entry or deletes a record, and does so whatever has become of what it saw.
As long as nobody spoils it in between, a list has one entry for a record at most, and every entry is that
of a stored record.
-/
namespace Automation

open Json (Value)
open Program (Interleaved Sharing)

namespace Turn

variable {ι : Type}

/-- Documents were looked for. -/
def searches (table : Table) (q : Query) : Turn ι → Bool
  | ⟨_, .store (.query other asked), _⟩ => other = table ∧ asked = q
  | _ => false

/-- The list and the record that an entry was made for. -/
def joined? : Turn ι → Option (Option Value × Option Value)
  | ⟨_, .store (.insert .listEntries fields), .answered (.ok _)⟩ =>
    some (fields.get? "listId", fields.get? "recordId")
  | _ => none

/-- An entry was made for the record. -/
def enters (recordId : String) (turn : Turn ι) : Bool :=
  turn.joined?.any (·.2 = some (.string recordId))

/-- The record that was deleted. -/
def dropped? : Turn ι → Option String
  | ⟨_, .store (.delete .records id), .answered (.ok _)⟩ => some id
  | _ => none

def drops (recordId : String) (turn : Turn ι) : Bool := turn.dropped? = some recordId

end Turn

/-- What a run finds out before it makes an entry or deletes a record. -/
inductive Finding where
  /-- The list has no entry for the record. -/
  | vacant (listId recordId : String)
  | stored (recordId : String)
  /-- The entries for the record have these ids. -/
  | among (recordId : String) (ids : List String)

namespace Finding

/-- The entries that make the record a member of the list. -/
def membership (listId recordId : String) : Query :=
  { Query.byText [("listId", listId), ("recordId", recordId)] with limit := some 1 }

def memberships (recordId : String) : Query := .byText [("recordId", recordId)]

def Holds : Finding → MemoryStore → Prop
  | vacant listId recordId, store =>
    ∀ entry ∈ store.entries, entry.2 ≠ (some (.string listId), some (.string recordId))
  | stored recordId, store => store.Has recordId
  | among recordId ids, store =>
    ∀ entry ∈ store.entries, entry.2.2 = some (.string recordId) → entry.1 ∈ ids

/-- How it is found out, what is done on account of it and what makes it wrong. -/
def reliance (ι : Type) : Finding → Reliance ι
  | vacant listId recordId =>
    let joins (turn : Turn ι) : Bool :=
      turn.joined? = some (some (.string listId), some (.string recordId))
    ⟨Turn.searches .listEntries (membership listId recordId), joins, joins⟩
  | stored recordId => ⟨Turn.looksUp .records recordId, Turn.enters recordId, Turn.drops recordId⟩
  | among recordId _ =>
    ⟨Turn.searches .listEntries (memberships recordId), Turn.drops recordId, Turn.enters recordId⟩

end Finding

namespace MemoryStore

/-- A list has one entry for a record at most. -/
def Distinct (store : MemoryStore) : Prop := (store.entries.map (·.2)).Nodup

/-- Every entry is that of a stored record. -/
def Anchored (store : MemoryStore) : Prop :=
  ∀ entry ∈ store.entries, ∃ recordId, entry.2.2 = some (.string recordId) ∧ store.Has recordId

variable {ι : Type} {idAt : Nat → String} {store after : MemoryStore} {i : ι} {effect : Effect}
  {reply : effect.Reply}

/-- An effect that does not change what an entry joins. -/
def Fair (effect : Effect) : Prop :=
  ∀ id u, effect = .store (.update .listEntries id u) → u.SparesLinks

private theorem fair_cases (fair : Fair effect) : effect.Mild ∨
    (∃ fields, effect = .store (.insert .listEntries fields)) ∨
      ∃ recordId, effect = .store (.delete .records recordId) := by
  cases effect with
  | exchange request deadline => exact .inl trivial
  | clock => exact .inl trivial
  | store op =>
    cases op with
    | get table id => exact .inl trivial
    | query table q => exact .inl trivial
    | insert table fields =>
      by_cases here : table = .listEntries
      · exact .inr (.inl ⟨fields, here ▸ rfl⟩)
      · exact .inl here
    | update table id u => exact .inl fun here => fair id u (here ▸ rfl)
    | delete table id =>
      by_cases here : table = .records
      · exact .inr (.inr ⟨id, here ▸ rfl⟩)
      · exact .inl here

/-- The entries are those from before, or an entry was made. -/
theorem entries_of_world (w : world idAt effect store reply after) (fair : Fair effect) :
    after.entries.Sublist store.entries ∨ ∃ id joined,
      (⟨i, effect, reply⟩ : Turn ι).joined? = some joined ∧
        after.entries.Perm ((id, joined) :: store.entries.eraseP (·.1 == id)) := by
  rcases fair_cases fair with mild | ⟨fields, rfl⟩ | ⟨recordId, rfl⟩
  · exact .inl (entries_sublist w mild)
  · rcases reply with (e | id) | _ | crash
    · exact .inl (eq_of_unanswered w nofun ▸ .refl _)
    · rcases entries_insert w with rfl | ⟨id, made⟩
      · exact .inl (.refl _)
      · exact .inr ⟨id, _, rfl, made⟩
    · exact .inl (eq_of_unanswered w nofun ▸ .refl _)
    · exact .inl (eq_of_unanswered w nofun ▸ .refl _)
  · have same : after.docs .listEntries = store.docs .listEntries := docs_of_world w nofun
    rw [entries, entries, same]
    exact .inl (.refl _)

private theorem mem_of_entries (w : world idAt effect store reply after) (fair : Fair effect) :
    ∀ entry ∈ after.entries, entry ∈ store.entries ∨
      (⟨i, effect, reply⟩ : Turn ι).joined? = some entry.2 := by
  intro entry known
  rcases entries_of_world (i := i) w fair with less | ⟨id, joined, told, made⟩
  · exact .inl (less.subset known)
  · rcases List.mem_cons.mp (made.mem_iff.mp known) with rfl | known
    · exact .inr told
    · exact .inl (List.mem_of_mem_eraseP known)

/-- Entries keep to ids of their own. -/
theorem keyed_of_fair (w : world idAt effect store reply after) (fair : Fair effect)
    (keyed : (store.entries.map (·.1)).Nodup) : (after.entries.map (·.1)).Nodup := by
  rcases entries_of_world (i := ()) w fair with less | ⟨id, joined, -, made⟩
  · exact keyed.sublist (less.map _)
  · have erased : (store.entries.eraseP (·.1 == id)).map (·.1) =
        (store.entries.map (·.1)).erase id := by
      rw [List.erase_eq_eraseP', List.eraseP_map]
      rfl
    refine (made.map (·.1)).nodup_iff.mpr (List.nodup_cons.mpr ?_)
    rw [erased]
    exact ⟨keyed.not_mem_erase, keyed.erase id⟩

private theorem Anchored.stays (h : Anchored store) (w : world idAt effect store reply after)
    {entry : String × Option Value × Option Value} (known : entry ∈ store.entries)
    (apart : ∀ recordId, entry.2.2 = some (.string recordId) →
      effect ≠ .store (.delete .records recordId)) :
    ∃ recordId, entry.2.2 = some (.string recordId) ∧ after.Has recordId := by
  obtain ⟨recordId, names, has⟩ := h entry known
  exact ⟨recordId, names, has_of_world w (apart recordId names) has⟩

/-- What is mild leaves the entries in order. -/
theorem ordered_of_mild (w : world idAt effect store reply after) (mild : effect.Mild)
    (distinct : Distinct store) (anchored : Anchored store) : Distinct after ∧ Anchored after := by
  have less := entries_sublist w mild
  refine ⟨distinct.sublist (less.map _), fun entry known => ?_⟩
  refine anchored.stays w (less.subset known) fun recordId _ same => ?_
  subst same
  exact mild rfl

/-- An entry for a stored record is in order when the list has none for it. -/
theorem ordered_of_enter {listId recordId : String} {fields : Json.Members} {reply : StoreReply String}
    (w : world idAt (.store (.insert .listEntries fields)) store reply after)
    (list : fields.get? "listId" = some (.string listId))
    (record : fields.get? "recordId" = some (.string recordId))
    (vacant : (Finding.vacant listId recordId).Holds store) (there : store.Has recordId)
    (distinct : Distinct store) (anchored : Anchored store) : Distinct after ∧ Anchored after := by
  rcases entries_insert w with rfl | ⟨id, made⟩
  · exact ⟨distinct, anchored⟩
  rw [list, record] at made
  refine ⟨?_, fun entry known => ?_⟩
  · refine (made.map (·.2)).nodup_iff.mpr (List.nodup_cons.mpr ⟨fun known => ?_, ?_⟩)
    · obtain ⟨entry, known, same⟩ := List.mem_map.mp known
      exact vacant entry (List.mem_of_mem_eraseP known) same
    · exact distinct.sublist ((List.eraseP_sublist ..).map _)
  · rcases List.mem_cons.mp (made.mem_iff.mp known) with rfl | known
    · exact ⟨recordId, rfl, has_of_world w nofun there⟩
    · exact anchored.stays w (List.mem_of_mem_eraseP known) fun _ _ => nofun

/-- A record without entries may be deleted. -/
theorem ordered_of_drop {recordId : String} {reply : StoreReply Unit}
    (w : world idAt (.store (.delete .records recordId)) store reply after)
    (alone : (Finding.among recordId []).Holds store) (distinct : Distinct store)
    (anchored : Anchored store) : Distinct after ∧ Anchored after := by
  have aside : Effect.On (· ≠ .listEntries) (.store (.delete .records recordId)) := nofun
  have same : after.entries = store.entries := congrArg (List.map _) (docs_of_world w aside)
  rw [Distinct, Anchored, same]
  refine ⟨distinct, fun entry known => anchored.stays w known fun other names same => ?_⟩
  cases same
  cases alone entry known names

/-- What was found out stays so until it is spoiled. -/
theorem holds_of_world {finding : Finding} (w : world idAt effect store reply after)
    (fair : Fair effect) (calm : (finding.reliance ι).spoils ⟨i, effect, reply⟩ = false)
    (h : finding.Holds store) : finding.Holds after := by
  cases finding with
  | vacant listId recordId =>
    intro entry known same
    rcases mem_of_entries (i := i) w fair entry known with known | joined
    · exact h entry known same
    · exact of_decide_eq_false calm (same ▸ joined)
  | stored recordId =>
    by_cases dropped : effect = .store (.delete .records recordId)
    · subst dropped
      have silent : ∀ answer, reply ≠ .answered (.ok answer) := by
        rintro answer rfl
        exact of_decide_eq_false calm rfl
      rwa [eq_of_unanswered w silent]
    · exact has_of_world w dropped h
  | among recordId ids =>
    intro entry known same
    rcases mem_of_entries (i := i) w fair entry known with known | joined
    · exact h entry known same
    · simp [Finding.reliance, Turn.enters, joined, same] at calm

/-- A list without an entry for a record is found to have none. -/
theorem vacant_of_query {listId recordId : String}
    (none : (store.query .listEntries (Finding.membership listId recordId)).head? = none) :
    (Finding.vacant listId recordId).Holds store := by
  intro entry known same
  obtain ⟨doc, listed, rfl⟩ := List.mem_map.mp known
  have accepted : (Query.byText [("listId", listId), ("recordId", recordId)]).accepts doc = true := by
    obtain ⟨list, record⟩ := Prod.mk.inj same
    rw [Query.accepts_byText]
    simp [list, record]
  have found : doc ∈ (store.docs .listEntries).filter (Finding.membership listId recordId).accepts :=
    List.mem_filter.mpr ⟨listed, accepted⟩
  rw [List.head?_eq_none_iff, query, Query.select] at none
  simp only [Finding.membership] at none found
  cases accepting : (store.docs .listEntries).filter
    { Query.byText [("listId", listId), ("recordId", recordId)] with limit := some 1 }.accepts with
  | nil =>
    rw [accepting] at found
    cases found
  | cons first rest =>
    rw [accepting] at none
    cases none

/-- All entries for a record are found. -/
theorem among_of_query (store : MemoryStore) (recordId : String) :
    (Finding.among recordId ((store.query .listEntries (Finding.memberships recordId)).map (·.id))).Holds
      store := by
  intro entry known same
  obtain ⟨doc, listed, rfl⟩ := List.mem_map.mp known
  have accepted : (Finding.memberships recordId).accepts doc = true := by
    have record : doc.get? "recordId" = some (.string recordId) := same
    rw [Finding.memberships, Query.accepts_byText]
    simp [record]
  exact List.mem_map_of_mem (List.mem_filter.mpr ⟨listed, accepted⟩)

end MemoryStore

namespace Engine

open MemoryStore Work

variable {ι : Type} [DecidableEq ι] {idAt : Nat → String} {engine : Engine} {ctx : Context}
  {stepId : String} {past later : Past ι MemoryStore} {i : ι} {effect : Effect} {reply : effect.Reply}
  {s : MemoryStore} {finding : Finding}

/-- What runs rely on: unless somebody came in between what another saw and did, the entries are in
order so far, and what was found out stays so until it is spoiled. -/
def joining (ι : Type) : Sharing ι MemoryStore :=
  .along
    (fun past => (past.state.entries.map (·.1)).Nodup ∧
      ((∀ finding : Finding, (finding.reliance ι).Undivided past.turns) →
        Distinct past.state ∧ Anchored past.state))
    (fun turns before after => ∀ finding : Finding,
      (∀ turn ∈ turns, (finding.reliance ι).spoils turn = false) → finding.Holds before →
        finding.Holds after)
    (fun _ _ _ h => h)
    (fun _ _ _ _ _ first second finding calm h => by
      rw [List.forall_mem_append] at calm
      exact second finding calm.2 (first finding calm.1 h))

/-- The run has found it out, and it is so unless somebody has spoiled it since. -/
def Knows (i : ι) (finding : Finding) (past : Past ι MemoryStore) : Prop :=
  (finding.reliance ι).Seen i past.turns (finding.Holds past.state)

/-- What a run asks: nothing that changes what an entry joins, to make an entry when it has found the
record stored and the list without it, and to delete a record when it has found it in no list. -/
inductive Joins (i : ι) (effect : Effect) (past : Past ι MemoryStore) : Prop
  | mild (h : effect.Mild)
  | enter {listId recordId : String} {fields : Json.Members}
      (same : effect = .store (.insert .listEntries fields))
      (list : fields.get? "listId" = some (.string listId))
      (record : fields.get? "recordId" = some (.string recordId))
      (free : Knows i (.vacant listId recordId) past) (there : Knows i (.stored recordId) past)
  | drop {recordId : String} (same : effect = .store (.delete .records recordId))
      (alone : Knows i (.among recordId []) past)

def joiningPolicy (i : ι) : Policy (Past ι MemoryStore) where
  permitted effect past := Joins i effect past

omit [DecidableEq ι] in
private theorem Joins.fair (h : Joins i effect past) : Fair effect := by
  rintro id u rfl
  cases h with
  | mild mild => exact mild rfl
  | enter same => cases same
  | drop same => cases same

omit [DecidableEq ι] in
/-- A turn that is permitted leaves the entries in order, if nobody came in between. -/
private theorem ordered_step (h : Joins i effect past) (w : world idAt effect past.state reply s)
    (undivided : ∀ finding : Finding,
      (finding.reliance ι).Undivided (past.turns ++ [⟨i, effect, reply⟩]))
    (distinct : Distinct past.state) (anchored : Anchored past.state) :
    Distinct s ∧ Anchored s := by
  by_cases quiet : (⟨i, effect, reply⟩ : Turn ι).writes = false
  · rw [eq_of_quiet w quiet]
    exact ⟨distinct, anchored⟩
  cases h with
  | mild mild => exact ordered_of_mild w mild distinct anchored
  | @enter listId recordId fields same list record free there =>
    subst same
    rcases reply with (e | id) | _ | crash
    · exact absurd rfl quiet
    · have acts : ((⟨i, .store (.insert .listEntries fields), .answered (.ok id)⟩ : Turn ι)).joined? =
          some (some (.string listId), some (.string recordId)) := by
        rw [Turn.joined?, list, record]
      have vacant : (Finding.vacant listId recordId).Holds past.state :=
        free.act (undivided _) rfl (decide_eq_true acts)
      have there : past.state.Has recordId :=
        there.act (undivided (.stored recordId)) rfl (by simp [Finding.reliance, Turn.enters, acts])
      exact ordered_of_enter w list record vacant there distinct anchored
    · exact absurd rfl quiet
    · exact absurd rfl quiet
  | @drop recordId same alone =>
    subst same
    rcases reply with (e | done) | _ | crash
    · exact absurd rfl quiet
    · have alone : (Finding.among recordId []).Holds past.state :=
        alone.act (undivided _) rfl (decide_eq_true rfl)
      exact ordered_of_drop w alone distinct anchored
    · exact absurd rfl quiet
    · exact absurd rfl quiet

omit [DecidableEq ι] in
/-- Runs keep what they rely on. -/
private theorem joining_holds : (joining ι).Holds (world idAt)
    (fun store after => after.docs .listEntries = store.docs .listEntries ∧
      after.docs .records = store.docs .records) joiningPolicy where
  turn past i effect reply s kept permitted w := by
    refine ⟨⟨keyed_of_fair w permitted.fair kept.1, fun undivided => ?_⟩, [⟨i, effect, reply⟩], rfl,
      fun finding calm => holds_of_world w permitted.fair (calm _ (List.mem_singleton_self _))⟩
    have ordered := kept.2 fun finding => (undivided finding).earlier
    exact ordered_step permitted w undivided ordered.1 ordered.2
  drifts past s kept same := by
    have entries : s.entries = past.state.entries := congrArg (List.map _) same.1
    have has (recordId : String) : s.Has recordId ↔ past.state.Has recordId := by
      rw [Has, Has, get?, get?, same.2]
    refine ⟨?_, [], by simp, fun finding _ h => ?_⟩
    · change _ ∧ (_ → Distinct s ∧ Anchored s)
      simp only [Distinct, Anchored, entries, has]
      exact kept
    · cases finding with
      | vacant listId recordId => rwa [Finding.Holds, entries]
      | stored recordId => exact (has recordId).mpr h
      | among recordId ids => rwa [Finding.Holds, entries]

private theorem kept_of_world (w : (joining ι).world (world idAt) i effect past reply later) :
    (joining ι).kept later := (Sharing.goes_of_world w).choose_spec.2.kept

/-- What a run looks for and finds it knows. -/
private theorem knows_of_look (w : (joining ι).world (world idAt) i effect past reply later)
    (looks : (finding.reliance ι).looks ⟨i, effect, reply⟩ = true)
    (found : ∀ s, world idAt effect past.state reply s → finding.Holds s) :
    Knows i finding later := by
  obtain ⟨s, w, goes⟩ := Sharing.goes_of_world w
  obtain ⟨more, split, moved, others⟩ := goes.others
  rw [Knows, split]
  refine (Reliance.seen_of_look rfl looks (found s w)).append ?_ fun calm => moved finding calm
  exact fun turn known own => absurd own (others turn known)

/-- A run's own turns after its look, and those of the others, leave what it knows; by a turn of its own
it may come to know more. -/
private theorem Knows.next {further : Finding} (h : Knows i finding past)
    (w : (joining ι).world (world idAt) i effect past reply later)
    (blind : (finding.reliance ι).looks ⟨i, effect, reply⟩ = false)
    (alike : further.reliance ι = finding.reliance ι)
    (own : ∀ s, world idAt effect past.state reply s →
      (finding.reliance ι).spoils ⟨i, effect, reply⟩ = false → finding.Holds past.state →
        further.Holds s) : Knows i further later := by
  obtain ⟨s, w, goes⟩ := Sharing.goes_of_world w
  obtain ⟨more, split, moved, others⟩ := goes.others
  rw [Knows, split, alike, List.append_assoc]
  refine h.append ?_ fun calm now => ?_
  · intro turn known own
    rcases List.mem_append.mp known with known | known
    · exact List.mem_singleton.mp known ▸ blind
    · exact absurd own (others turn known)
  · rw [List.forall_mem_append] at calm
    refine moved further (alike ▸ calm.2) (own s w ?_ now)
    exact calm.1 _ (List.mem_singleton_self _)

/-- Work that asks for nothing else than what is mild. -/
private theorem mild_meets {ε α : Type} {work : Work ε α} {given : α → Prop}
    (asks : work.Asks Effect.Mild given) (h : (joining ι).kept past) :
    work.Meets ((joining ι).world (world idAt) i) (joiningPolicy i)
      (fun a later => given a ∧ (joining ι).kept later) (fun _ later => (joining ι).kept later) past :=
  asks.meets (fun _ _ mild _ => .mild mild) (fun _ _ _ _ _ => nofun)
    (fun _ _ _ _ _ _ w => kept_of_world w) h

theorem ordinary_mild : Ordinary Effect.Mild where
  clock := trivial
  exchange _ _ := trivial
  get _ _ _ := trivial
  query _ _ _ := trivial
  insert _ _ _ apart := apart
  update _ _ _ _ spares _ := spares
  leave _ := nofun

/-- A run that finds no entry knows that there is none. -/
private theorem membership_looks {listId : String} {recordId : Option String}
    (h : (joining ι).kept past) :
    (engine.membership ctx listId recordId).Meets ((joining ι).world (world idAt) i) (joiningPolicy i)
      (fun m later => (joining ι).kept later ∧
        (m.entry = none → Knows i (.vacant m.listId m.recordId) later))
      (fun _ later => (joining ι).kept later) past := by
  refine (mild_meets (Connection.asks_requireIn trivial) h).bind fun list later ⟨_, kept⟩ => ?_
  cases targetId ctx recordId with
  | error e => exact Work.meets_fail.mpr kept
  | ok id =>
    change Work.Meets _ _ _ _ (engine.records.first .listEntries
      (.byText [("listId", list.id), ("recordId", id)]) >>= _) later
    unfold Connection.first
    rw [bind_assoc]
    refine Connection.meets_askThen (.mild trivial) (fun _ _ => nofun) fun reply last w => ?_
    have kept := kept_of_world w
    rcases reply with (e | found) | _ | crash
    · exact kept
    · refine Work.meets_pure.mpr ⟨kept, fun none => knows_of_look w ?_ fun s w => ?_⟩
      · simp [Finding.reliance, Turn.searches, Finding.membership]
      · obtain ⟨rfl, rfl⟩ := query_performed w
        exact vacant_of_query none
    · exact kept
    · exact kept

/-- Making an entry for a record takes that it is stored. -/
private theorem requireIn_finds {listId recordId : String}
    (free : Knows i (.vacant listId recordId) past) :
    (engine.records.requireIn ctx.workspaceId .records recordId).Meets
      ((joining ι).world (world idAt) i) (joiningPolicy i)
      (fun _ later => (joining ι).kept later ∧ Knows i (.vacant listId recordId) later ∧
        Knows i (.stored recordId) later)
      (fun _ later => (joining ι).kept later) past := by
  unfold Connection.requireIn Connection.require
  rw [bind_assoc]
  refine Connection.meets_askThen (.mild trivial) (fun _ _ => nofun) fun reply later w => ?_
  have kept := kept_of_world w
  rcases reply with (e | found) | _ | crash
  · exact kept
  · cases found with
    | none => exact Work.meets_fail.mpr kept
    | some doc =>
      have free : Knows i (.vacant listId recordId) later :=
        free.next w rfl rfl fun _ w => holds_of_world w (fun _ _ => nofun)
      have there : Knows i (.stored recordId) later := by
        refine knows_of_look w (decide_eq_true ⟨rfl, rfl⟩) fun s w => ?_
        obtain ⟨found, rfl⟩ := get_performed w
        rw [Finding.Holds, Has, ← found]
        rfl
      simp only [Connection.understood, Work.Promise, pure_bind]
      split
      · exact Work.meets_pure.mpr ⟨kept, free, there⟩
      · exact Work.meets_fail.mpr kept
  · exact kept
  · exact kept

theorem get?_newEntry (ctx : Context) (m : Membership) (data : Json.Members) :
    (newEntry ctx m data).get? "listId" = some (.string m.listId) ∧
      (newEntry ctx m data).get? "recordId" = some (.string m.recordId) := by
  unfold newEntry
  rw [Json.Members.get?_ofList (by simp), Json.Members.get?_ofList (by simp)]
  exact ⟨rfl, rfl⟩

/-- What a run makes an entry for it has found stored and without one. -/
private theorem addToList_joins {m : Membership} {data : Json.Members} (h : (joining ι).kept past)
    (free : m.entry = none → Knows i (.vacant m.listId m.recordId) past) :
    (engine.addToList ctx stepId m data).Meets ((joining ι).world (world idAt) i) (joiningPolicy i)
      (fun _ later => (joining ι).kept later) (fun _ later => (joining ι).kept later) past := by
  unfold addToList
  split
  · exact Work.meets_pure.mpr h
  · next none =>
    refine (requireIn_finds (free none)).bind fun record later ⟨kept, free, there⟩ => ?_
    have fields := get?_newEntry ctx m data
    refine Connection.meets_askThen (.enter rfl fields.1 fields.2 free there) (fun _ _ => nofun)
      fun reply last w => ?_
    have kept := kept_of_world w
    rcases reply with (e | entryId) | _ | crash
    · exact kept
    · exact (mild_meets ordinary_mild.audit kept).bind fun _ _ post => Work.meets_pure.mpr post.2
    · exact kept
    · exact kept

/-- The entries that were found are deleted, and no others are left unless somebody made them. -/
private theorem deleteEntries_leaves {recordId : String} (entries : List Document)
    (h : (joining ι).kept past) (known : Knows i (.among recordId (entries.map (·.id))) past) :
    (engine.deleteEntries entries).Meets ((joining ι).world (world idAt) i) (joiningPolicy i)
      (fun _ later => (joining ι).kept later ∧ Knows i (.among recordId []) later)
      (fun _ later => (joining ι).kept later) past := by
  induction entries generalizing past with
  | nil => exact Work.meets_pure.mpr ⟨h, known⟩
  | cons entry rest ih =>
    refine Connection.meets_askThen (.mild nofun) (fun _ _ => nofun) fun reply later w => ?_
    have kept := kept_of_world w
    rcases reply with (e | done) | _ | crash
    · exact kept
    · refine ih kept (known.next w rfl rfl fun s w _ among => ?_)
      intro other left names
      obtain ⟨old, apart⟩ := entries_deleted h.1 w other left
      exact (List.mem_cons.mp (among other old names)).resolve_left apart
    · exact kept
    · exact kept

/-- What a run deletes it has taken from all lists. -/
private theorem deleteRecord_joins {recordId : Option String} (h : (joining ι).kept past) :
    (engine.deleteRecord ctx stepId recordId).Meets ((joining ι).world (world idAt) i) (joiningPolicy i)
      (fun _ later => (joining ι).kept later) (fun _ later => (joining ι).kept later) past := by
  refine (mild_meets ordinary_mild.targetRecord h).bind fun record later ⟨_, kept⟩ => ?_
  refine Connection.meets_askThen (.mild trivial) (fun _ _ => nofun) fun reply later w => ?_
  have kept := kept_of_world w
  rcases reply with (e | found) | _ | crash
  · exact kept
  · have among : Knows i (.among record.id (found.map (·.id))) later := by
      refine knows_of_look w (decide_eq_true ⟨rfl, rfl⟩) fun s w => ?_
      obtain ⟨rfl, rfl⟩ := query_performed w
      exact among_of_query _ _
    refine (deleteEntries_leaves found kept among).bind fun _ later ⟨_, alone⟩ => ?_
    refine Connection.meets_askThen (.drop rfl alone) (fun _ _ => nofun) fun reply last w => ?_
    have kept := kept_of_world w
    rcases reply with (e | done) | _ | crash
    · exact kept
    · exact (mild_meets ordinary_mild.audit kept).bind fun _ _ post => Work.meets_pure.mpr post.2
    · exact kept
    · exact kept
  · exact kept
  · exact kept

/-- What steps do by themselves keeps what runs rely on. -/
private theorem runPrimitive_joins (tools : engine.ToolsAsk Effect.Mild) (p : Primitive)
    (h : (joining ι).kept past) :
    (engine.runPrimitive ctx stepId p).Meets ((joining ι).world (world idAt) i) (joiningPolicy i)
      (fun _ later => (joining ι).kept later) (fun _ later => (joining ι).kept later) past := by
  have mild (adds : p.type ≠ .addToList) (deletes : p.type ≠ .deleteRecord) :
      (engine.runPrimitive ctx stepId p).Meets ((joining ι).world (world idAt) i) (joiningPolicy i)
        (fun _ later => (joining ι).kept later) (fun _ later => (joining ι).kept later) past :=
    (mild_meets (ordinary_mild.primitive tools adds deletes) h).mono (fun _ _ post => post.2)
      fun _ _ post => post
  cases p with
  | deleteRecord recordId => exact deleteRecord_joins h
  | list command listId recordId data =>
    cases command with
    | add => exact (membership_looks h).bind fun m _ ⟨kept, free⟩ => addToList_joins kept free
    | _ => exact mild nofun nofun
  | field command recordId => cases command <;> exact mild nofun nofun
  | _ => exact mild nofun nofun

private theorem runSequence_joins (tools : engine.ToolsAsk Effect.Mild) (steps : List Step)
    (ctx : Context) (h : (joining ι).kept past) :
    (engine.runSequence steps ctx).Meets ((joining ι).world (world idAt) i) (joiningPolicy i)
      (fun _ later => (joining ι).kept later) past := by
  have anyStop {α : Type} {work : Work StepError α} {given : α → Prop} {s : Past ι MemoryStore}
      (h : work.Meets ((joining ι).world (world idAt) i) (joiningPolicy i)
        (fun a later => given a ∧ (joining ι).kept later) (fun _ later => (joining ι).kept later) s) :
      work.Meets ((joining ι).world (world idAt) i) (joiningPolicy i)
        (fun _ later => (joining ι).kept later)
        (fun stop later => stop.Fits (fun _ => True) ∧ (joining ι).kept later) s :=
    h.mono (fun _ _ post => post.2) fun stop _ post => ⟨by cases stop <;> trivial, post⟩
  have follows : engine.Follows ((joining ι).world (world idAt) i) (joiningPolicy i)
      { kept := (joining ι).kept } :=
    { clock := fun s kept => ⟨.mild trivial, fun _ _ => nofun, fun _ _ w => ⟨trivial, kept_of_world w⟩⟩
      withOutput := fun _ _ _ _ _ => trivial
      atItem := fun _ _ _ _ _ => trivial
      primitive := fun ctx stepId p s _ _ kept =>
        (runPrimitive_joins tools p kept).mono (fun _ _ post => ⟨trivial, post⟩)
          fun stop _ post => ⟨by cases stop <;> trivial, post⟩
      subject := fun ctx subject _ _ kept => anyStop (mild_meets (ordinary_mild.subject subject) kept)
      items := fun ctx settings max _ _ kept =>
        anyStop (mild_meets (ordinary_mild.items settings max) kept)
      branch := fun _ _ _ => trivial
      loop := fun _ _ _ => trivial }
  exact (runSequence_follows follows steps ctx past trivial h).mono fun _ _ post => post.2

/-- A run whose steps call no tools keeps what runs rely on. -/
private theorem run_joins {action : Action} {occasion : Occasion}
    (toolless : Step.TypedAll (· ≠ .callTool) action.steps) (h : (joining ι).kept past) :
    (engine.run action occasion).Meets ((joining ι).world (world idAt) i) (joiningPolicy i)
      (fun _ later => (joining ι).kept later) (fun _ later => (joining ι).kept later) past := by
  have aside {ε α : Type} {work : Work ε α} {given : α → Prop}
      (asks : work.Asks (Effect.On (· = .actionExecutions)) given) : work.Asks Effect.Mild given := by
    refine asks.mono (fun effect on => .of_on (on.mono ?_)) fun _ post => post
    rintro table rfl
    exact ⟨nofun, nofun⟩
  refine (mild_meets (aside (start_asks action occasion)) h).bind fun executionId later ⟨_, kept⟩ => ?_
  rw [← runSequence_tools ⟨[]⟩ action.steps _ toolless]
  have tools : ({ engine with tools := ⟨[]⟩ } : Engine).ToolsAsk Effect.Mild :=
    fun _ _ _ => asks_fail _
  refine (Work.meets_ofProgram (runSequence_joins tools action.steps _ kept)).bind
    fun trace later kept => ?_
  refine (mild_meets (aside (finish_asks executionId trace.results trace.ending.error?)) kept).bind
    fun status later ⟨_, kept⟩ => ?_
  have writes (entry : AuditEntry) : (engine.writeAudit entry).Asks Effect.Mild fun _ => True :=
    writeAudit_asks fun _ => nofun
  exact (mild_meets (writes _).ignoring kept).bind fun _ _ ⟨_, kept⟩ => Work.meets_pure.mpr kept

/-- Runs that change lists and delete records at the same time. As long as what a run has found out is not
spoiled before it acts on it, at every moment a list has one entry for a record at most, and every entry is
that of a stored record. -/
theorem memberships_distinct (engine : Engine) (idAt : Nat → String) (runs : ι → Action × Occasion)
    (toolless : ∀ i, Step.TypedAll (· ≠ .callTool) (runs i).1.steps) {store after : MemoryStore}
    {turns : List (Turn ι)} {rest : ι → Program (Except (Stop LifecycleError) ExecutionReport)}
    (keyed : (store.entries.map (·.1)).Nodup) (distinct : Distinct store) (anchored : Anchored store)
    (ran : Interleaved (world idAt) (fun store after =>
        after.docs .listEntries = store.docs .listEntries ∧ after.docs .records = store.docs .records)
      (fun i => (engine.run (runs i).1 (runs i).2).run) store turns rest after)
    (undivided : ∀ finding : Finding, (finding.reliance ι).Undivided turns) :
    Distinct after ∧ Anchored after := by
  have begun : (joining ι).Pending (world idAt) joiningPolicy
      (fun _ => Work.Promise (fun (_ : ExecutionReport) later => (joining ι).kept later)
        fun (_ : Stop LifecycleError) later => (joining ι).kept later)
      (fun i => (engine.run (runs i).1 (runs i).2).run) ⟨[], store⟩ :=
    ⟨⟨keyed, fun _ => ⟨distinct, anchored⟩⟩, fun i later elsewhere => run_joins (toolless i) elsewhere.kept⟩
  exact (ran.pending joining_holds begun).1.kept.2 undivided

section

private def step (id : String) (type : StepType) (config : Json.Value) : Step :=
  ⟨id, type, none, config, [], [], []⟩

private def doing (steps : List Step) : Action where
  id := "a"
  workspaceId := "w"
  name := "Members"
  slug := "members"
  description := none
  trigger := ⟨.manual, none, none, none, none⟩
  conditions := []
  steps
  isActive := true
  isSystem := false
  createdBy := none

/-- Makes the record of the run a member of the list "l". -/
private def enter : Action :=
  doing [step "in" .addToList (.object [("listId", .string "l")])]

private def delete : Action := doing [step "out" .deleteRecord (.object [])]

/-- Two runs that are about the record "r". -/
private def about (first second : Action) (i : Bool) : Action × Occasion :=
  (if i then first else second, ⟨.manual, some ⟨"r", 0, none, []⟩, none⟩)

/-- A list of two records, of which one is a member. -/
private def listed : MemoryStore where
  lists := [⟨"l", 0, [("workspaceId", .string "w")]⟩]
  records := [⟨"r", 0, [("workspaceId", .string "w")]⟩, ⟨"s", 0, [("workspaceId", .string "w")]⟩]
  listEntries := [⟨"e", 0, [("listId", .string "l"), ("recordId", .string "s"),
    ("workspaceId", .string "w")]⟩]

private def sideBySide (first second : Action) (i : Bool) :
    Program (Except (Stop LifecycleError) ExecutionReport) :=
  (bareEngine.run (about first second i).1 (about first second i).2).run

/-- The first run goes so many turns ahead, the second one runs to its end, and then the first one. -/
private def overtaken (first second : Action) (turns : Nat) :=
  Program.schedule (calm Surroundings.marks)
    (List.replicate turns true ++ List.replicate 20 false ++ List.replicate 20 true)
    (sideBySide first second) listed

private theorem interleaved_overtaken (drift : MemoryStore → MemoryStore → Prop)
    (first second : Action) (turns : Nat) :
    Interleaved (world Surroundings.marks) drift (sideBySide first second) listed
      (overtaken first second turns).1 (overtaken first second turns).2.1
      (overtaken first second turns).2.2 :=
  Program.interleaved_schedule (fun effect store => (dated_calm effect store).1) rfl

/-- Who makes entries for nothing but one record in one list, and deletes no record, relies on that the
list is without it, at most. -/
private theorem undivided_of_enters (listId recordId : String) {turns : List (Turn Bool)}
    (enters : ∀ turn ∈ turns, ∀ joined ∈ turn.joined?,
      joined = (some (.string listId), some (.string recordId)))
    (keeps : ∀ turn ∈ turns, turn.dropped? = none)
    (whole : (turns.sublistsLen 3).any
      ((Finding.vacant listId recordId).reliance Bool).tears = false) (finding : Finding) :
    (finding.reliance Bool).Undivided turns := by
  cases finding with
  | vacant list record =>
    by_cases same : list = listId ∧ record = recordId
    · obtain ⟨rfl, rfl⟩ := same
      exact Reliance.undivided_of_sublistsLen whole
    · refine Reliance.undivided_of_idle fun turn known => decide_eq_false fun joined => same ?_
      cases enters turn known _ joined
      exact ⟨rfl, rfl⟩
  | stored record =>
    refine Reliance.undivided_of_calm fun turn known => decide_eq_false ?_
    rw [keeps turn known]
    nofun
  | among record ids =>
    refine Reliance.undivided_of_idle fun turn known => decide_eq_false ?_
    rw [keeps turn known]
    nofun

private theorem ordered_listed :
    (listed.entries.map (·.1)).Nodup ∧ Distinct listed ∧ Anchored listed := by
  refine ⟨List.nodup_singleton _, List.nodup_singleton _, fun entry known => ?_⟩
  cases List.mem_singleton.mp known
  exact ⟨"s", rfl, rfl⟩

private theorem toolless_enter (i : Bool) :
    Step.TypedAll (· ≠ .callTool) (about enter enter i).1.steps := by
  cases i <;> exact ⟨⟨nofun, trivial, trivial, trivial⟩, trivial⟩

/-- Two runs make a record a member of a list, and the second one looks when the first one is done. -/
theorem memberships_distinct_inTurn : ∃ turns rest after,
    Interleaved (world Surroundings.marks) (fun store after =>
        after.docs .listEntries = store.docs .listEntries ∧ after.docs .records = store.docs .records)
      (sideBySide enter enter) listed turns rest after ∧
    (∀ finding : Finding, (finding.reliance Bool).Undivided turns) ∧ (∀ i, Completes (rest i)) ∧
    after.entries.length = 2 ∧ Distinct after ∧ Anchored after := by
  have ran := interleaved_overtaken (fun store after =>
    after.docs .listEntries = store.docs .listEntries ∧ after.docs .records = store.docs .records)
    enter enter 4
  have ends : status? ((overtaken enter enter 4).2.1 true) = some .completed ∧
      status? ((overtaken enter enter 4).2.1 false) = some .completed ∧
      (overtaken enter enter 4).2.2.entries.length = 2 := by decide +kernel
  have undivided : ∀ finding : Finding,
      (finding.reliance Bool).Undivided (overtaken enter enter 4).1 :=
    undivided_of_enters "l" "r" (by decide +kernel) (by decide +kernel) (by decide +kernel)
  obtain ⟨keyed, distinct, anchored⟩ := ordered_listed
  refine ⟨_, _, _, ran, undivided, ?_, ends.2.2, memberships_distinct bareEngine Surroundings.marks
    (about enter enter) toolless_enter keyed distinct anchored ran undivided⟩
  rintro (_ | _)
  · exact completes_of_status ends.2.1
  · exact completes_of_status ends.1

/-- Of two runs that make a record a member of a list, the second one runs when the first one has found
the list without the record, and both make an entry. Likewise for a run that deletes the record when
another one has found it: the entry that this one makes is that of no record. -/
theorem memberships_doubled :
    Distinct listed ∧ Anchored listed ∧
    (∃ turns rest after, Interleaved (world Surroundings.marks) (fun _ _ => False)
      (sideBySide enter enter) listed turns rest after ∧ (∀ i, Completes (rest i)) ∧ ¬Distinct after) ∧
    ∃ turns rest after, Interleaved (world Surroundings.marks) (fun _ _ => False)
      (sideBySide enter delete) listed turns rest after ∧ (∀ i, Completes (rest i)) ∧
      ¬Anchored after := by
  refine ⟨ordered_listed.2.1, ordered_listed.2.2, ⟨_, _, _, interleaved_overtaken _ enter enter 7, ?_, ?_⟩,
    ⟨_, _, _, interleaved_overtaken _ enter delete 7, ?_, ?_⟩⟩
  · have ends : status? ((overtaken enter enter 7).2.1 true) = some .completed ∧
        status? ((overtaken enter enter 7).2.1 false) = some .completed := by decide +kernel
    rintro (_ | _)
    · exact completes_of_status ends.2
    · exact completes_of_status ends.1
  · unfold Distinct
    decide +kernel
  · have ends : status? ((overtaken enter delete 7).2.1 true) = some .completed ∧
        status? ((overtaken enter delete 7).2.1 false) = some .completed := by decide +kernel
    rintro (_ | _)
    · exact completes_of_status ends.2
    · exact completes_of_status ends.1
  · intro anchored
    have made : ("#####", some (Value.string "l"), some (Value.string "r")) ∈
        (overtaken enter delete 7).2.2.entries := by decide +kernel
    obtain ⟨recordId, names, has⟩ := anchored _ made
    cases names
    have gone : ((overtaken enter delete 7).2.2.get? .records "r").isSome = false := by decide +kernel
    exact Bool.eq_false_iff.mp gone has

end

end Engine
end Automation
