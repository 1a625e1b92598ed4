import Automation.Proofs.Engine.ClosingOnce
import Automation.Proofs.Engine.Reach
import Automation.Proofs.Store.Entries
import Automation.Proofs.Store.Served

/-!
Runs at the same time in a store that does all it is asked. Each of them is opened under an id of its
own, nobody else writes what is stored of it, and so it gets to its end and is stored as it is reported.
-/
namespace Automation

open MemoryStore (served)
open Program (Sharing)

/-- The run that was opened. -/
def Turn.opened? {ι : Type} : Turn ι → Option String
  | ⟨_, .store (.insert .actionExecutions _), .answered (.ok id)⟩ => some id
  | _ => none

/-- The runs that a program has opened. -/
def Past.opened {ι σ : Type} [DecidableEq ι] (past : Past ι σ) (i : ι) : List String :=
  (past.own i).filterMap Turn.opened?

/-- Of stored runs, none but these is written, and none is deleted. -/
def Effect.Owns (ids : List String) : Effect → Prop
  | .store (.update .actionExecutions id _) => id ∈ ids
  | .store (.delete table _) => table ≠ .actionExecutions
  | _ => True

theorem Effect.Owns.of_on {effect : Effect} {ids : List String}
    (h : Effect.On (· ≠ .actionExecutions) effect) : effect.Owns ids := by
  unfold Effect.Owns
  split
  · exact absurd rfl h
  · exact h
  · trivial

/-- The stored runs are those of the beginning and then those that were opened since, each under an id of
its own. -/
structure Past.Lists {ι : Type} (idAt : Nat → String) (ids : List String) (past : Past ι MemoryStore) :
    Prop where
  all : (past.state.docs .actionExecutions).map (·.id) = ids ++ past.turns.filterMap Turn.opened?
  keyed : ((past.state.docs .actionExecutions).map (·.id)).Nodup
  fresh : ∀ n, past.state.issued ≤ n → ∀ doc ∈ past.state.docs .actionExecutions, doc.id ≠ idAt n

section

variable {ι σ : Type} [DecidableEq ι] {past : Past ι σ} {i j : ι} {id : String}

theorem Past.opened_after (past : Past ι σ) (i j : ι) (effect : Effect) (reply : effect.Reply)
    (s : σ) : (past.after ⟨j, effect, reply⟩ s).opened i =
      past.opened i ++ if j = i then (Turn.opened? ⟨j, effect, reply⟩).toList else [] := by
  rw [opened, own_after, List.filterMap_append, opened]
  split
  · cases opened : Turn.opened? (⟨j, effect, reply⟩ : Turn ι) <;> simp [opened]
  · rfl

omit [DecidableEq ι] in
theorem Turn.opened?_aside {effect : Effect} {reply : effect.Reply}
    (h : Effect.On (· ≠ .actionExecutions) effect) :
    Turn.opened? (⟨i, effect, reply⟩ : Turn ι) = none := by
  unfold opened?
  split
  · next opens =>
    cases opens
    exact absurd rfl h
  · rfl

/-- No two programs have opened the same run. -/
theorem Past.opened_disjoint (unique : (past.turns.filterMap Turn.opened?).Nodup) (own : id ∈ past.opened i)
    (others : id ∈ past.opened j) : i = j := by
  by_contra apart
  have split := (List.filter_append_perm (fun turn : Turn ι => turn.who = i) past.turns).filterMap
    Turn.opened?
  rw [List.filterMap_append] at split
  have disjoint := List.disjoint_of_nodup_append (split.nodup_iff.mpr unique)
  obtain ⟨turn, known, named⟩ := List.mem_filterMap.mp others
  obtain ⟨took, rfl⟩ := Past.mem_own.mp known
  refine disjoint own (List.mem_filterMap.mpr ⟨turn, ?_, named⟩)
  exact List.mem_filter.mpr ⟨took, by simpa using Ne.symm apart⟩

/-- Programs that have opened one run each have opened these runs, in some order, and no other one. -/
theorem Past.opened_perm {n : Nat} {past : Past (Fin n) σ} {ids : Fin n → String}
    (unique : (past.turns.filterMap Turn.opened?).Nodup) (own : ∀ k, past.opened k = [ids k]) :
    (past.turns.filterMap Turn.opened?).Perm (List.ofFn ids) := by
  have mine (k : Fin n) : ids k ∈ past.opened k := own k ▸ List.mem_singleton_self _
  have apart : Function.Injective ids := fun k l same =>
    Past.opened_disjoint unique (mine k) (same ▸ mine l)
  refine (List.perm_ext_iff_of_nodup unique (List.nodup_ofFn.mpr apart)).mpr fun id => ?_
  rw [List.mem_ofFn]
  constructor
  · intro known
    obtain ⟨turn, took, named⟩ := List.mem_filterMap.mp known
    have its : id ∈ past.opened turn.who :=
      List.mem_filterMap.mpr ⟨turn, Past.mem_own.mpr ⟨took, rfl⟩, named⟩
    rw [own, List.mem_singleton] at its
    exact ⟨turn.who, its.symm⟩
  · rintro ⟨k, rfl⟩
    exact (List.filter_sublist.filterMap _).subset (mine k)

end

/-- What programs rely on that open runs: the stored runs are listed, and who takes no turn finds the runs
that it has opened as they were. -/
def ownRuns (ι : Type) [DecidableEq ι] (idAt : Nat → String) (ids : List String) :
    Sharing ι MemoryStore where
  kept := Past.Lists idAt ids
  grows before after := ∀ i, before.own i <+: after.own i ∧ (after.own i = before.own i →
    ∀ id ∈ before.opened i, after.state.run? id = before.state.run? id)
  refl past i := ⟨List.prefix_refl _, fun _ _ _ => rfl⟩
  trans a b c first second i := by
    obtain ⟨longer, same⟩ := first i
    obtain ⟨longer', same'⟩ := second i
    refine ⟨longer.trans longer', fun idle id known => ?_⟩
    have back : b.own i = a.own i :=
      (longer.eq_of_length_le (idle ▸ longer'.length_le)).symm
    have known' : id ∈ b.opened i := by rwa [Past.opened, back]
    exact (same' (idle.trans back.symm) id known').trans (same back id known)

/-- A program may write the runs that it has opened. -/
def ownRunsPolicy {ι : Type} [DecidableEq ι] (i : ι) : Policy (Past ι MemoryStore) where
  permitted effect past := effect.Owns (past.opened i)

variable {ι : Type} [DecidableEq ι] {idAt : Nat → String} {ids : List String}
  {past later : Past ι MemoryStore} {i : ι} {effect : Effect} {reply : effect.Reply} {s : MemoryStore}

omit [DecidableEq ι] in
/-- A turn that opens no run. -/
private theorem lists_quiet (lists : past.Lists idAt ids)
    (named : (s.docs .actionExecutions).map (·.id) =
      (past.state.docs .actionExecutions).map (·.id))
    (issued : past.state.issued ≤ s.issued)
    (quiet : Turn.opened? (⟨i, effect, reply⟩ : Turn ι) = none) :
    (past.after ⟨i, effect, reply⟩ s).Lists idAt ids where
  all := by
    change (s.docs _).map _ = ids ++ (past.turns ++ [_]).filterMap _
    rw [named, lists.all, List.filterMap_append, List.filterMap_cons_none quiet]
    simp
  keyed := named ▸ lists.keyed
  fresh n later doc known := by
    have old : doc.id ∈ (past.state.docs .actionExecutions).map (·.id) :=
      named ▸ List.mem_map_of_mem known
    obtain ⟨before, known, same⟩ := List.mem_map.mp old
    exact same ▸ lists.fresh n (issued.trans later) before known

/-- Who takes a turn and writes none of their runs leaves the others theirs. -/
private theorem grows_turn (lists : past.Lists idAt ids)
    (others : ∀ id ∈ past.turns.filterMap Turn.opened?, id ∉ past.opened i →
      s.run? id = past.state.run? id) :
    (ownRuns ι idAt ids).grows past (past.after ⟨i, effect, reply⟩ s) := by
  intro j
  rw [Past.own_after]
  refine ⟨List.prefix_append _ _, fun idle id known => others id ?_ fun own => ?_⟩
  · obtain ⟨turn, took, named⟩ := List.mem_filterMap.mp known
    exact List.mem_filterMap.mpr ⟨turn, (Past.mem_own.mp took).1, named⟩
  · have unique : (past.turns.filterMap Turn.opened?).Nodup :=
      (List.nodup_append.mp (lists.all ▸ lists.keyed)).2.1
    obtain rfl := Past.opened_disjoint unique own known
    simp at idle

private theorem run?_of_docs {store after : MemoryStore} {id : String}
    (same : after.docs .actionExecutions = store.docs .actionExecutions) :
    after.run? id = store.run? id := by
  rw [MemoryStore.run?, MemoryStore.get?, same]
  rfl

/-- What is stored stays when a document is put behind it. -/
private theorem run?_append {store after : MemoryStore} {id : String} {doc found : Document}
    (more : after.docs .actionExecutions = store.docs .actionExecutions ++ [doc])
    (h : store.run? id = some found) : after.run? id = some found := by
  rw [MemoryStore.run?, MemoryStore.get?, more, List.find?_append]
  rw [MemoryStore.run?, MemoryStore.get?] at h
  rw [h]
  rfl

/-- A run that is opened gets an id of its own. -/
private theorem turn_opens (unique : ∀ m n, idAt m = idAt n → m = n) (lists : past.Lists idAt ids)
    {fields : Json.Members} {reply : StoreReply String}
    (w : served idAt (.store (.insert .actionExecutions fields)) past.state reply s) :
    let next := past.after ⟨i, .store (.insert .actionExecutions fields), reply⟩ s
    (ownRuns ι idAt ids).kept next ∧ (ownRuns ι idAt ids).grows past next := by
  obtain ⟨time, rfl, issued, docs⟩ :=
    MemoryStore.insert_served (lists.fresh _ (Nat.le_refl _)) w
  have named : (s.docs .actionExecutions).map (·.id) =
      (past.state.docs .actionExecutions).map (·.id) ++ [idAt past.state.issued] := by
    rw [docs, List.map_append]
    rfl
  refine ⟨⟨?_, ?_, fun n more doc known => ?_⟩, grows_turn lists fun id known _ => ?_⟩
  · change (s.docs _).map _ = ids ++ (past.turns ++ [_]).filterMap _
    rw [named, lists.all, List.filterMap_append, List.append_assoc]
    rfl
  · change ((s.docs _).map _).Nodup
    rw [named, List.nodup_append]
    refine ⟨lists.keyed, List.nodup_singleton _, fun id known other last => ?_⟩
    obtain ⟨doc, stored, rfl⟩ := List.mem_map.mp known
    rw [List.mem_singleton.mp last]
    exact lists.fresh _ (Nat.le_refl _) doc stored
  · have more : past.state.issued + 1 ≤ n := issued ▸ more
    change doc ∈ s.docs _ at known
    rw [docs, List.mem_append, List.mem_singleton] at known
    rcases known with old | rfl
    · exact lists.fresh n (Nat.le_of_succ_le more) doc old
    · intro same
      have := unique _ _ same
      omega
  · have there : id ∈ (past.state.docs .actionExecutions).map (·.id) :=
      lists.all ▸ List.mem_append_right _ known
    obtain ⟨doc, stored, rfl⟩ := List.mem_map.mp there
    have found : (past.state.run? doc.id).isSome := by
      rw [MemoryStore.run?, MemoryStore.get?, List.find?_isSome]
      exact ⟨doc, stored, beq_self_eq_true _⟩
    obtain ⟨found, held⟩ := Option.isSome_iff_exists.mp found
    rw [held]
    exact run?_append docs held

/-- Who writes a run of its own leaves all others. -/
private theorem turn_writes (lists : past.Lists idAt ids) {id : String} (own : id ∈ past.opened i)
    {u : DocumentUpdate} {reply : StoreReply Bool}
    (w : served idAt (.store (.update .actionExecutions id u)) past.state reply s) :
    let next := past.after ⟨i, .store (.update .actionExecutions id u), reply⟩ s
    (ownRuns ι idAt ids).kept next ∧ (ownRuns ι idAt ids).grows past next := by
  have issued := MemoryStore.issued_le w
  cases MemoryStore.leaves_of_world (MemoryStore.world_of_served w) with
  | untouched => exact ⟨lists_quiet lists rfl issued rfl, grows_turn lists fun _ _ _ => rfl⟩
  | @changed _ _ _ doc found =>
    have named : doc.id = id := (MemoryStore.mem_of_get? found).2
    subst named
    refine ⟨lists_quiet lists ?_ issued rfl, grows_turn lists fun other _ apart => ?_⟩
    · rw [MemoryStore.docs_setDocs_self]
      exact MemoryStore.map_place found rfl
    · have apart : doc.id ≠ other := fun same => apart (same ▸ own)
      exact MemoryStore.get?_place_of_ne apart

/-- Programs that write no runs but their own keep what all rely on. -/
theorem ownRuns_holds (unique : ∀ m n, idAt m = idAt n → m = n) :
    (ownRuns ι idAt ids).Holds (served idAt) (fun _ _ => False) ownRunsPolicy where
  drifts _ _ _ := False.elim
  turn past i effect reply s lists permitted w := by
    by_cases aside : Effect.On (· ≠ .actionExecutions) effect
    · have same := MemoryStore.docs_of_world (MemoryStore.world_of_served w) aside
      exact ⟨lists_quiet lists (congrArg _ same) (MemoryStore.issued_le w)
          (Turn.opened?_aside aside),
        grows_turn lists fun _ _ _ => run?_of_docs same⟩
    · cases effect with
      | exchange request deadline => exact absurd trivial aside
      | clock => exact absurd trivial aside
      | store op =>
        have here : op.table = .actionExecutions := not_not.mp aside
        cases op with
        | get table id =>
          obtain ⟨rfl, rfl⟩ := MemoryStore.get_served w
          exact ⟨lists_quiet lists rfl (Nat.le_refl _) rfl, grows_turn lists fun _ _ _ => rfl⟩
        | query table q =>
          obtain ⟨rfl, rfl⟩ := MemoryStore.query_served w
          exact ⟨lists_quiet lists rfl (Nat.le_refl _) rfl, grows_turn lists fun _ _ _ => rfl⟩
        | insert table fields =>
          obtain rfl : table = .actionExecutions := here
          exact turn_opens unique lists w
        | update table id u =>
          obtain rfl : table = .actionExecutions := here
          exact turn_writes lists permitted w
        | delete table id => exact absurd here permitted

/-- The program has opened these runs, and they are stored so. -/
structure HasOpened (idAt : Nat → String) (ids : List String) (i : ι)
    (runs : List (String × ActionExecution)) (past : Past ι MemoryStore) : Prop where
  lists : past.Lists idAt ids
  own : past.opened i = runs.map (·.1)
  stored : ∀ run ∈ runs, Engine.Holds MemoryStore.run? run.1 run.2 past.state

variable {runs : List (String × ActionExecution)} {id : String} {e : ActionExecution}

theorem HasOpened.nothing (lists : past.Lists idAt ids) (idle : past.own i = []) :
    HasOpened idAt ids i [] past where
  lists := lists
  own := by rw [Past.opened, idle]; rfl
  stored _ known := absurd known List.not_mem_nil

/-- A turn of a program, and what is left of its runs behind those of the others. -/
private theorem own_of_world (w : (ownRuns ι idAt ids).world (served idAt) i effect past reply later) :
    ∃ s, served idAt effect past.state reply s ∧ later.Lists idAt ids ∧
      later.opened i = past.opened i ++ (Turn.opened? (⟨i, effect, reply⟩ : Turn ι)).toList ∧
      ∀ id ∈ later.opened i, later.state.run? id = s.run? id := by
  obtain ⟨s, w, -, -, elsewhere⟩ := w
  have own : later.opened i = (past.after ⟨i, effect, reply⟩ s).opened i := by
    rw [Past.opened, elsewhere.own, Past.opened]
  refine ⟨s, w, elsewhere.kept, ?_, fun id known => ?_⟩
  · rw [own, Past.opened_after, if_pos rfl]
  · exact (elsewhere.grows i).2 elsewhere.own id (own ▸ known)

/-- What does not concern stored runs leaves them. -/
private theorem HasOpened.aside (h : HasOpened idAt ids i runs past)
    (w : (ownRuns ι idAt ids).world (served idAt) i effect past reply later)
    (aside : Effect.On (· ≠ .actionExecutions) effect) : HasOpened idAt ids i runs later := by
  obtain ⟨s, w, lists, own, same⟩ := own_of_world w
  rw [Turn.opened?_aside aside, Option.toList_none, List.append_nil] at own
  refine ⟨lists, own.trans h.own, fun run known => (h.stored run known).of_eq ?_⟩
  rw [same run.1 (own ▸ h.own ▸ List.mem_map_of_mem known)]
  exact run?_of_docs (MemoryStore.docs_of_world (MemoryStore.world_of_served w) aside)

/-- A run that is opened shows what was encoded. -/
private theorem HasOpened.opens (h : HasOpened idAt ids i runs past) {fields : Json.Members}
    {reply : StoreReply String} (encoded : Document.fieldsOf e.encode = .ok fields)
    (w : (ownRuns ι idAt ids).world (served idAt) i (.store (.insert .actionExecutions fields)) past
      reply later) : ∃ id, reply = .answered (.ok id) ∧ HasOpened idAt ids i (runs ++ [(id, e)]) later := by
  obtain ⟨s, w, lists, own, same⟩ := own_of_world w
  obtain ⟨time, rfl, -, docs⟩ := MemoryStore.insert_served (h.lists.fresh _ (Nat.le_refl _)) w
  have own : later.opened i = (runs ++ [(idAt past.state.issued, e)]).map (·.1) := by
    rw [own, h.own, List.map_append]
    rfl
  refine ⟨_, rfl, lists, own, fun run known => ?_⟩
  have same := same run.1 (own ▸ List.mem_map_of_mem known)
  rcases List.mem_append.mp known with old | new
  · obtain ⟨doc, found, named, shown⟩ := h.stored run old
    exact ⟨doc, same.trans (run?_append docs found), named, shown⟩
  · cases List.mem_singleton.mp new
    refine ⟨⟨idAt past.state.issued, time, Document.withoutSystemFields fields⟩, same.trans ?_, rfl,
      .of_encode encoded⟩
    have none : (past.state.docs .actionExecutions).find? (·.id == idAt past.state.issued) = none := by
      simpa using h.lists.fresh _ (Nat.le_refl _)
    rw [MemoryStore.run?, MemoryStore.get?, docs, List.find?_append, none]
    simp

/-- A run of the program is found as it is stored. -/
private theorem HasOpened.finds (h : HasOpened idAt ids i (runs ++ [(id, e)]) past)
    {reply : StoreReply (Option Document)}
    (w : (ownRuns ι idAt ids).world (served idAt) i (.store (.get .actionExecutions id)) past reply
      later) : HasOpened idAt ids i (runs ++ [(id, e)]) later ∧
      ∃ doc, reply = .answered (.ok (some doc)) ∧ doc.id = id ∧ doc.Shows e := by
  obtain ⟨s, w, lists, own, same⟩ := own_of_world w
  obtain ⟨rfl, rfl⟩ := MemoryStore.get_served w
  have own : later.opened i = past.opened i := own.trans (List.append_nil _)
  refine ⟨⟨lists, own.trans h.own, fun run known => (h.stored run known).of_eq ?_⟩, ?_⟩
  · exact same run.1 (own ▸ h.own ▸ List.mem_map_of_mem known)
  · obtain ⟨doc, found, named, shown⟩ := h.stored (id, e) (by simp)
    exact ⟨doc, congrArg (fun found => StoreReply.answered (.ok found)) found, named, shown⟩

/-- An update of the run that was opened last is applied if it is met as expected. -/
private theorem HasOpened.writes (h : HasOpened idAt ids i (runs ++ [(id, e)]) past)
    {u : DocumentUpdate} {e' : ActionExecution} {reply : StoreReply Bool}
    (expected : ∀ doc : Document, doc.Shows e → u.isExpected doc = true ∧
      Document.Shows { doc with fields := u.applyFields doc.fields } e')
    (w : (ownRuns ι idAt ids).world (served idAt) i (.store (.update .actionExecutions id u)) past
      reply later) :
    reply = .answered (.ok true) ∧ HasOpened idAt ids i (runs ++ [(id, e')]) later := by
  obtain ⟨s, w, lists, own, same⟩ := own_of_world w
  obtain ⟨doc, found, rfl, shown⟩ := h.stored (id, e) (by simp)
  obtain ⟨met, shows'⟩ := expected doc shown
  obtain ⟨rfl, rfl⟩ := MemoryStore.update_served found (if_pos met) w
  have own : later.opened i = past.opened i := own.trans (List.append_nil _)
  have own' : later.opened i = (runs ++ [(doc.id, e')]).map (·.1) := by
    rw [own, h.own, List.map_append, List.map_append]
    rfl
  refine ⟨rfl, lists, own', fun run known => ?_⟩
  have same := same run.1 (own' ▸ List.mem_map_of_mem known)
  rcases List.mem_append.mp known with old | new
  · have unique : (runs.map (·.1) ++ [doc.id]).Nodup := by
      have all : (past.turns.filterMap Turn.opened?).Nodup :=
        (List.nodup_append.mp (h.lists.all ▸ h.lists.keyed)).2.1
      have mine : (past.opened i).Nodup := all.sublist (List.filter_sublist.filterMap _)
      rwa [h.own, List.map_append] at mine
    have apart : doc.id ≠ run.1 := fun same => (List.nodup_append.mp unique).2.2 run.1
      (List.mem_map_of_mem old) doc.id (List.mem_singleton_self _) same.symm
    exact (h.stored run (List.mem_append_left _ old)).of_eq
      (same.trans (MemoryStore.get?_place_of_ne apart))
  · cases List.mem_singleton.mp new
    exact ⟨_, same.trans (MemoryStore.get?_place ..), rfl, shows'⟩

namespace Engine

variable {engine : Engine} {action : Action} {occasion : Occasion}

/-- The clock is asked without any effect on runs. -/
private theorem now_served (h : HasOpened idAt ids i runs past) :
    Program.now.Meets ((ownRuns ι idAt ids).world (served idAt) i) (ownRunsPolicy i)
      (fun now later => now.Representable ∧ HasOpened idAt ids i runs later) past := by
  refine ⟨trivial, fun _ _ => nofun, fun now later w => ?_⟩
  have kept := h.aside w trivial
  obtain ⟨s, w, -⟩ := w
  exact ⟨w.1, kept⟩

/-- Each run is opened as a running one. -/
private theorem start_served (h : HasOpened idAt ids i runs past) :
    (engine.start action occasion).Meets ((ownRuns ι idAt ids).world (served idAt) i) (ownRunsPolicy i)
      (fun id later => ∃ now : Time.Instant, now.Representable ∧
        HasOpened idAt ids i (runs ++ [(id, begunExecution action occasion now)]) later)
      (fun _ _ => False) past := by
  refine (Work.meets_ofProgram (now_served h)).bind fun now later ⟨dated, h⟩ => ?_
  let pending := pendingExecution action occasion now
  obtain ⟨fields, encoded⟩ : ∃ fields, Document.fieldsOf pending.encode = .ok fields := ⟨_, rfl⟩
  rw [encoded]
  refine Connection.meets_askThen trivial (fun _ _ => nofun) fun reply later w => ?_
  obtain ⟨id, rfl, h⟩ := h.opens encoded w
  have own : id ∈ later.opened i := by simp [h.own]
  have patched : (engine.executions.patch .actionExecutions id
      [("status", .string ExecutionStatus.running.name)]).Meets
        ((ownRuns ι idAt ids).world (served idAt) i) (ownRunsPolicy i)
        (fun _ last => HasOpened idAt ids i (runs ++ [(id, begunExecution action occasion now)]) last)
        (fun _ _ => False) later := by
    refine Connection.meets_askThen own (fun _ _ => nofun) fun reply last w => ?_
    obtain ⟨rfl, h⟩ := h.writes (fun doc shown => ⟨rfl, shown.patchStatus .running⟩) w
    exact h
  exact patched.bind fun _ last h => Work.meets_pure.mpr ⟨now, dated, h⟩

/-- The run is read with the status that it has. -/
private theorem load_served (h : HasOpened idAt ids i (runs ++ [(id, e)]) past) (storable : e.Storable) :
    (engine.load id).Meets ((ownRuns ι idAt ids).world (served idAt) i) (ownRunsPolicy i)
      (fun read later => read.status = e.status ∧ HasOpened idAt ids i (runs ++ [(id, e)]) later)
      (fun _ _ => False) past := by
  refine Connection.meets_askThen trivial (fun _ _ => nofun) fun reply later w => ?_
  obtain ⟨h, doc, rfl, rfl, shown⟩ := h.finds w
  simp only [Connection.understood, Work.Promise]
  rw [shown.decode_reread storable]
  exact Work.meets_pure.mpr ⟨rfl, h⟩

/-- A run that is open is closed with the results of its steps. -/
private theorem finish_served (close : Close) (h : HasOpened idAt ids i (runs ++ [(id, e)]) past)
    (storable : e.Storable) (isOpen : e.status.isTerminal = false) (calm : e.error = none) :
    (engine.finish id close.results close.stop).Meets ((ownRuns ι idAt ids).world (served idAt) i)
      (ownRunsPolicy i)
      (fun status later => status = close.status ∧
        ∃ now, HasOpened idAt ids i (runs ++ [(id, close.closed e now)]) later)
      (fun _ _ => False) past := by
  refine (load_served h storable).bind fun read later ⟨same, h⟩ => ?_
  rw [same, isOpen]
  refine (Work.meets_ofProgram (now_served h)).bind fun now later ⟨_, h⟩ => ?_
  have own : id ∈ later.opened i := by simp [h.own]
  refine Connection.meets_askThen own (fun _ _ => nofun) fun reply last w => ?_
  obtain ⟨rfl, h⟩ := h.writes (fun doc shown => ⟨shown.isExpected, shown.close calm ..⟩) w
  exact Work.meets_pure.mpr ⟨rfl, now, h⟩

/-- What does not concern stored runs leaves them, whatever comes of it. -/
private theorem aside_served {α : Type} {program : Program α} {given : α → Prop}
    (asks : program.Asks (Effect.On (· ≠ .actionExecutions)) given) (h : HasOpened idAt ids i runs past) :
    program.Meets ((ownRuns ι idAt ids).world (served idAt) i) (ownRunsPolicy i)
      (fun _ later => HasOpened idAt ids i runs later) past :=
  (asks.meets (fun _ _ aside _ => Effect.Owns.of_on aside) (fun _ _ _ _ _ twins => twins)
    (fun _ _ _ _ aside h w => h.aside w aside) h).mono fun _ _ post => post.2

/-- The audit log does not break down. -/
private theorem writeAudit_served (entry : AuditEntry) (h : HasOpened idAt ids i runs past) :
    (Work.ignoring (engine.writeAudit entry) : Work LifecycleError Unit).Meets
      ((ownRuns ι idAt ids).world (served idAt) i) (ownRunsPolicy i)
      (fun _ later => HasOpened idAt ids i runs later) (fun _ _ => False) past := by
  have aside (fields : Json.Members) :
      Effect.On (· ≠ .actionExecutions) (.store (.insert .auditLogs fields)) := nofun
  have owns (fields : Json.Members) :
      Effect.Owns (past.opened i) (.store (.insert .auditLogs fields)) := .of_on (aside fields)
  refine ignoring_writeAudit entry owns (fun _ _ _ => nofun)
    fun fields reply later w => ⟨?_, h.aside w (aside fields)⟩
  obtain ⟨s, ⟨now, told, -⟩, -⟩ := w
  exact ⟨_, told⟩

/-- A run gets to its end, and what is stored of it is what is reported. -/
theorem run_served (steps : ∀ ctx,
      (engine.runSequence action.steps ctx).Asks (Effect.On Table.OfSteps) fun _ => True)
    (h : HasOpened idAt ids i runs past) :
    (engine.run action occasion).Meets ((ownRuns ι idAt ids).world (served idAt) i) (ownRunsPolicy i)
      (fun report later => report.actionId = action.id ∧ ∃ e : ActionExecution, e.Confirms report ∧
        HasOpened idAt ids i (runs ++ [(report.executionId, e)]) later)
      (fun _ _ => False) past := by
  refine (start_served h).bind fun id later ⟨startedAt, dated, h⟩ => ?_
  have aside := (steps (firstContext action occasion id)).mono
    (fun _ on => on.mono fun _ ofSteps => ofSteps.2) fun _ post => post
  refine (Work.meets_ofProgram (aside_served aside h)).bind fun trace later h => ?_
  let close : Close := ⟨trace.results, trace.ending.error?⟩
  refine (finish_served close h (.unfinished rfl rfl dated) rfl rfl).bind
    fun status later ⟨same, now, h⟩ => ?_
  refine (writeAudit_served _ h).bind fun _ last h => Work.meets_pure.mpr ⟨rfl, ?_⟩
  let e := close.closed (begunExecution action occasion startedAt) now
  refine ⟨{ e with id := id }, ⟨rfl, rfl, ?_, rfl, same.symm, rfl, rfl⟩, h.lists, ?_, ?_⟩
  · exact close.isTerminal_status
  · rw [h.own, List.map_append, List.map_append]
    rfl
  · intro run known
    rcases List.mem_append.mp known with old | new
    · exact h.stored run (List.mem_append_left _ old)
    · cases List.mem_singleton.mp new
      obtain ⟨doc, found, named, shown⟩ :=
        h.stored (id, e) (List.mem_append_right _ (List.mem_singleton_self _))
      exact ⟨doc, found, named, shown.sorted, shown.found⟩

end Engine
end Automation
