import Automation.Proofs.Engine.Intent
import Automation.Proofs.Engine.Membership
import Automation.Proofs.Store.Served

/-!
Lists while one run is alone with the store. Whatever goes wrong, at no moment is there an entry of a record
or of a list that is not stored, or a second entry for the same record and list.
-/
namespace Automation

open Json (Value)

namespace MemoryStore

/-- Every entry is that of a stored record and of a stored list, and a list has one entry for a record at
most. -/
structure Intact (store : MemoryStore) : Prop where
  distinct : store.Distinct
  anchored : store.Anchored
  listed : ∀ entry ∈ store.entries, ∃ listId, entry.2.1 = some (.string listId) ∧
    (store.get? .lists listId).isSome

/-- What a run keeps, since entries also keep to ids of their own. -/
structure Tidy (store : MemoryStore) : Prop extends store.Intact where
  keyed : (store.entries.map (·.1)).Nodup

end MemoryStore

/-- Effects that neither touch a list, nor make an entry, nor change what one joins, nor delete a record. -/
def Effect.Harmless (effect : Effect) : Prop := effect.Mild ∧ ¬effect.Writes .lists

theorem Effect.Harmless.of_on {effect : Effect}
    (h : Effect.On (fun table => table ≠ .lists ∧ table ≠ .listEntries ∧ table ≠ .records) effect) :
    effect.Harmless :=
  ⟨.of_on (h.mono fun _ apart => apart.2), Effect.On.not_writes (h.mono fun _ apart => apart.1)⟩

namespace Engine

open MemoryStore Work

variable {idAt : Nat → String} {engine : Engine} {ctx : Context} {stepId : String}
  {s after : MemoryStore} {effect : Effect} {reply : effect.Reply}

/-- What a run asks of a store: to make an entry when record and list are stored and the list has none for
the record, to delete a record that has no entry, and what does no harm. -/
inductive Careful (effect : Effect) (s : MemoryStore) : Prop
  | harmless (h : effect.Harmless)
  | enter {listId recordId : String} {fields : Json.Members}
      (same : effect = .store (.insert .listEntries fields))
      (list : fields.get? "listId" = some (.string listId))
      (record : fields.get? "recordId" = some (.string recordId))
      (free : (Finding.vacant listId recordId).Holds s) (there : s.Has recordId)
      (stored : (s.get? .lists listId).isSome)
  | drop {recordId : String} (same : effect = .store (.delete .records recordId))
      (alone : (Finding.among recordId []).Holds s)

def carefulPolicy : Policy MemoryStore where
  permitted := Careful

private theorem Careful.fair (h : Careful effect s) : Fair effect := by
  rintro id u rfl
  cases h with
  | harmless harmless => exact harmless.1 rfl
  | enter same => cases same
  | drop same => cases same

private theorem Careful.lists (h : Careful effect s) : ¬effect.Writes .lists := by
  cases h with
  | harmless harmless => exact harmless.2
  | enter same =>
    subst same
    exact nofun
  | drop same =>
    subst same
    exact nofun

/-- An entry that is there behind a careful step was there before, or is one for a stored list. -/
private theorem Careful.entry (h : Careful effect s) (w : world idAt effect s reply after) :
    ∀ entry ∈ after.entries, entry ∈ s.entries ∨
      ∃ listId, entry.2.1 = some (.string listId) ∧ (s.get? .lists listId).isSome := by
  intro entry known
  cases h with
  | harmless harmless => exact .inl ((entries_sublist w harmless.1).subset known)
  | @enter listId recordId fields same list record free there stored =>
    subst same
    rcases entries_insert w with rfl | ⟨id, made⟩
    · exact .inl known
    rcases List.mem_cons.mp (made.mem_iff.mp known) with rfl | known
    · exact .inr ⟨listId, list, stored⟩
    · exact .inl (List.mem_of_mem_eraseP known)
  | @drop recordId same alone =>
    subst same
    have aside : Effect.On (· ≠ .listEntries) (.store (.delete .records recordId)) := nofun
    have same : after.entries = s.entries := congrArg (List.map _) (docs_of_world w aside)
    exact .inl (same ▸ known)

/-- A careful step leaves the entries in order. -/
private theorem tidy_step (h : Careful effect s) (w : world idAt effect s reply after) (tidy : s.Tidy) :
    after.Tidy := by
  have same : after.docs .lists = s.docs .lists := docs_of_unwritten w h.lists
  have lists (listId : String) : after.get? .lists listId = s.get? .lists listId := by
    rw [get?, get?, same]
  have ordered : Distinct after ∧ Anchored after := by
    cases h with
    | harmless harmless => exact ordered_of_mild w harmless.1 tidy.distinct tidy.anchored
    | enter same list record free there stored =>
      subst same
      exact ordered_of_enter w list record free there tidy.distinct tidy.anchored
    | drop same alone =>
      subst same
      exact ordered_of_drop w alone tidy.distinct tidy.anchored
  refine ⟨⟨ordered.1, ordered.2, ?_⟩, keyed_of_fair w h.fair tidy.keyed⟩
  intro entry known
  simp only [lists]
  rcases h.entry w entry known with known | listed
  · exact tidy.listed entry known
  · exact listed

/-- What may be replied and become of a store whose entries are in order. -/
def Tended (idAt : Nat → String) : World MemoryStore := fun effect s reply after =>
  world idAt effect s reply after ∧ after.Tidy

private theorem reading_tended : Reading idAt (fun _ => True) (Tended idAt) carefulPolicy where
  reads effect s reads := by
    refine .harmless ⟨?_, reads .lists⟩
    cases effect with
    | exchange request deadline => trivial
    | clock => trivial
    | store op =>
      cases op with
      | get table id => trivial
      | query table q => trivial
      | _ => exact absurd rfl (reads _)
  sighted _ _ _ _ := nofun
  truthful _ _ _ _ w := w.1
  crashes _ _ _ _ _ := trivial

/-- When all entries for a record that were found are deleted there is none left. -/
private theorem alone_of_cleared {recordId : String} {entries : List Document}
    (cleared : Cleared (Tended idAt) entries s after) (tidy : s.Tidy)
    (among : (Finding.among recordId (entries.map (·.id))).Holds s) :
    (Finding.among recordId []).Holds after := by
  induction cleared with
  | nil => exact among
  | cons gone more ih =>
    refine ih gone.2 ?_
    intro entry left names
    obtain ⟨old, apart⟩ := entries_deleted tidy.keyed gone.1 entry left
    exact (List.mem_cons.mp (among entry old names)).resolve_left apart

/-- Whatever a step intends is careful. -/
private theorem careful_of_intended {p : Primitive} {entries : List Document} {op : StoreOp}
    {entry : op.Answer → AuditEntry} {output : op.Answer → Value} {cleared : MemoryStore} (tidy : s.Tidy)
    (intended : Intended ctx s p (.act entries op entry output))
    (clears : Cleared (Tended idAt) entries s cleared) : Careful (.store op) cleared := by
  cases intended with
  | change => exact .harmless ⟨nofun, nofun⟩
  | create => exact .harmless ⟨nofun, nofun⟩
  | @delete recordId record target =>
    exact .drop rfl (alone_of_cleared clears tidy (among_of_query s record.id))
  | archive => exact .harmless ⟨nofun, nofun⟩
  | @enter listId recordId data m found isnt there =>
    cases clears
    have fields := get?_newEntry ctx m (data.getD [])
    refine .enter rfl fields.1 fields.2 ?_ there found.stored
    exact vacant_of_query (found.entry.symm.trans isnt)
  | leave => exact .harmless ⟨nofun, nofun⟩
  | @amend listId recordId data m entry now =>
    refine .harmless ⟨?_, nofun⟩
    intro _
    exact entryUpdate_sparesLinks _ now

private theorem looking_harmless : Looking Effect.Harmless where
  clock := ⟨trivial, nofun⟩
  exchange _ _ := ⟨trivial, nofun⟩
  get _ _ _ := ⟨trivial, nofun⟩
  query _ _ _ := ⟨trivial, nofun⟩

/-- Work that does no harm leaves the entries in order, whatever comes of it. -/
private theorem harmless_tends {ε α : Type} {work : Work ε α} {given : α → Prop}
    (asks : work.Asks Effect.Harmless given) (tidy : s.Tidy) :
    work.Meets (Tended idAt) carefulPolicy (fun _ after => after.Tidy)
      (fun stop after => stop.Fits (fun _ => True) ∧ after.Tidy) s := by
  have meets : work.Meets (Tended idAt) carefulPolicy (fun a after => given a ∧ after.Tidy)
      (fun _ after => after.Tidy) s :=
    asks.meets (fun _ _ harmless _ => .harmless harmless) (fun _ _ _ _ _ => nofun)
      (fun _ _ _ _ _ _ w => w.2) tidy
  refine Meets.mono meets (fun _ _ post => post.2) ?_
  intro stop after post
  exact ⟨by cases stop <;> trivial, post⟩

private theorem runPrimitive_tends (tools : engine.ToolsAsk Effect.Harmless) (p : Primitive)
    (tidy : s.Tidy) :
    (engine.runPrimitive ctx stepId p).Meets (Tended idAt) carefulPolicy (fun _ after => after.Tidy)
      (fun stop after => stop.Fits (fun _ => True) ∧ after.Tidy) s := by
  by_cases mutates : p.type.mutates = true
  · have carries : (engine.runPrimitive ctx stepId p).Meets (Tended idAt) carefulPolicy
        (fun v after => ∃ intent, Intended ctx s p intent ∧
          Carried (Tended idAt) ctx stepId s intent v after)
        (Halted (Tended idAt) (fun _ => True) ctx s p) s :=
      runPrimitive_carries reading_tended mutates (fun _ _ => .harmless ⟨nofun, nofun⟩)
        (fun _ _ => .harmless ⟨nofun, nofun⟩)
        fun _ _ _ _ intended _ clears => careful_of_intended tidy intended clears
    refine Program.Meets.mono (Program.Meets.kept carries (fun _ _ _ _ w => w.2) tidy) ?_
    rintro (stop | v) after ⟨-, tidy⟩
    · exact ⟨by cases stop <;> trivial, tidy⟩
    · exact tidy
  · cases p with
    | sendWebhook webhook =>
      exact harmless_tends (looking_harmless.sendWebhook fun _ => ⟨nofun, nofun⟩) tidy
    | callTool tool arguments => exact harmless_tends (callTool_asks tools) tidy
    | field command recordId => cases command <;> exact absurd rfl mutates
    | list command listId recordId data => cases command <;> exact absurd rfl mutates
    | _ => exact absurd rfl mutates

private theorem runSequence_tends (tools : engine.ToolsAsk Effect.Harmless) (steps : List Step)
    (ctx : Context) (tidy : s.Tidy) :
    (engine.runSequence steps ctx).Meets (Tended idAt) carefulPolicy (fun _ after => after.Tidy) s := by
  have follows : engine.Follows (Tended idAt) carefulPolicy { kept := MemoryStore.Tidy } :=
    { clock := fun s _ =>
        ⟨.harmless ⟨trivial, nofun⟩, fun _ _ => nofun, fun _ _ w => ⟨trivial, w.2⟩⟩
      withOutput := fun _ _ _ _ _ => trivial
      atItem := fun _ _ _ _ _ => trivial
      primitive := fun _ _ p _ _ _ tidy => (runPrimitive_tends tools p tidy).mono
        (fun _ _ post => ⟨trivial, post⟩) fun _ _ post => post
      subject := fun _ subject _ _ tidy => harmless_tends (looking_harmless.subject subject) tidy
      items := fun _ settings max _ _ tidy => harmless_tends (looking_harmless.items settings max) tidy
      branch := fun _ _ _ => trivial
      loop := fun _ _ _ => trivial }
  exact (runSequence_follows follows steps ctx s trivial tidy).mono fun _ _ post => post.2

private theorem run_tends (tools : engine.ToolsAsk Effect.Harmless) (action : Action)
    (occasion : Occasion) (tidy : s.Tidy) :
    (engine.run action occasion).Meets (Tended idAt) carefulPolicy (fun _ _ => True) (fun _ _ => True) s := by
  have aside {ε α : Type} {work : Work ε α} {given : α → Prop}
      (asks : work.Asks (Effect.On (· = .actionExecutions)) given) : work.Asks Effect.Harmless given := by
    refine asks.mono (fun effect on => .of_on (on.mono ?_)) fun _ post => post
    rintro table rfl
    exact ⟨nofun, nofun, nofun⟩
  have anyStop {ε α : Type} {work : Work ε α} {value : α → MemoryStore → Prop}
      {stop : Stop ε → MemoryStore → Prop} {s : MemoryStore}
      (h : work.Meets (Tended idAt) carefulPolicy value stop s) :
      work.Meets (Tended idAt) carefulPolicy value (fun _ _ => True) s :=
    h.mono (fun _ _ post => post) fun _ _ _ => trivial
  refine (anyStop (harmless_tends (aside (start_asks action occasion)) tidy)).bind ?_
  intro executionId after tidy
  refine (Work.meets_ofProgram (runSequence_tends tools action.steps _ tidy)).bind ?_
  intro trace after tidy
  refine (anyStop (harmless_tends (aside
    (finish_asks executionId trace.results trace.ending.error?)) tidy)).bind ?_
  intro status after tidy
  have writes (entry : AuditEntry) : (engine.writeAudit entry).Asks Effect.Harmless fun _ => True :=
    writeAudit_asks fun _ => ⟨nofun, nofun⟩
  refine (anyStop (harmless_tends (writes _).ignoring tidy)).bind ?_
  intro _ after _
  exact Work.meets_pure.mpr trivial

/-- At every moment of a run lists are intact, whatever operations of the store fail, stall or break down. -/
theorem lists_intact {τ : Type} (engine : Engine) (around : Surroundings τ) (action : Action)
    (occasion : Occasion) (tools : engine.ToolsAsk Effect.Harmless) {store : MemoryStore} (t : τ)
    (keyed : (store.entries.map (·.1)).Nodup) (intact : store.Intact) :
    ∀ s ∈ (engine.run action occasion).run.path around.environment (store, t), s.1.Intact := by
  have tidy : store.Tidy := ⟨intact, keyed⟩
  have step (effect : Effect) (s : MemoryStore) (reply : effect.Reply) (after : MemoryStore)
      (tidy : s.Tidy) (careful : carefulPolicy.permitted effect s)
      (w : world around.idAt effect s reply after) : after.Tidy ∧ True :=
    ⟨tidy_step careful w tidy, trivial⟩
  have tends : (engine.run action occasion).run.Meets
      (fun effect s reply after => world around.idAt effect s reply after ∧ after.Tidy ∧ True)
      carefulPolicy (fun _ _ => True) store := by
    simp only [and_true]
    refine Program.Meets.mono (run_tends tools action occasion tidy) ?_
    exact fun _ _ _ => trivial
  have steadily := Program.Meets.steadily (fun _ _ => trivial) (fun _ _ _ _ _ _ => trivial) step tends tidy
  have along := Program.Meets.path (s := (store, t)) Prod.fst (world_environment around)
    (fun _ _ _ _ _ _ => trivial) step steadily tidy
  intro s known
  exact (along.1 s known).toIntact

section

private def owned (more : Json.Members) : Json.Members := ("workspaceId", .string "w") :: more

/-- A record that is a member of two lists, and another one that is a member of one. -/
def enrolled : MemoryStore where
  lists := [⟨"l", 0, owned []⟩, ⟨"m", 0, owned []⟩]
  records := [⟨"r", 0, owned []⟩, ⟨"s", 0, owned []⟩]
  listEntries := [⟨"e", 0, owned [("listId", .string "l"), ("recordId", .string "r")]⟩,
    ⟨"f", 0, owned [("listId", .string "m"), ("recordId", .string "r")]⟩,
    ⟨"g", 0, owned [("listId", .string "l"), ("recordId", .string "s")]⟩]

/-- One entry cannot be deleted. -/
def stuck : Surroundings Unit where
  __ := Surroundings.still
  fault op t := (if op = .delete .listEntries "f" then some (.failed (.unavailable "gone")) else none, t)

private theorem intact_enrolled : enrolled.Intact := by
  have entries : enrolled.entries = [("e", some (.string "l"), some (.string "r")),
      ("f", some (.string "m"), some (.string "r")), ("g", some (.string "l"), some (.string "s"))] := by
    decide +kernel
  refine ⟨?_, ?_, ?_⟩
  · rw [Distinct, entries]
    decide
  · rw [Anchored, entries]
    simp only [List.forall_mem_cons]
    exact ⟨⟨"r", rfl, rfl⟩, ⟨"r", rfl, rfl⟩, ⟨"s", rfl, rfl⟩, by simp⟩
  · rw [entries]
    simp only [List.forall_mem_cons]
    exact ⟨⟨"l", rfl, rfl⟩, ⟨"m", rfl, rfl⟩, ⟨"l", rfl, rfl⟩, by simp⟩

/-- Deletes the record of the run. -/
def deletion : Step := ⟨"d", .deleteRecord, none, .null, [], [], []⟩

private def recordTools : Engine := { bareEngine with tools := Toolbox.recordTools }

private def deletionRun : Program (Except (Stop LifecycleError) ExecutionReport) :=
  (recordTools.run { noSteps with steps := [deletion] } ⟨.manual, some ⟨"r", 0, none, []⟩, none⟩).run

/-- The deletion of a record fails when it has lost one of its two memberships. -/
theorem lists_intact_interrupted :
    (∀ s ∈ deletionRun.path stuck.environment (enrolled, ()), s.1.Intact) ∧
    status? (.done (deletionRun.run stuck.environment (enrolled, ())).1) = some .failed ∧
    (deletionRun.run stuck.environment (enrolled, ())).2.1.entries.map (·.1) = ["f", "g"] := by
  have tools : recordTools.ToolsAsk Effect.Harmless := looking_harmless.recordTools rfl
  refine ⟨?_, by decide +kernel, by decide +kernel⟩
  exact lists_intact recordTools stuck _ _ tools () (by decide +kernel) intact_enrolled

end

end Engine
end Automation
