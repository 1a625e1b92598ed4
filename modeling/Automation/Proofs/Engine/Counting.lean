import Automation.Proofs.Engine.ClosingOnce
import Automation.Proofs.Engine.FieldChange
import Automation.Proofs.Engine.Reach
import Automation.Proofs.Program.Reliance
import Automation.Proofs.Store.Answers
import Automation.Proofs.Template
import Automation.Proofs.Engine.Calculations
import Mathlib.Algebra.BigOperators.Group.Finset.Basic

/-!
Runs that count one key of a record up or down at the same time. Each of them reads the record and then
writes the number that it has worked out, whatever the key holds by then. As long as nobody writes the
record in between, no count is lost.
-/
namespace Automation

open Json (Value)
open Program (Interleaved Sharing)

/-- Who changes a document relies on what it has looked up, which other changes spoil. -/
def rewriting (ι : Type) (table : Table) (id : String) : Reliance ι where
  looks := Turn.looksUp table id
  acts := Turn.changes table id
  spoils := Turn.changes table id

/-- A run that counts, and by how much. -/
structure Counter where
  action : Action
  occasion : Occasion
  amount : Int

namespace Counter

/-- The run has one step, which counts the key of the record by the amount. -/
def Counts (c : Counter) (id key : String) : Prop :=
  ∃ step, c.action.steps = [step] ∧ ∀ executionId,
    let ctx := Engine.firstContext c.action c.occasion executionId
    ∃ t amount decimals target recordId,
      Command.parse step.type step.id (Template.resolve ctx step.config) =
        .ok (.primitive (.field (.transform key (Transform.name t) target amount decimals) recordId)) ∧
      (Command.nonBlank? target).getD key = key ∧ Engine.targetId ctx recordId = .ok id ∧
      t.Adds amount c.amount

end Counter

namespace Engine

open MemoryStore

section

variable {ι : Type} {id : String} {i : ι}

/-- The run has changed the record. -/
def Counted (id : String) (turns : List (Turn ι)) (i : ι) : Prop :=
  ∃ turn ∈ turns, turn.who = i ∧ turn.changes .records id = true

instance [DecidableEq ι] (id : String) (turns : List (Turn ι)) (i : ι) :
    Decidable (Counted id turns i) := inferInstanceAs (Decidable (∃ turn ∈ turns, _))

private theorem counted_append {turns more : List (Turn ι)} :
    Counted id (turns ++ more) i ↔ Counted id turns i ∨ Counted id more i := by
  simp only [Counted, List.mem_append, or_and_right, exists_or]

private theorem not_counted {more : List (Turn ι)}
    (quiet : ∀ turn ∈ more, turn.changes .records id = false) : ¬Counted id more i := by
  rintro ⟨turn, known, -, changed⟩
  rw [quiet turn known] at changed
  cases changed

private theorem counted_own [DecidableEq ι] {σ : Type} {past later : Past ι σ}
    (own : later.own i = past.own i) : Counted id later.turns i ↔ Counted id past.turns i := by
  have mine (past : Past ι σ) :
      Counted id past.turns i ↔ ∃ turn ∈ past.own i, turn.changes .records id = true := by
    simp only [Counted, Past.mem_own, and_assoc]
  rw [mine, mine, own]

/-- Whatever does not concern records does not change one. -/
private theorem changes_aside {effect : Effect} {reply : effect.Reply}
    (h : Effect.On (· ≠ .records) effect) :
    (⟨i, effect, reply⟩ : Turn ι).changes .records id = false := by
  unfold Turn.changes
  split
  · next same =>
    cases same
    exact decide_eq_false fun same => h same.1
  · rfl

/-- Whatever does not concern records does not look one up. -/
private theorem looksUp_aside {effect : Effect} {reply : effect.Reply}
    (h : Effect.On (· ≠ .records) effect) :
    (⟨i, effect, reply⟩ : Turn ι).looksUp .records id = false := by
  unfold Turn.looksUp
  split
  · next same =>
    cases same
    exact decide_eq_false fun same => h same.1
  · rfl

/-- The key of the record holds the number. -/
def Holding (id key : String) (n : Int) (store : MemoryStore) : Prop :=
  ∃ doc, store.get? .records id = some doc ∧ (fieldValue doc key).Counts n

private theorem holding_of_docs {key : String} {n : Int} {store after : MemoryStore}
    (h : Holding id key n store) (same : after.docs .records = store.docs .records) :
    Holding id key n after := by
  obtain ⟨doc, found, counts⟩ := h
  exact ⟨doc, by rw [get?, same]; exact found, counts⟩

end

variable {ι : Type} [DecidableEq ι] [Fintype ι] {id key : String} {start : Int} {amounts : ι → Int}
  {idAt : Nat → String} {engine : Engine} {past later : Past ι MemoryStore} {i : ι}
  {effect : Effect} {reply : effect.Reply} {s : MemoryStore} {doc : Document}

/-- What the runs that have changed the record add up to. -/
def tally (id : String) (start : Int) (amounts : ι → Int) (turns : List (Turn ι)) : Int :=
  start + ∑ i with Counted id turns i, amounts i

private theorem tally_quiet {turns more : List (Turn ι)}
    (quiet : ∀ turn ∈ more, turn.changes .records id = false) :
    tally id start amounts (turns ++ more) = tally id start amounts turns := by
  have same (i : ι) : Counted id (turns ++ more) i ↔ Counted id turns i := by
    rw [counted_append, or_iff_left (not_counted quiet)]
  simp only [tally, same]

private theorem tally_change {turns : List (Turn ι)} {turn : Turn ι} (new : ¬Counted id turns turn.who)
    (changed : turn.changes .records id = true) :
    tally id start amounts (turns ++ [turn]) = tally id start amounts turns + amounts turn.who := by
  have own (i : ι) : Counted id [turn] i ↔ turn.who = i := by simp [Counted, changed]
  have more : (Finset.univ.filter fun i => Counted id (turns ++ [turn]) i) =
      insert turn.who (Finset.univ.filter fun i => Counted id turns i) := by
    ext i
    rw [Finset.mem_insert, Finset.mem_filter, Finset.mem_filter, counted_append, own, eq_comm]
    simp only [Finset.mem_univ, true_and]
    exact or_comm
  rw [tally, tally, more, Finset.sum_insert (by simpa using new)]
  omega

/-- What runs that count rely on: unless one came in between another's look and its change, nothing is
lost so far, and who does not change the record leaves it as it is. -/
def counting (id key : String) (start : Int) (amounts : ι → Int) : Sharing ι MemoryStore :=
  .along
    (fun past => (rewriting ι .records id).Undivided past.turns →
      Holding id key (tally id start amounts past.turns) past.state)
    (fun turns before after => (∀ turn ∈ turns, turn.changes .records id = false) →
      after.get? .records id = before.get? .records id)
    (fun _ _ => rfl)
    (fun _ _ _ _ _ first second calm => by
      rw [List.forall_mem_append] at calm
      exact (second calm.2).trans (first calm.1))

/-- The key of the record is as it was read. -/
def AsRead (id key : String) (doc : Document) (store : MemoryStore) : Prop :=
  ∃ current, store.get? .records id = some current ∧ fieldValue current key = fieldValue doc key

/-- The run has read the record, and the key is so unless somebody has changed the record since. -/
def HasRead (id key : String) (i : ι) (doc : Document) (past : Past ι MemoryStore) : Prop :=
  (rewriting ι .records id).Seen i past.turns (AsRead id key doc past.state)

/-- The change adds the amount to what the key of the document counts as. -/
structure AddsTo (key : String) (amount : Int) (doc : Document) (c : DataChange) : Prop where
  field : c.change.field = key
  value : ∀ n, (fieldValue doc key).Counts n → (n + amount).natAbs ≤ Binary64.wholeLimit →
    c.value = some (.ofInt (n + amount))

/-- What a run that counts asks: the record, to change it once after it was read, and what does not
concern records. -/
def countingPolicy (id key : String) (amounts : ι → Int) (i : ι) : Policy (Past ι MemoryStore) where
  permitted effect past := Effect.On (· ≠ .records) effect ∨ effect = .store (.get .records id) ∨
    ∃ doc now c, effect = .store (.update .records id (DataChange.update c now)) ∧
      HasRead id key i doc past ∧ ¬Counted id past.turns i ∧ AddsTo key (amounts i) doc c

omit [DecidableEq ι] [Fintype ι] in
private theorem docs_of_quiet (i : ι) (w : world idAt effect past.state reply s)
    (quiet : (⟨i, effect, reply⟩ : Turn ι).writes = false) :
    s.docs .records = past.state.docs .records := congrArg (docs · .records) (eq_of_quiet w quiet)

/-- A turn that does not change the record leaves what its key holds. -/
private theorem kept_quiet (kept : (counting id key start amounts).kept past)
    (same : s.docs .records = past.state.docs .records)
    (quiet : (⟨i, effect, reply⟩ : Turn ι).changes .records id = false) :
    let next := past.after ⟨i, effect, reply⟩ s
    (counting id key start amounts).kept next ∧ (counting id key start amounts).grows past next := by
  refine ⟨fun undivided => ?_, [⟨i, effect, reply⟩], rfl, fun _ => congrArg (List.find? _) same⟩
  have none : ∀ turn ∈ [(⟨i, effect, reply⟩ : Turn ι)], turn.changes .records id = false :=
    List.forall_mem_singleton.mpr quiet
  have held := kept undivided.earlier
  rw [← tally_quiet none] at held
  exact holding_of_docs held same

/-- A run that changes the record adds its amount to what the key holds, if nobody came in between. -/
private theorem kept_change {c : DataChange} {now : Time.Instant} {applied : Bool}
    (small : ∀ S : Finset ι, (start + ∑ i ∈ S, amounts i).natAbs ≤ Binary64.wholeLimit)
    (kept : (counting id key start amounts).kept past) (read : HasRead id key i doc past)
    (new : ¬Counted id past.turns i) (adds : AddsTo key (amounts i) doc c)
    (w : world idAt (.store (.update .records id (c.update now))) past.state
      (.answered (.ok applied)) s) :
    let next := past.after ⟨i, .store (.update .records id (c.update now)), .answered (.ok applied)⟩ s
    (counting id key start amounts).kept next ∧ (counting id key start amounts).grows past next := by
  obtain ⟨rfl, current, found, rfl⟩ := update_performed (c.expect_update now) w
  let turn : Turn ι := ⟨i, .store (.update .records id (c.update now)), .answered (.ok true)⟩
  have changed : turn.changes .records id = true := by simp [turn, Turn.changes]
  refine ⟨fun undivided => ?_, [turn], rfl, fun calm => ?_⟩
  · obtain ⟨_, found', same⟩ := read.act undivided rfl changed
    cases found.symm.trans found'
    obtain ⟨_, found', counts⟩ := kept undivided.earlier
    cases found.symm.trans found'
    have total : tally id start amounts (past.turns ++ [turn]) =
        tally id start amounts past.turns + amounts i := tally_change new changed
    have exact' : (tally id start amounts past.turns + amounts i).natAbs ≤ Binary64.wholeLimit :=
      total ▸ small _
    have named : current.id = id := (mem_of_get? found).2
    refine ⟨{ current with fields := (c.update now).applyFields current.fields }, ?_, ?_⟩
    · exact named ▸ get?_place past.state .records _
    · change Json.Value.Counts _ (tally id start amounts (past.turns ++ [turn]))
      rw [c.fieldValue_update, if_pos adds.field, adds.value _ (same ▸ counts) exact', total]
      exact Json.Value.counts_ofInt exact'
  · rw [List.forall_mem_singleton.mp calm] at changed
    cases changed

/-- Runs that count keep what they rely on. -/
private theorem counting_holds
    (small : ∀ S : Finset ι, (start + ∑ i ∈ S, amounts i).natAbs ≤ Binary64.wholeLimit) :
    (counting id key start amounts).Holds (world idAt)
      (fun store after => after.docs .records = store.docs .records)
      (countingPolicy id key amounts) where
  drifts past s kept same := by
    refine ⟨fun undivided => ?_, [], by simp, fun _ => congrArg (List.find? _) same⟩
    exact holding_of_docs (kept undivided) same
  turn past i effect reply s kept permitted w := by
    rcases permitted with aside | rfl | ⟨doc, now, c, rfl, read, new, adds⟩
    · exact kept_quiet kept (docs_of_world w aside) (changes_aside aside)
    · exact kept_quiet kept (docs_of_quiet i w rfl) rfl
    · rcases reply with (e | applied) | _ | crash
      · exact kept_quiet kept (docs_of_quiet i w rfl) rfl
      · exact kept_change small kept read new adds w
      · exact kept_quiet kept (docs_of_quiet i w rfl) rfl
      · exact kept_quiet kept (docs_of_quiet i w rfl) rfl

/-- How far a run has come: whether it has changed the record yet, and what it has read of it. -/
structure Reached (id key : String) (start : Int) (amounts : ι → Int) (i : ι) (changed : Prop)
    (read : Option Document) (past : Past ι MemoryStore) : Prop where
  kept : (counting id key start amounts).kept past
  changed : Counted id past.turns i ↔ changed
  read : ∀ doc ∈ read, HasRead id key i doc past

/-- The key stays as it was read while nobody changes the record. -/
private theorem asRead_of_same {store after : MemoryStore} (h : AsRead id key doc store)
    (same : after.get? .records id = store.get? .records id) : AsRead id key doc after := by
  obtain ⟨current, found, value⟩ := h
  exact ⟨current, same.trans found, value⟩

/-- The run's own turns after its look, and those of the others, leave a run where it is. -/
private theorem Reached.next {changed : Prop} {read : Option Document}
    (h : Reached id key start amounts i changed read past)
    (blind : read = none ∨ (⟨i, effect, reply⟩ : Turn ι).looksUp .records id = false)
    (quiet : (⟨i, effect, reply⟩ : Turn ι).changes .records id = false)
    (w : (counting id key start amounts).world (world idAt) i effect past reply later) :
    Reached id key start amounts i changed read later := by
  obtain ⟨s, -, goes⟩ := Sharing.goes_of_world w
  obtain ⟨more, split, moved, others⟩ := goes.others
  refine ⟨goes.kept, ?_, fun doc known => ?_⟩
  · have own : later.own i = past.own i ++ [⟨i, effect, reply⟩] := Sharing.own_of_world w
    have mine (past : Past ι MemoryStore) : Counted id past.turns i ↔ Counted id (past.own i) i := by
      simp [Counted, Past.own, and_assoc]
    have none : ¬Counted id [(⟨i, effect, reply⟩ : Turn ι)] i :=
      not_counted (List.forall_mem_singleton.mpr quiet)
    rw [mine, own, counted_append, or_iff_left none, ← mine, h.changed]
  · have blind := blind.resolve_left fun none => by cases none ▸ known
    rw [HasRead, split, List.append_assoc]
    refine (h.read doc known).append ?_ fun calm so => ?_
    · intro turn known own
      rcases List.mem_append.mp known with known | known
      · exact List.mem_singleton.mp known ▸ blind
      · exact absurd own (others turn known)
    · rw [List.forall_mem_append] at calm
      exact asRead_of_same (asRead_of_same so (goes.own calm.1)) (moved calm.2)

/-- What does not concern records leaves a run where it is. -/
private theorem stays_aside {ε α : Type} {work : Work ε α} {given : α → Prop} {changed : Prop}
    {read : Option Document} (asks : work.Asks (Effect.On (· ≠ .records)) given)
    (h : Reached id key start amounts i changed read past) :
    work.Meets ((counting id key start amounts).world (world idAt) i) (countingPolicy id key amounts i)
      (fun a later => given a ∧ Reached id key start amounts i changed read later)
      (fun _ later => Reached id key start amounts i changed read later) past :=
  asks.meets (fun _ _ aside _ => .inl aside) (fun _ _ _ _ _ => nofun)
    (fun _ _ _ _ aside stage w => stage.next (.inr (looksUp_aside aside)) (changes_aside aside) w) h

private theorem targetRecord_reads {ctx : Context} {recordId : Option String}
    (target : targetId ctx recordId = .ok id) (h : Reached id key start amounts i False none past) :
    (engine.targetRecord ctx recordId).Meets ((counting id key start amounts).world (world idAt) i)
      (countingPolicy id key amounts i)
      (fun doc later => doc.id = id ∧ Reached id key start amounts i False (some doc) later)
      (fun _ later => (counting id key start amounts).kept later) past := by
  unfold targetRecord
  rw [target]
  change Work.Meets _ _ _ _ (engine.records.requireIn ctx.workspaceId .records id) past
  unfold Connection.requireIn Connection.require
  rw [bind_assoc]
  refine Connection.meets_askThen (.inr (.inl rfl)) (fun _ _ => nofun) fun reply later w => ?_
  have stage := h.next (.inl rfl) rfl w
  rcases reply with (e | found) | _ | crash
  · exact stage.kept
  · obtain ⟨s, w, goes⟩ := Sharing.goes_of_world w
    obtain ⟨rfl, rfl⟩ := get_performed w
    cases found : past.state.get? .records id with
    | none => exact Work.meets_fail.mpr stage.kept
    | some doc =>
      have read : HasRead id key i doc later := by
        obtain ⟨more, split, moved, others⟩ := goes.others
        rw [HasRead, split]
        have seen : AsRead id key doc past.state := ⟨doc, found, rfl⟩
        refine (Reliance.seen_of_look rfl ?_ seen).append ?_ ?_
        · simp [rewriting, Turn.looksUp]
        · exact fun turn known own => absurd own (others turn known)
        · exact fun calm so => asRead_of_same so (moved calm)
      simp only [Connection.understood, Work.Promise, pure_bind]
      split
      · refine Work.meets_pure.mpr ⟨(mem_of_get? found).2, stage.kept, stage.changed, ?_⟩
        rintro _ ⟨⟩
        exact read
      · exact Work.meets_fail.mpr stage.kept
  · exact stage.kept
  · exact stage.kept

private theorem change_adds {t : Transform} {amount : Option Binary64} {decimals : Option Nat}
    {target : Option String} {c : DataChange} {n : Int} (adds : t.Adds amount n)
    (same : (Command.nonBlank? target).getD key = key)
    (ok : FieldCommand.change doc (.transform key t.name target amount decimals) = .ok c) :
    AddsTo key n doc c := by
  simp only [FieldCommand.change] at ok
  cases applied : Transform.applyNamed t.name (fieldValue doc key) amount decimals with
  | error e =>
    rw [applied] at ok
    cases ok
  | ok value =>
    rw [applied] at ok
    cases ok
    refine ⟨same, fun m counts small => ?_⟩
    rw [Transform.applyNamed_adds adds counts small] at applied
    cases applied
    rfl

/-- A step that counts changes the record once, unless it stops. -/
private theorem changeField_counts {ctx : Context} {stepId : String} {t : Transform}
    {amount : Option Binary64} {decimals : Option Nat} {target recordId : Option String}
    (adds : t.Adds amount (amounts i)) (same : (Command.nonBlank? target).getD key = key)
    (here : targetId ctx recordId = .ok id) (h : Reached id key start amounts i False none past) :
    (engine.changeField ctx stepId (.transform key t.name target amount decimals) recordId).Meets
      ((counting id key start amounts).world (world idAt) i) (countingPolicy id key amounts i)
      (fun _ later => Reached id key start amounts i True none later)
      (fun _ later => (counting id key start amounts).kept later) past := by
  refine (targetRecord_reads here h).bind ?_
  rintro doc later ⟨rfl, stage⟩
  cases changes : FieldCommand.change doc (.transform key t.name target amount decimals) with
  | error e => exact Work.meets_fail.mpr stage.kept
  | ok c =>
    refine ((stays_aside (Work.asks_ofProgram (Program.asks_now trivial)) stage).mono
      (fun _ _ post => post) fun _ _ post => post.kept).bind fun now later ⟨_, stage⟩ => ?_
    have permitted : (countingPolicy doc.id key amounts i).permitted
        (.store (.update .records doc.id (c.update now))) later :=
      .inr (.inr ⟨doc, now, c, rfl, stage.read doc rfl, stage.changed.mp, change_adds adds same changes⟩)
    refine Connection.meets_askThen permitted (fun _ _ => nofun) fun reply last w => ?_
    obtain ⟨s, w, -, -, elsewhere⟩ := w
    rcases reply with (e | applied) | _ | crash
    · exact elsewhere.kept
    · obtain ⟨rfl, -⟩ := update_performed (c.expect_update now) w
      have counted : Counted doc.id last.turns i := by
        refine (counted_own elsewhere.own).mpr (counted_append.mpr (.inr ⟨_, List.mem_singleton_self _, rfl, ?_⟩))
        simp [Turn.changes]
      have stage : Reached doc.id key start amounts i True none last :=
        ⟨elsewhere.kept, iff_true_intro counted, nofun⟩
      refine ((stays_aside (audit_asks fun _ => nofun) stage).mono (fun _ _ post => post)
        fun _ _ post => post.kept).bind fun _ _ post => Work.meets_pure.mpr post.2
    · exact elsewhere.kept
    · exact elsewhere.kept

/-- The clock is asked without any effect on the run. -/
private theorem now_aside {changed : Prop} (h : Reached id key start amounts i changed none past) :
    Program.now.Meets ((counting id key start amounts).world (world idAt) i)
      (countingPolicy id key amounts i)
      (fun _ later => Reached id key start amounts i changed none later) past := by
  have asks : Program.now.Asks (Effect.On (· ≠ .records)) fun _ => True := Program.asks_now trivial
  refine Program.Meets.mono (asks.meets ?_ (fun _ _ _ _ => nofun) ?_ h) fun _ _ post => post.2
  · exact fun _ _ aside _ => .inl aside
  · exact fun _ _ _ _ aside stage w => stage.next (.inl rfl) (changes_aside aside) w

private theorem Reached.of_kept (h : (counting id key start amounts).kept past) :
    Reached id key start amounts i (Counted id past.turns i) none past := ⟨h, Iff.rfl, nofun⟩

/-- Behind a step that counts the record has changed if the step completed; else it may have. -/
private def ReachedBy (id key : String) (start : Int) (amounts : ι → Int) (i : ι) :
    StepOutcome → Past ι MemoryStore → Prop
  | .completed _ _, later => Reached id key start amounts i True none later
  | .failed _ _, later | .crashed _, later => (counting id key start amounts).kept later

/-- A run of the one step has changed the record if it goes by as completed. -/
private theorem runSequence_counts {ctx : Context} {step : Step} {t : Transform}
    {amount : Option Binary64} {decimals : Option Nat} {target recordId : Option String}
    (parsed : Command.parse step.type step.id (Template.resolve ctx step.config) =
      .ok (.primitive (.field (.transform key t.name target amount decimals) recordId)))
    (adds : t.Adds amount (amounts i)) (same : (Command.nonBlank? target).getD key = key)
    (here : targetId ctx recordId = .ok id) (h : Reached id key start amounts i False none past) :
    (engine.runSequence [step] ctx).Meets ((counting id key start amounts).world (world idAt) i)
      (countingPolicy id key amounts i)
      (fun trace later => ∃ changed, Reached id key start amounts i changed none later ∧
        ((summarize trace.results trace.ending.error?).1 = .completed → changed)) past := by
  unfold runSequence
  refine (now_aside h).bind fun startedAt later stage => ?_
  rw [runStep_primitive parsed]
  have ran : (engine.primitiveOutcome ctx step.id
      (.field (.transform key t.name target amount decimals) recordId)).Meets
        ((counting id key start amounts).world (world idAt) i) (countingPolicy id key amounts i)
        (ReachedBy id key start amounts i) later := by
    refine Program.Meets.bind (changeField_counts adds same here stage) fun result last post => ?_
    rcases result with (e | crash) | output
    · exact post
    · exact post
    · exact post
  refine ran.bind fun outcome last post => ?_
  cases outcome with
  | crashed crash =>
    refine ⟨_, Reached.of_kept (i := i) post, fun completed => ?_⟩
    cases completed
  | failed e output =>
    refine (now_aside (Reached.of_kept (i := i) post)).bind fun completedAt last stage => ?_
    refine ⟨_, stage, fun completed => ?_⟩
    cases completed
  | completed output next =>
    refine (now_aside post).bind fun completedAt last stage => ?_
    unfold runSequence
    exact ⟨True, stage, fun _ => trivial⟩

private theorem run_aside {ε α : Type} {work : Work ε α} {given : α → Prop} {changed : Prop}
    (asks : work.Asks (Effect.On (· ≠ .records)) given)
    (h : Reached id key start amounts i changed none past) :
    work.Meets ((counting id key start amounts).world (world idAt) i)
      (countingPolicy id key amounts i)
      (fun a later => given a ∧ Reached id key start amounts i changed none later)
      (fun _ _ => True) past :=
  (stays_aside asks h).mono (fun _ _ post => post) fun _ _ _ => trivial

/-- A run that counts has changed the record once it reports to have completed. -/
private theorem run_counts {c : Counter} (counts : c.Counts id key) (amount : amounts i = c.amount)
    (h : Reached id key start amounts i False none past) :
    (engine.run c.action c.occasion).Meets ((counting id key start amounts).world (world idAt) i)
      (countingPolicy id key amounts i)
      (fun report later => report.status = .completed → Counted id later.turns i)
      (fun _ _ => True) past := by
  obtain ⟨step, single, reads⟩ := counts
  have apart (table : Table) (same : table = .actionExecutions) : table ≠ .records := by
    rw [same]
    decide
  refine (run_aside ((start_asks c.action c.occasion).on apart) h).bind
    fun executionId later ⟨_, stage⟩ => ?_
  obtain ⟨t, by', decimals, target, recordId, parsed, same, here, adds⟩ := reads executionId
  rw [single]
  refine (Work.meets_ofProgram (runSequence_counts parsed (amount ▸ adds) same here stage)).bind
    fun trace later ⟨changed, stage, done⟩ => ?_
  refine (run_aside ((finish_asks executionId trace.results trace.ending.error?).on apart)
    stage).bind fun status later ⟨given, stage⟩ => ?_
  refine (run_aside (writeAudit_asks fun _ => nofun).ignoring stage).bind
    fun _ last ⟨_, stage⟩ => Work.meets_pure.mpr fun completed => ?_
  exact stage.changed.mpr (done (given ▸ completed))

/-- Runs that count the same key of a record up and down at the same time. As long as nobody changes
the record between a run's reading and its writing it, the key holds what the runs that have written
add up to, and those that completed have written. -/
theorem counts_addUp (engine : Engine) (idAt : Nat → String) (runs : ι → Counter)
    (counts : ∀ i, (runs i).Counts id key) {store after : MemoryStore} {turns : List (Turn ι)}
    {rest : ι → Program (Except (Stop LifecycleError) ExecutionReport)}
    (first : Holding id key start store)
    (small : ∀ S : Finset ι, (start + ∑ i ∈ S, (runs i).amount).natAbs ≤ Binary64.wholeLimit)
    (ran : Interleaved (world idAt) (fun store after => after.docs .records = store.docs .records)
      (fun i => (engine.run (runs i).action (runs i).occasion).run) store turns rest after)
    (undivided : (rewriting ι .records id).Undivided turns) :
    Holding id key (start + ∑ i with Counted id turns i, (runs i).amount) after ∧
      (∀ i, Completes (rest i) → Counted id turns i) ∧
      ((∀ i, Completes (rest i)) → Holding id key (start + ∑ i, (runs i).amount) after) := by
  let amounts (i : ι) := (runs i).amount
  let promised (i : ι) := Work.Promise
    (fun (report : ExecutionReport) (later : Past ι MemoryStore) =>
      report.status = .completed → Counted id later.turns i) fun (_ : Stop LifecycleError) _ => True
  have begun : (counting id key start amounts).Pending (world idAt)
      (countingPolicy id key amounts) promised
      (fun i => (engine.run (runs i).action (runs i).occasion).run) ⟨[], store⟩ := by
    refine ⟨fun _ => by simpa [tally, Counted] using first, fun i later elsewhere => ?_⟩
    have none : Counted id later.turns i ↔ False := by
      rw [counted_own elsewhere.own]
      simp [Counted]
    exact run_counts (counts i) rfl ⟨elsewhere.kept, none, nofun⟩
  obtain ⟨pending, -⟩ := ran.pending (counting_holds small) begun
  have held : Holding id key (tally id start amounts turns) after := pending.kept undivided
  have written (i : ι) (completes : Completes (rest i)) : Counted id turns i := by
    obtain ⟨report, done, completed⟩ := completes
    exact pending.ended done completed
  refine ⟨held, written, fun all => ?_⟩
  have everyone : (Finset.univ.filter fun i => Counted id turns i) = Finset.univ :=
    Finset.filter_true_of_mem fun i _ => written i (all i)
  rwa [tally, everyone] at held

section

/-- An action that counts the key "n" of the record of its run up by one. -/
private def countUp : Action where
  id := "a"
  workspaceId := "w"
  name := "Count"
  slug := "count"
  description := none
  trigger := ⟨.manual, none, none, none, none⟩
  conditions := []
  steps := [⟨"up", .transformField, none,
    .object [("field", .string "n"), ("transform", .string "increment")], [], [], []⟩]
  isActive := true
  isSystem := false
  createdBy := none

/-- Two runs that count the same record. -/
private def both (_ : Bool) : Counter := ⟨countUp, ⟨.manual, some ⟨"r", 0, none, []⟩, none⟩, 1⟩

private def isCount : Except StepError Command → Bool
  | .ok (.primitive (.field command none)) => command = .transform "n" "increment" none none none
  | _ => false

private theorem both_counts (i : Bool) : (both i).Counts "r" "n" := by
  refine ⟨_, rfl, fun executionId => ⟨.increment, none, none, none, none, ?_, rfl, rfl, .inl ⟨rfl, ?_⟩⟩⟩
  · have read : isCount (Command.parse .transformField "up" (Template.resolve
        (firstContext countUp ⟨.manual, some ⟨"r", 0, none, []⟩, none⟩ "")
        (.object [("field", .string "n"), ("transform", .string "increment")]))) = true := by
      decide +kernel
    rw [show firstContext (both i).action (both i).occasion executionId =
        { firstContext countUp ⟨.manual, some ⟨"r", 0, none, []⟩, none⟩ "" with
          executionId := some executionId } from rfl, Template.resolve_executionId]
    unfold isCount at read
    split at read
    · next command parsed =>
      rw [parsed, of_decide_eq_true read]
      rfl
    · cases read
  · have one : (Binary64.ofNat 1).IsInt ((1 : Nat) : Int) := Binary64.isInt_ofNat (by decide)
    rw [Option.getD_none]
    exact one

private def five : MemoryStore where
  records := [⟨"r", 0, [("data", .object [("n", .ofInt 5)]), ("workspaceId", .string "w")]⟩]

private theorem holding_five : Holding "r" "n" 5 five := ⟨_, rfl, .inr ⟨_, rfl, Binary64.isInt_ofInt (by decide)⟩⟩

private def programs (i : Bool) : Program (Except (Stop LifecycleError) ExecutionReport) :=
  (bareEngine.run (both i).action (both i).occasion).run

/-- One run after the other. -/
private def inTurn := Program.schedule (MemoryStore.calm Surroundings.marks)
  (List.replicate 13 true ++ List.replicate 13 false) programs five

/-- One run reads the record, and goes on when the other one is done. -/
private def torn := Program.schedule (MemoryStore.calm Surroundings.marks)
  (List.replicate 5 true ++ List.replicate 13 false ++ List.replicate 8 true) programs five

/-- The record's number and what both runs report of themselves. -/
private def outcome (ran : List (Turn Bool) × (Bool → Program (Except (Stop LifecycleError)
    ExecutionReport)) × MemoryStore) : Option Value × List (Option ExecutionStatus) :=
  ((ran.2.2.get? .records "r").map (fieldValue · "n"), [status? (ran.2.1 true), status? (ran.2.1 false)])

private theorem holding_of_outcome {ran : List (Turn Bool) × (Bool → Program (Except
    (Stop LifecycleError) ExecutionReport)) × MemoryStore} {n m : Int}
    {statuses : List (Option ExecutionStatus)} (h : outcome ran = (some (.ofInt n), statuses))
    (small : n.natAbs ≤ Binary64.wholeLimit) : Holding "r" "n" m ran.2.2 ↔ m = n := by
  obtain ⟨doc, found, value⟩ := Option.map_eq_some_iff.mp (congrArg Prod.fst h)
  have whole := Binary64.isInt_ofInt small
  constructor
  · rintro ⟨other, found', counts⟩
    cases found.symm.trans found'
    rw [value] at counts
    obtain ⟨⟨⟩, -⟩ | ⟨x, ⟨⟩, whole'⟩ := counts
    exact whole'.unique whole
  · rintro rfl
    exact ⟨doc, found, value ▸ .inr ⟨_, rfl, whole⟩⟩

private theorem completes_of_outcome {ran : List (Turn Bool) × (Bool → Program (Except
    (Stop LifecycleError) ExecutionReport)) × MemoryStore} {number : Option Value}
    (h : outcome ran = (number, [some .completed, some .completed])) (i : Bool) :
    Completes (ran.2.1 i) := by
  have both := List.cons.inj (congrArg Prod.snd h)
  cases i
  · exact completes_of_status (List.cons.inj both.2).1
  · exact completes_of_status both.1

/-- Two runs that count one after the other. -/
theorem counts_addUp_inTurn : ∃ turns rest after,
    Interleaved (world Surroundings.marks) (fun store after => after.docs .records = store.docs .records)
      programs five turns rest after ∧
    (rewriting Bool .records "r").Undivided turns ∧ (∀ i, Completes (rest i)) ∧
    Holding "r" "n" (5 + ∑ i : Bool, (both i).amount) after := by
  have ran : Interleaved (world Surroundings.marks)
      (fun store after => after.docs .records = store.docs .records) programs five inTurn.1 inTurn.2.1
      inTurn.2.2 := Program.interleaved_schedule (fun effect store => (dated_calm effect store).1) rfl
  have ends : outcome inTurn = (some (.ofInt 7), [some .completed, some .completed]) := by
    decide +kernel
  have whole : (inTurn.1.sublistsLen 3).any (rewriting Bool .records "r").tears = false := by decide +kernel
  have undivided : (rewriting Bool .records "r").Undivided inTurn.1 :=
    Reliance.undivided_of_sublistsLen whole
  have small : ∀ S : Finset Bool, ((5 : Int) + ∑ i ∈ S, (both i).amount).natAbs ≤ Binary64.wholeLimit := by
    decide
  have completes := completes_of_outcome ends
  exact ⟨_, _, _, ran, undivided, completes,
    (counts_addUp bareEngine Surroundings.marks both both_counts holding_five small ran undivided).2.2
      completes⟩

/-- One of two runs reads the record before the other one counts and writes it afterwards: both report
to have completed, and one of the counts is lost. -/
theorem counts_lost : ∃ turns rest after,
    Interleaved (world Surroundings.marks) (fun _ _ => False) programs five turns rest after ∧
    (∀ i, Completes (rest i)) ∧ Holding "r" "n" 5 five ∧ Holding "r" "n" 6 after ∧
    ¬Holding "r" "n" (5 + ∑ i : Bool, (both i).amount) after := by
  have ran : Interleaved (world Surroundings.marks) (fun _ _ => False) programs five torn.1 torn.2.1
      torn.2.2 := Program.interleaved_schedule (fun effect store => (dated_calm effect store).1) rfl
  have ends : outcome torn = (some (.ofInt 6), [some .completed, some .completed]) := by
    decide +kernel
  have holds (m : Int) := holding_of_outcome (m := m) ends (by decide)
  refine ⟨_, _, _, ran, completes_of_outcome ends, holding_five, (holds 6).mpr rfl, ?_⟩
  rw [holds]
  decide

end

end Engine
end Automation
