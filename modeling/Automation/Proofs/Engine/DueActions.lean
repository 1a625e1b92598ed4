import Automation.Proofs.Cron.FireTimes
import Automation.Proofs.Engine.Dispatch

/-!
Scheduled actions over consecutive windows of time: an action is returned in one of them if its schedule fires
between the ends, and in no more of them than it has firing times.
-/
namespace Automation.Engine

open Time (Instant)
open Time.Instant (Within)

variable {τ : Type} {around : Surroundings τ}

/-- The action is one of those whose time has come. -/
def Returns (engine : Engine) (around : Surroundings τ) (state : MemoryStore × τ) (since now : Instant)
    (action : Action) : Prop :=
  ∃ due after, (engine.dueActions since now).run.run around.environment state = (.ok due, after) ∧
    action ∈ due

/-- A document from which the action is read, found among the scheduled ones. -/
def StoredAs (store : MemoryStore) (action : Action) : Prop :=
  ∃ doc ∈ store.docs .actions, doc.decodeAs Action.decode = .ok action ∧
    doc.get? "trigger.type" = some (.string TriggerType.scheduled.name)

/-- The actions of a query that can be read. -/
def readable (store : MemoryStore) (q : Query) : List Action :=
  (store.query .actions q).filterMap fun doc => (doc.decodeAs Action.decode).toOption

theorem dueActions_run (engine : Engine) (reliable : around.Reliable) (since now : Instant) (store : MemoryStore)
    (t : τ) : ∃ t', (engine.dueActions since now).run.run around.environment (store, t) =
      (.ok ((readable store (.byText [("trigger.type", TriggerType.scheduled.name)])).filter (isDue since now)),
        store, t') := by
  obtain ⟨t', loaded⟩ := loadActions_run engine reliable
    (.byText [("trigger.type", TriggerType.scheduled.name)]) t
  exact ⟨t', (Work.run_next (loaded store)).trans rfl⟩

theorem StoredAs.readable {store : MemoryStore} {action : Action} (stored : StoredAs store action) :
    action ∈ readable store (.byText [("trigger.type", TriggerType.scheduled.name)]) := by
  obtain ⟨doc, known, read, scheduled⟩ := stored
  have found : doc ∈ store.query .actions (.byText [("trigger.type", TriggerType.scheduled.name)]) := by
    refine List.mem_filter.mpr ⟨known, Query.accepts_byText.mpr ?_⟩
    exact List.forall_mem_singleton.mpr scheduled
  exact List.mem_filterMap.mpr ⟨doc, found, by rw [read]; rfl⟩

theorem returns_iff (engine : Engine) (reliable : around.Reliable) {state : MemoryStore × τ}
    {since now : Instant} {action : Action} (stored : StoredAs state.1 action) :
    engine.Returns around state since now action ↔ isDue since now action = true := by
  obtain ⟨t', ran⟩ := dueActions_run engine reliable since now state.1 state.2
  constructor
  · rintro ⟨due, after, told, returned⟩
    have same : _ = due := Except.ok.inj (congrArg Prod.fst (ran.symm.trans told))
    exact (List.mem_filter.mp (same ▸ returned)).2
  · exact fun due => ⟨_, _, ran, List.mem_filter.mpr ⟨stored.readable, due⟩⟩

theorem isDue_scheduled {action : Action} {text : String} {s : Cron.Schedule} (active : action.isActive = true)
    (schedule : action.trigger.schedule = some text) (read : Cron.Schedule.parse text = .ok s)
    (since now : Instant) : isDue since now action = s.isDue since now := by
  simp [isDue, active, schedule, read]

/-- A schedule is due in a window only if it fires in it, and is if it fires at a time that the search from the
start of the window does not pass over. A window is due if one of its two parts is, and over a chain of windows
an action of the schedule is returned if it fires between the ends, and no more often than it fires. -/
theorem schedules_covered (engine : Engine) (reliable : around.Reliable) {text : String} {s : Cron.Schedule}
    (read : Cron.Schedule.parse text = .ok s) :
    (∀ since now, (s.isDue since now = true → ∃ t, s.FiresAt t ∧ Within since now t) ∧
      (s.Reaches since now → (s.isDue since now = true ↔ ∃ t, s.FiresAt t ∧ Within since now t))) ∧
    (∀ a b c : Instant, a.le b = true → b.le c = true → s.Reaches a b → s.Reaches b c → s.Reaches a c →
      (s.isDue a c = true ↔ s.isDue a b = true ∨ s.isDue b c = true)) ∧
    ∀ (action : Action) (n : Nat) (ends : Nat → Instant) (states : Nat → MemoryStore × τ),
      action.isActive = true → action.trigger.schedule = some text →
      (∀ k < n, (ends k).le (ends (k + 1)) = true) → (∀ k < n, StoredAs (states k).1 action) →
      ((∀ k < n, s.Reaches (ends k) (ends (k + 1))) →
        ((∃ k < n, engine.Returns around (states k) (ends k) (ends (k + 1)) action) ↔
          ∃ t, s.FiresAt t ∧ Within (ends 0) (ends n) t)) ∧
      {k | k < n ∧ engine.Returns around (states k) (ends k) (ends (k + 1)) action}.encard ≤
        {t | s.FiresAt t ∧ Within (ends 0) (ends n) t}.encard := by
  refine ⟨fun since now => ⟨Cron.Schedule.fires_of_isDue read, Cron.Schedule.isDue_iff read⟩,
    fun a b c ab bc => Cron.Schedule.isDue_split read ab bc,
    fun action n ends states active schedule ordered stored => ?_⟩
  have returned (k : Nat) (lt : k < n) : engine.Returns around (states k) (ends k) (ends (k + 1)) action ↔
      s.isDue (ends k) (ends (k + 1)) = true := by
    rw [returns_iff engine reliable (stored k lt), isDue_scheduled active schedule read]
  constructor
  · intro reaches
    rw [← Cron.Schedule.isDue_chain read ordered reaches]
    exact exists_congr fun k => and_congr_right (returned k)
  · have same : {k | k < n ∧ engine.Returns around (states k) (ends k) (ends (k + 1)) action} =
        {k | k < n ∧ s.isDue (ends k) (ends (k + 1)) = true} :=
      Set.ext fun k => and_congr_right (returned k)
    rw [same]
    exact Cron.Schedule.encard_isDue_le read ordered

section

private def daily : Cron.Schedule where
  expression := "0 9 * * *"
  fields := {
    seconds := [0], minutes := [0], hours := [9], daysOfMonth := Cron.TimeUnit.dayOfMonth.all
    months := Cron.TimeUnit.month.all, daysOfWeek := Cron.TimeUnit.dayOfWeek.all
    years := Cron.TimeUnit.year.all }

private def morning : Document where
  id := "a"
  creationTime := 0
  fields := .ofList [("workspaceId", .string "w"), ("name", .string "Morning"), ("slug", .string "morning"),
    ("trigger", .object [("schedule", .string "0 9 * * *"), ("type", .string "scheduled")])]

/-- Half a second before nine o'clock, nine o'clock and an hour later, on 4 March 2024. -/
private def ends : Nat → Instant
  | 0 => ⟨1709542799, 500000000⟩
  | 1 => ⟨1709542800, 0⟩
  | _ => ⟨1709546400, 0⟩

/-- An action of nine o'clock is returned in one of two windows that meet at nine. -/
theorem schedules_covered_daily : ∃ action, morning.decodeAs Action.decode = .ok action ∧
    (∃ k < 2, bareEngine.Returns .still ({ actions := [morning] }, ()) (ends k) (ends (k + 1)) action) ∧
    (daily.isDue (ends 0) (ends 2) = true ↔
      daily.isDue (ends 0) (ends 1) = true ∨ daily.isDue (ends 1) (ends 2) = true) := by
  have read : Cron.Schedule.parse "0 9 * * *" = .ok daily := by decide +kernel
  obtain ⟨action, decoded, active, schedule⟩ : ∃ action, morning.decodeAs Action.decode = .ok action ∧
      action.isActive = true ∧ action.trigger.schedule = some "0 9 * * *" := by
    have told : (morning.decodeAs Action.decode).toOption.any (fun action =>
        action.isActive && action.trigger.schedule == some "0 9 * * *") = true := by decide +kernel
    cases decoded : morning.decodeAs Action.decode with
    | error e => simp [decoded, Except.toOption] at told
    | ok action => exact ⟨action, rfl, by simpa [decoded, Except.toOption] using told⟩
  have year : ∀ k < 2, (ends k).succ.moment.date.year = (2024 : Nat) := by decide +kernel
  have reaches (k : Nat) (lt : k < 2) (now : Instant) : daily.Reaches (ends k) now :=
    Cron.Schedule.reaches_of_year ⟨2024, by decide +kernel, year k lt⟩ now
  have ordered : ∀ k < 2, (ends k).le (ends (k + 1)) = true := by decide +kernel
  obtain ⟨-, splits, covers⟩ := schedules_covered bareEngine Surroundings.reliable_still read
  refine ⟨action, decoded, ?_, splits _ _ _ (ordered 0 (by decide)) (ordered 1 (by decide))
    (reaches 0 (by decide) _) (reaches 1 (by decide) _) (reaches 0 (by decide) _)⟩
  have kept : StoredAs { actions := [morning] } action :=
    ⟨morning, List.mem_singleton_self _, decoded, by decide +kernel⟩
  obtain ⟨returned, -⟩ := covers action 2 ends (fun _ => ({ actions := [morning] }, ())) active schedule ordered
    fun _ _ => kept
  refine (returned fun k lt => reaches k lt _).mpr ⟨ends 1, ⟨rfl, by decide +kernel⟩, ?_⟩
  exact ⟨by decide +kernel, by decide +kernel⟩

/-- A schedule that fires in 2100 only is not due at its first firing time after 4 March 2024, as the search
begins on 4 March of the year 2100. -/
theorem schedule_missed : ∃ s, Cron.Schedule.parse "0 0 9 * * * 2100" = .ok s ∧
    s.FiresAt ⟨4102477200, 0⟩ ∧ Within ⟨1709542890, 0⟩ ⟨4102477200, 0⟩ ⟨4102477200, 0⟩ ∧
    s.isDue ⟨1709542890, 0⟩ ⟨4102477200, 0⟩ = false := by
  refine ⟨{ expression := "0 0 9 * * * 2100", fields := { daily.fields with years := [2100] } },
    by decide +kernel, ⟨rfl, by decide +kernel⟩, ⟨by decide +kernel, by decide +kernel⟩, by decide +kernel⟩

end

end Automation.Engine
