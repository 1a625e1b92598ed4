import Automation.Proofs.Cron.Search
import Mathlib.Data.Set.Card

/-!
Firing times in windows of time and one after the other. A schedule is due in a window if it fires in it, and what
it fires in a window it fires in one of the parts of that window. This holds of all firing times but those that a
search passes over. A schedule for all years passes over none from 1970 on, so that every time at which it fires
comes up, in ascending order.
-/
namespace Automation

namespace Time.Instant

variable {a b c : Instant}

theorem le_iff : a.le b = true ↔ a.seconds < b.seconds ∨ a.seconds = b.seconds ∧ a.nanos ≤ b.nanos := by
  simp [le]

theorem le_trans (h : a.le b = true) (h' : b.le c = true) : a.le c = true := by
  rw [le_iff] at *
  omega

/-- A whole second is not after an instant if the instant is in that second or later. -/
theorem le_of_whole (whole : a.nanos = 0) : a.le b = true ↔ a.seconds ≤ b.seconds := by
  rw [le_iff]
  omega

theorem late_of_whole (whole : a.nanos = 0) : a.le b = false ↔ b.seconds < a.seconds := by
  rw [← Bool.not_eq_true, le_of_whole whole, Int.not_le]

/-- Later than something later. -/
theorem late_trans (ab : b.le a = false) (bc : c.le b = false) : c.le a = false := by
  rw [← Bool.not_eq_true, le_iff] at *
  omega

/-- Of two whole seconds the one that is not later is earlier, or they are the same. -/
theorem eq_or_late (whole : a.nanos = 0) (whole' : b.nanos = 0) (le : a.le b = true) :
    a = b ∨ b.le a = false := by
  rw [le_of_whole whole] at le
  rcases Int.lt_or_eq_of_le le with lt | same
  · exact .inr ((late_of_whole whole').mpr lt)
  · obtain ⟨_, _⟩ := a
    obtain ⟨_, _⟩ := b
    exact .inl (by simp_all)

/-- From second 0 on it is 1970 or later. -/
theorem year_of_nonneg (recent : 0 ≤ a.seconds) : 1970 ≤ a.moment.date.year := by
  have days := (Date.toDays_bounds (Date.isValid_ofDays (a.seconds / 86400))).2
  rw [Date.toDays_ofDays] at days
  change 1970 ≤ (Date.ofDays (a.seconds / 86400)).year
  by_contra early
  have before : daysBeforeYear ((Date.ofDays (a.seconds / 86400)).year + 1) ≤ daysBeforeYear 1970 :=
    daysBeforeYear_mono (by omega)
  have epoch : daysBeforeYear 1970 = epochDay := by decide
  omega

/-- After one instant and not after another. -/
def Within (since now t : Instant) : Prop := t.le since = false ∧ t.le now = true

/-- A window is made of its two parts. -/
theorem within_split {t : Instant} (ab : a.le b = true) (bc : b.le c = true) :
    Within a c t ↔ Within a b t ∨ Within b c t := by
  simp only [Within, ← Bool.not_eq_true]
  constructor
  · rintro ⟨late, inside⟩
    by_cases before : t.le b = true
    · exact .inl ⟨late, before⟩
    · exact .inr ⟨before, inside⟩
  · rintro (⟨late, inside⟩ | ⟨late, inside⟩)
    · exact ⟨late, le_trans inside bc⟩
    · exact ⟨fun le => late (le_trans le ab), inside⟩

end Time.Instant

open Time (Instant Moment)
open Time.Instant (Within)

namespace Cron.Schedule

/-- A whole second that shows only numbers of the fields. -/
def FiresAt (s : Schedule) (t : Instant) : Prop := t.nanos = 0 ∧ s.fields.fires t.moment = true

/-- If the schedule fires in a window, there is a time at which it does that the search from the start of the
window does not pass over. -/
def Reaches (s : Schedule) (since now : Instant) : Prop :=
  (∃ t, s.FiresAt t ∧ Within since now t) →
    ∃ t, s.FiresAt t ∧ Within since now t ∧ ¬s.fields.PassesOver since.succ.moment t.moment

variable {s : Schedule} {text : String} {since now : Instant}

/-- Moments not before the second after an instant are those whose second is later. -/
private theorem rank_succ {m : Moment} (valid : m.Valid) :
    since.succ.moment.rank ≤ m.rank ↔ since.seconds < m.toSeconds := by
  rw [← Moment.toSeconds_le_iff (Instant.valid_moment _) valid, Instant.toSeconds_moment, Instant.succ]
  exact Int.add_one_le_iff

/-- What is found is a time at which the schedule fires, and the first one that is not passed over. -/
theorem nextAfter?_finds (read : parse text = .ok s) (since : Instant) :
    (∀ t ∈ s.nextAfter? since, s.FiresAt t ∧ t.le since = false) ∧
    ∀ t, s.FiresAt t → t.le since = false → ¬s.fields.PassesOver since.succ.moment t.moment →
      ∃ first ∈ s.nextAfter? since, first.le t = true := by
  obtain ⟨sound, least⟩ := finds_firstFrom (proper_of_parse read) (Instant.valid_moment since.succ)
  constructor
  · intro t found
    obtain ⟨m, moment, rfl⟩ := Option.map_eq_some_iff.mp found
    obtain ⟨valid, fires, late⟩ := sound m moment
    refine ⟨⟨rfl, (Instant.moment_ofMoment valid).symm ▸ fires⟩, ?_⟩
    exact (Instant.late_of_whole rfl).mpr ((rank_succ valid).mp late)
  · rintro t ⟨whole, fires⟩ late unpassed
    have valid := t.valid_moment
    rw [Instant.late_of_whole whole, ← t.toSeconds_moment] at late
    obtain ⟨m, found, le⟩ := least t.moment ⟨valid, fires, (rank_succ valid).mpr late, unpassed⟩
    refine ⟨.ofMoment m, Option.map_eq_some_iff.mpr ⟨m, found, rfl⟩, ?_⟩
    rw [Instant.le_of_whole rfl, ← t.toSeconds_moment]
    exact (Moment.toSeconds_le_iff (sound m found).1 valid).mpr le

theorem isDue_iff_next : s.isDue since now = true ↔ ∃ t ∈ s.nextAfter? since, t.le now = true := by
  unfold isDue
  cases s.nextAfter? since <;> simp

/-- A schedule is due only if it fires. -/
theorem fires_of_isDue (read : parse text = .ok s) (due : s.isDue since now = true) :
    ∃ t, s.FiresAt t ∧ Within since now t := by
  obtain ⟨t, found, le⟩ := isDue_iff_next.mp due
  obtain ⟨fires, late⟩ := (nextAfter?_finds read since).1 t found
  exact ⟨t, fires, late, le⟩

theorem isDue_of_fires (read : parse text = .ok s) {t : Instant} (fires : s.FiresAt t)
    (within : Within since now t) (unpassed : ¬s.fields.PassesOver since.succ.moment t.moment) :
    s.isDue since now = true := by
  obtain ⟨first, found, le⟩ := (nextAfter?_finds read since).2 t fires within.1 unpassed
  exact isDue_iff_next.mpr ⟨first, found, Instant.le_trans le within.2⟩

theorem isDue_iff (read : parse text = .ok s) (reaches : s.Reaches since now) :
    s.isDue since now = true ↔ ∃ t, s.FiresAt t ∧ Within since now t := by
  refine ⟨fires_of_isDue read, fun fires => ?_⟩
  obtain ⟨t, fires, within, unpassed⟩ := reaches fires
  exact isDue_of_fires read fires within unpassed

/-- Nothing is passed over from a second in a year of the schedule. -/
theorem reaches_of_year (known : ∃ year ∈ s.fields.years, since.succ.moment.date.year = year)
    (now : Instant) : s.Reaches since now := by
  obtain ⟨year, known, same⟩ := known
  rintro ⟨t, fires, within⟩
  refine ⟨t, fires, within, ?_⟩
  rintro (early | ⟨later, least, -⟩)
  · omega
  · have := least year known (by omega)
    omega

section

variable {ends : Nat → Instant} {n : Nat}

theorem le_ends (ordered : ∀ k < n, (ends k).le (ends (k + 1)) = true) {k l : Nat} (le : k ≤ l) (last : l ≤ n) :
    (ends k).le (ends l) = true := by
  induction l, le using Nat.le_induction with
  | base => exact Instant.le_iff.mpr (.inr ⟨rfl, Nat.le_refl _⟩)
  | succ l _ ih => exact Instant.le_trans (ih (by omega)) (ordered l (by omega))

/-- What lies between the ends of a chain of windows lies in one of them. -/
theorem within_chain (ordered : ∀ k < n, (ends k).le (ends (k + 1)) = true) {t : Instant} :
    Within (ends 0) (ends n) t ↔ ∃ k < n, Within (ends k) (ends (k + 1)) t := by
  induction n with
  | zero =>
    refine ⟨fun ⟨late, inside⟩ => absurd inside (by simp [late]), ?_⟩
    rintro ⟨k, lt, -⟩
    exact absurd lt (Nat.not_lt_zero k)
  | succ n ih =>
    have shorter : ∀ k < n, (ends k).le (ends (k + 1)) = true := fun k lt => ordered k (by omega)
    rw [Instant.within_split (le_ends shorter (Nat.zero_le n) (Nat.le_refl n)) (ordered n (by omega)),
      ih shorter, Nat.exists_lt_succ_right]

/-- Two windows of a chain have nothing in common. -/
theorem eq_of_within (ordered : ∀ k < n, (ends k).le (ends (k + 1)) = true) {t : Instant} {k l : Nat}
    (lt : k < n) (lt' : l < n) (within : Within (ends k) (ends (k + 1)) t)
    (within' : Within (ends l) (ends (l + 1)) t) : k = l := by
  have apart {k l : Nat} (lt' : l < n) (inside : t.le (ends (k + 1)) = true) (late : t.le (ends l) = false) :
      ¬k < l := fun lt => by
    have le := Instant.le_trans inside (le_ends ordered lt (Nat.le_of_lt lt'))
    simp [late] at le
  have := apart lt' within.2 within'.1
  have := apart lt within'.2 within.1
  omega

/-- Over a chain of windows a schedule is due in one of them if it fires between the ends. -/
theorem isDue_chain (read : parse text = .ok s) (ordered : ∀ k < n, (ends k).le (ends (k + 1)) = true)
    (reaches : ∀ k < n, s.Reaches (ends k) (ends (k + 1))) :
    (∃ k < n, s.isDue (ends k) (ends (k + 1)) = true) ↔
      ∃ t, s.FiresAt t ∧ Within (ends 0) (ends n) t := by
  constructor
  · rintro ⟨k, lt, due⟩
    obtain ⟨t, fires, within⟩ := fires_of_isDue read due
    exact ⟨t, fires, (within_chain ordered).mpr ⟨k, lt, within⟩⟩
  · rintro ⟨t, fires, within⟩
    obtain ⟨k, lt, within⟩ := (within_chain ordered).mp within
    exact ⟨k, lt, (isDue_iff read (reaches k lt)).mpr ⟨t, fires, within⟩⟩

/-- A schedule is due in no more windows of a chain than it has firing times. -/
theorem encard_isDue_le (read : parse text = .ok s)
    (ordered : ∀ k < n, (ends k).le (ends (k + 1)) = true) :
    {k | k < n ∧ s.isDue (ends k) (ends (k + 1)) = true}.encard ≤
      {t | s.FiresAt t ∧ Within (ends 0) (ends n) t}.encard := by
  have fires (k : Nat) : ∃ t, s.isDue (ends k) (ends (k + 1)) = true →
      s.FiresAt t ∧ Within (ends k) (ends (k + 1)) t := by
    by_cases due : s.isDue (ends k) (ends (k + 1)) = true
    · obtain ⟨t, fires⟩ := fires_of_isDue read due
      exact ⟨t, fun _ => fires⟩
    · exact ⟨⟨0, 0⟩, fun now => absurd now due⟩
  choose time fires using fires
  refine Set.encard_le_encard_of_injOn (f := time) ?_ ?_
  · rintro k ⟨lt, due⟩
    exact ⟨(fires k due).1, (within_chain ordered).mpr ⟨k, lt, (fires k due).2⟩⟩
  · rintro k ⟨lt, due⟩ l ⟨lt', due'⟩ same
    exact eq_of_within ordered lt lt' (fires k due).2 (same ▸ (fires l due').2)

end

/-- A schedule is due in a window if it is in one of its two parts. -/
theorem isDue_split (read : parse text = .ok s) {a b c : Instant} (ab : a.le b = true) (bc : b.le c = true)
    (first : s.Reaches a b) (second : s.Reaches b c) (whole : s.Reaches a c) :
    s.isDue a c = true ↔ s.isDue a b = true ∨ s.isDue b c = true := by
  rw [isDue_iff read whole, isDue_iff read first, isDue_iff read second, ← exists_or]
  exact exists_congr fun t => by rw [Instant.within_split ab bc, and_or_left]

/-- The firing time that is found after so many others. -/
def fireTime? (s : Schedule) (after : Instant) : Nat → Option Instant
  | 0 => s.nextAfter? after
  | n + 1 => (s.fireTime? after n).bind s.nextAfter?

/-- In ascending order and without gaps, exactly the instants with a property are found. -/
structure Enumerates (s : Schedule) (after : Instant) (wanted : Instant → Prop) : Prop where
  ascending : ∀ m n t t', m < n → s.fireTime? after m = some t → s.fireTime? after n = some t' →
    t'.le t = false
  found_iff : ∀ t, (∃ n, s.fireTime? after n = some t) ↔ wanted t

theorem Enumerates.congr {s : Schedule} {after : Instant} {wanted wanted' : Instant → Prop}
    (h : s.Enumerates after wanted) (same : ∀ t, wanted t ↔ wanted' t) : s.Enumerates after wanted' :=
  ⟨h.ascending, fun t => (h.found_iff t).trans (same t)⟩

section

variable {after t t' u : Instant}

/-- A search that begins in 1970 or later passes over nothing if the schedule is one for all years. -/
theorem not_passesOver (years : s.fields.years = TimeUnit.year.all) (recent : 0 ≤ since.succ.seconds)
    (fires : s.FiresAt t) : ¬s.fields.PassesOver since.succ.moment t.moment := by
  have start := Instant.year_of_nonneg recent
  have mem_years (year : Nat) : year ∈ s.fields.years ↔ 1970 ≤ year ∧ year < 2101 := by
    rw [years]
    exact List.mem_range'_1
  obtain ⟨⟨year, known, same⟩, -⟩ := (Fields.fires_iff t.valid_moment).mp fires.2
  have last := ((mem_years year).mp known).2
  rintro (early | ⟨later, least, -⟩)
  · omega
  · -- the year of the start is one of the schedule, so the search begins in it
    have here : since.succ.moment.date.year.toNat ∈ s.fields.years := (mem_years _).mpr (by omega)
    have := least _ here (by omega)
    omega

variable (read : parse text = .ok s) (years : s.fields.years = TimeUnit.year.all)
include read

theorem fires_of_fireTime {n : Nat} (found : s.fireTime? after n = some t) :
    s.FiresAt t ∧ t.le after = false := by
  induction n generalizing t with
  | zero => exact (nextAfter?_finds read after).1 t found
  | succ n ih =>
    obtain ⟨before, found, next⟩ := Option.bind_eq_some_iff.mp found
    obtain ⟨fires, late⟩ := (nextAfter?_finds read before).1 t next
    exact ⟨fires, Instant.late_trans (ih found).2 late⟩

theorem fireTimes_ascend {m n : Nat} (lt : m < n) (found : s.fireTime? after m = some t)
    (found' : s.fireTime? after n = some t') : t'.le t = false := by
  induction n, lt using Nat.le_induction generalizing t' with
  | base =>
    obtain ⟨before, same, next⟩ := Option.bind_eq_some_iff.mp found'
    cases found.symm.trans same
    exact ((nextAfter?_finds read t).1 t' next).2
  | succ n _ ih =>
    obtain ⟨before, same, next⟩ := Option.bind_eq_some_iff.mp found'
    exact Instant.late_trans (ih same) ((nextAfter?_finds read before).1 t' next).2

include years

/-- One step towards a firing time: it is found next, or something before it is. -/
theorem next_or_before (recent : 0 ≤ since.succ.seconds) (fires : s.FiresAt t)
    (late : t.le since = false) : s.nextAfter? since = some t ∨
      ∃ first, s.nextAfter? since = some first ∧ first.le since = false ∧ t.le first = false := by
  obtain ⟨sound, least⟩ := nextAfter?_finds read since
  obtain ⟨first, found, le⟩ := least t fires late (not_passesOver years recent fires)
  obtain ⟨fires', late'⟩ := sound first found
  rcases Instant.eq_or_late fires'.1 fires.1 le with rfl | before
  · exact .inl found
  · exact .inr ⟨first, found, late', before⟩

/-- What fires later than something that is found is found itself: with each step on the way there are
fewer seconds left. -/
theorem found_of_later (recent : 0 ≤ after.succ.seconds) (fires : s.FiresAt t) {n : Nat}
    (found : s.fireTime? after n = some u) (late : t.le u = false) :
    ∃ m, s.fireTime? after m = some t := by
  induction left : (t.seconds - u.seconds).toNat using Nat.strong_induction_on generalizing n u with
  | _ left ih =>
    subst left
    obtain ⟨fires', late'⟩ := fires_of_fireTime read found
    have further : 0 ≤ u.succ.seconds := by
      rw [Instant.late_of_whole fires'.1] at late'
      simp only [Instant.succ] at recent ⊢
      omega
    rcases next_or_before read years further fires late with next | ⟨first, next, after', before⟩
    · exact ⟨n + 1, Option.bind_eq_some_iff.mpr ⟨u, found, next⟩⟩
    · have found' : s.fireTime? after (n + 1) = some first :=
        Option.bind_eq_some_iff.mpr ⟨u, found, next⟩
      refine ih _ ?_ found' before rfl
      have whole := (fires_of_fireTime read found').1.1
      rw [Instant.late_of_whole whole] at after'
      rw [Instant.late_of_whole fires.1] at before
      omega

/-- From 1970 on all times at which the schedule fires come up, in order. -/
theorem enumerates_fires (recent : 0 ≤ after.succ.seconds) :
    s.Enumerates after fun t => t.le after = false ∧ s.FiresAt t := by
  refine ⟨fun m n t t' lt found found' => fireTimes_ascend read lt found found', fun t => ⟨?_, ?_⟩⟩
  · rintro ⟨n, found⟩
    exact (fires_of_fireTime read found).symm
  · rintro ⟨late, fires⟩
    rcases next_or_before read years recent fires late with next | ⟨first, next, -, before⟩
    · exact ⟨0, next⟩
    · exact found_of_later read years recent fires (n := 0) next before

end

end Cron.Schedule
end Automation
