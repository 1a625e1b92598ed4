import Automation.Proofs.Time.Rfc3339

/-!
The order of moments: of two moments the later one is ahead in the first of year, month, day and time of day
in which they differ, and it has the later second.
-/
namespace Automation.Time

theorem daysBeforeYear_mono {year later : Int} (le : year ≤ later) :
    daysBeforeYear year ≤ daysBeforeYear later := by
  refine Int.leInduction (Int.le_refl _) (fun n _ ih => ?_) later le
  rw [daysBeforeYear_succ]
  split <;> omega

/-- Days of the months of a year before one of them. -/
def daysBeforeMonth (year : Int) (month : Nat) : Nat := ((monthLengths year).take (month - 1)).sum

theorem daysBeforeMonth_mono (year : Int) {month later : Nat} (le : month ≤ later) :
    daysBeforeMonth year month ≤ daysBeforeMonth year later :=
  (List.take_sublist_take_left (Nat.sub_le_sub_right le 1)).sum_le_sum fun _ _ => Nat.zero_le _

theorem daysBeforeMonth_le (year : Int) (month : Nat) :
    daysBeforeMonth year month ≤ if isLeapYear year then 366 else 365 :=
  sum_monthLengths year ▸ (List.take_sublist ..).sum_le_sum fun _ _ => Nat.zero_le _

namespace Date

theorem month_of_isValid {d : Date} (h : d.isValid) : 1 ≤ d.month ∧ d.month ≤ 12 := by
  simp only [isValid, Bool.and_eq_true, decide_eq_true_eq] at h
  by_contra outside
  have nothing : daysInMonth d.year d.month = 0 := by
    unfold daysInMonth
    split
    · rfl
    · rw [List.getElem?_eq_none (show 12 ≤ d.month - 1 by omega)]
      rfl
  omega

theorem day_of_isValid {d : Date} (h : d.isValid) : 1 ≤ d.day ∧ d.day ≤ daysInMonth d.year d.month := by
  simpa [isValid] using h

theorem daysBeforeMonth_succ {d : Date} (h : d.isValid) : daysBeforeMonth d.year (d.month + 1) =
    daysBeforeMonth d.year d.month + daysInMonth d.year d.month := by
  obtain ⟨first, last⟩ := month_of_isValid h
  have inside : d.month - 1 < (monthLengths d.year).length := by
    change d.month - 1 < 12
    omega
  have next : d.month + 1 - 1 = d.month - 1 + 1 := by omega
  rw [daysBeforeMonth, next, List.sum_take_succ _ _ inside, daysInMonth, if_neg (by omega),
    List.getElem?_eq_getElem inside]
  rfl

theorem daysInMonth_le (year : Int) (month : Nat) : daysInMonth year month ≤ 31 := by
  have lengths : ∀ length ∈ monthLengths year, length ≤ 31 := by
    unfold monthLengths
    split <;> decide
  unfold daysInMonth
  split
  · decide
  · cases found : (monthLengths year)[month - 1]? with
    | none => decide
    | some length => exact lengths length (List.mem_of_getElem? found)

theorem toDays_eq (d : Date) :
    d.toDays = daysBeforeYear d.year + daysBeforeMonth d.year d.month + d.day - 1 - epochDay := by
  rw [toDays, daysBeforeMonth, ← List.sum_eq_foldl]

/-- A date lies in its year. -/
theorem toDays_bounds {d : Date} (h : d.isValid) : daysBeforeYear d.year ≤ d.toDays + epochDay ∧
    d.toDays + epochDay < daysBeforeYear (d.year + 1) := by
  have day := day_of_isValid h
  have last := daysBeforeMonth_le d.year (d.month + 1)
  rw [daysBeforeMonth_succ h] at last
  rw [toDays_eq, daysBeforeYear_succ]
  split <;> simp_all <;> omega

/-- The first of year, month and day in which two dates differ tells which one is later. -/
theorem toDays_lt {d later : Date} (h : d.isValid) (h' : later.isValid)
    (lt : d.year < later.year ∨ d.year = later.year ∧
      (d.month < later.month ∨ d.month = later.month ∧ d.day < later.day)) : d.toDays < later.toDays := by
  rcases lt with year | ⟨year, month | ⟨month, day⟩⟩
  · have mono : daysBeforeYear (d.year + 1) ≤ daysBeforeYear later.year := daysBeforeYear_mono (by omega)
    have := toDays_bounds h
    have := toDays_bounds h'
    omega
  · have mono : daysBeforeMonth d.year (d.month + 1) ≤ daysBeforeMonth d.year later.month :=
      daysBeforeMonth_mono _ (by omega)
    have := day_of_isValid h
    have := day_of_isValid h'
    rw [daysBeforeMonth_succ h] at mono
    rw [toDays_eq, toDays_eq, ← year]
    omega
  · rw [toDays_eq, toDays_eq, ← year, ← month]
    omega

end Date

namespace Moment

/-- The date exists, and the time is one of a day. -/
structure Valid (m : Moment) : Prop where
  date : m.date.isValid
  hour : m.hour ≤ 23
  minute : m.minute ≤ 59
  second : m.second ≤ 59

/-- Seconds into the day. -/
def clock (m : Moment) : Nat := m.hour * 3600 + m.minute * 60 + m.second

/-- A number that grows with the moments of a month. -/
def withinMonth (m : Moment) : Nat := m.date.day * 86400 + m.clock

/-- A number that grows with the moments of a year: no month has 32 days. -/
def withinYear (m : Moment) : Nat := m.date.month * 2764800 + m.withinMonth

/-- A number that grows with a moment: no year has 13 months. -/
def rank (m : Moment) : Int := m.date.year * 35942400 + m.withinYear

variable {m later : Moment}

theorem Valid.clock_lt (h : m.Valid) : m.clock < 86400 := by
  obtain ⟨-, hour, minute, second⟩ := h
  unfold clock
  omega

theorem Valid.withinMonth_lt (h : m.Valid) : m.withinMonth < 2764800 := by
  have := h.clock_lt
  have := (Date.day_of_isValid h.date).2.trans (Date.daysInMonth_le ..)
  unfold withinMonth
  omega

theorem Valid.withinYear_lt (h : m.Valid) : m.withinYear < 35942400 := by
  have := h.withinMonth_lt
  have := Date.month_of_isValid h.date
  unfold withinYear
  omega

theorem toSeconds_eq (m : Moment) : m.toSeconds = m.date.toDays * 86400 + m.clock := by
  unfold toSeconds clock
  omega

private theorem toSeconds_lt (h : m.Valid) (h' : later.Valid) (lt : m.rank < later.rank) :
    m.toSeconds < later.toSeconds := by
  have := h.clock_lt
  have := h'.clock_lt
  have := h.withinMonth_lt
  have := h'.withinMonth_lt
  have := h.withinYear_lt
  have := h'.withinYear_lt
  simp only [rank, withinYear, withinMonth] at *
  rw [toSeconds_eq, toSeconds_eq]
  by_cases same : m.date = later.date
  · rw [same] at lt ⊢
    omega
  · have apart : m.date.year ≠ later.date.year ∨ m.date.month ≠ later.date.month ∨
        m.date.day ≠ later.date.day := by
      by_contra none
      simp only [not_or, not_not] at none
      exact same (by rcases m with ⟨⟨⟩⟩; rcases later with ⟨⟨⟩⟩; simp_all)
    have days := Date.toDays_lt h.date h'.date (by omega)
    omega

theorem ext_of_rank (h : m.Valid) (h' : later.Valid) (same : m.rank = later.rank) : m = later := by
  have := h.withinMonth_lt
  have := h'.withinMonth_lt
  have := h.withinYear_lt
  have := h'.withinYear_lt
  obtain ⟨-, hour, minute, second⟩ := h
  obtain ⟨-, hour', minute', second'⟩ := h'
  rcases m with ⟨⟨⟩⟩
  rcases later with ⟨⟨⟩⟩
  simp only [rank, withinYear, withinMonth, clock, mk.injEq, Date.mk.injEq] at *
  omega

theorem toSeconds_lt_iff (h : m.Valid) (h' : later.Valid) :
    m.toSeconds < later.toSeconds ↔ m.rank < later.rank := by
  refine ⟨fun lt => ?_, toSeconds_lt h h'⟩
  by_contra le
  rcases Int.lt_or_eq_of_le (Int.not_lt.mp le) with gt | same
  · exact absurd (toSeconds_lt h' h gt) (by omega)
  · rw [ext_of_rank h' h same] at lt
    exact Int.lt_irrefl _ lt

theorem toSeconds_le_iff (h : m.Valid) (h' : later.Valid) :
    m.toSeconds ≤ later.toSeconds ↔ m.rank ≤ later.rank := by
  rw [← Int.not_lt, ← Int.not_lt, toSeconds_lt_iff h' h]

end Moment

namespace Instant

theorem valid_moment (t : Instant) : t.moment.Valid :=
  ⟨Date.isValid_ofDays _, t.moment_bounds.1, t.moment_bounds.2.1, t.moment_bounds.2.2⟩

theorem moment_ofMoment {m : Moment} (h : m.Valid) : (ofMoment m).moment = m := by
  have same := (ofMoment m).toSeconds_moment
  refine Moment.ext_of_rank (valid_moment _) h (le_antisymm ?_ ?_)
  · exact (Moment.toSeconds_le_iff (valid_moment _) h).mp (le_of_eq same)
  · exact (Moment.toSeconds_le_iff h (valid_moment _)).mp (le_of_eq same.symm)

/-- A time that can be written has milliseconds that fit into 64 bits. -/
theorem Representable.toMilliseconds_bounds {t : Instant} (h : t.Representable) :
    -0x8000000000000000 ≤ t.toMilliseconds ∧ t.toMilliseconds < 0x8000000000000000 := by
  obtain ⟨year, nanos⟩ := h
  have days := Date.toDays_bounds (Date.isValid_ofDays (t.seconds / 86400))
  rw [Date.toDays_ofDays] at days
  have same : t.moment.date = Date.ofDays (t.seconds / 86400) := rfl
  rw [← same] at days
  simp only [Rfc3339.yearInRange, Bool.and_eq_true, decide_eq_true_eq] at year
  simp only [daysBeforeYear, epochDay] at days
  unfold toMilliseconds
  omega

end Instant
end Automation.Time
