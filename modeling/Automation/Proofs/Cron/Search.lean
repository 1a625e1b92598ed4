import Automation.Proofs.Cron.Reading
import Automation.Proofs.Time.Moments

/-!
The search for the next moment at which a schedule fires, one unit of time inside the other. It finds a
moment that is not before the start, and none that it may not pass over comes before it.
-/
namespace Automation.Cron

open Time (Moment Date)

/-- What is found is wanted, and nothing that is needed comes before it. -/
structure Finds (wanted needed : Moment → Prop) (found : Option Moment) : Prop where
  sound : ∀ m ∈ found, wanted m
  least : ∀ m, needed m → ∃ first ∈ found, first.rank ≤ m.rank

namespace Finds

variable {wanted needed wanted' needed' : Moment → Prop} {found : Option Moment}

theorem mono (h : Finds wanted needed found) (weaker : ∀ m, wanted m → wanted' m)
    (fewer : ∀ m, needed' m → needed m) : Finds wanted' needed' found :=
  ⟨fun m known => weaker m (h.sound m known), fun m must => h.least m (fewer m must)⟩

theorem nothing (none : ∀ m, ¬needed m) : Finds wanted needed .none :=
  ⟨nofun, fun m must => absurd must (none m)⟩

/-- Numbers are tried in ascending order, and what is found for a smaller one comes first. -/
theorem findSome? {numbers : List Nat} {wanted needed : Nat → Moment → Prop}
    {visit : Nat → Option Moment} (ascending : numbers.Pairwise (· < ·))
    (each : ∀ n ∈ numbers, Finds (wanted n) (needed n) (visit n))
    (ordered : ∀ n n' m m', n < n' → wanted n m → needed n' m' → m.rank ≤ m'.rank) :
    Finds (fun m => ∃ n ∈ numbers, wanted n m) (fun m => ∃ n ∈ numbers, needed n m)
      (numbers.findSome? visit) := by
  induction numbers with
  | nil => exact nothing nofun
  | cons n rest ih =>
    rw [List.pairwise_cons] at ascending
    rw [List.forall_mem_cons] at each
    have later := ih ascending.2 each.2
    rw [List.findSome?_cons]
    cases found : visit n with
    | none =>
      refine later.mono (fun m ⟨n, known, h⟩ => ⟨n, .tail _ known, h⟩) fun m ⟨n', known, must⟩ => ?_
      rcases List.mem_cons.mp known with rfl | known
      · obtain ⟨first, none, -⟩ := each.1.least m must
        rw [found] at none
        cases none
      · exact ⟨n', known, must⟩
    | some first =>
      have sound : wanted n first := each.1.sound first found
      refine ⟨fun m same => ?_, fun m ⟨n', known, must⟩ => ⟨first, rfl, ?_⟩⟩
      · cases same
        exact ⟨n, .head _, sound⟩
      · rcases List.mem_cons.mp known with rfl | known
        · obtain ⟨other, same, le⟩ := each.1.least m must
          cases found.symm.trans same
          exact le
        · exact ordered n n' first m (ascending.1 n' known) sound must

end Finds

namespace Schedule

variable {numbers : List Nat} {start : Nat} {bounded : Bool}

theorem firstOf_eq {visit : Bool → Nat → Option Moment} (flag : Nat → Bool)
    (first : ∀ n rest, numbers = n :: rest → flag n = bounded ∧ ∀ n' ∈ rest, flag n' = false) :
    firstOf numbers bounded visit = numbers.findSome? fun n => visit (flag n) n := by
  cases numbers with
  | nil => rfl
  | cons n rest =>
    obtain ⟨here, later⟩ := first n rest rfl
    have same : rest.findSome? (visit false) = rest.findSome? fun n => visit (flag n) n := by
      rw [← List.head?_filterMap, ← List.head?_filterMap]
      exact congrArg _ (List.filterMap_congr fun n' known => by rw [later n' known])
    rw [firstOf, List.findSome?_cons, here, same]
    cases visit bounded n <;> rfl

/-- Only the first number is visited with the bound. -/
theorem firstOf_eq_head {visit : Bool → Nat → Option Moment} (ascending : numbers.Pairwise (· < ·)) :
    firstOf numbers true visit = numbers.findSome? fun n => visit (numbers.head? == some n) n := by
  refine firstOf_eq (numbers.head? == some ·) fun n rest split => ?_
  subst split
  refine ⟨by simp, fun n' known => ?_⟩
  rw [List.head?_cons, beq_eq_false_iff_ne]
  exact fun same => Nat.ne_of_lt (List.rel_of_pairwise_cons ascending known) (Option.some.inj same)

theorem least_of_head {n : Nat} (ascending : numbers.Pairwise (· < ·)) (head : numbers.head? = some n) :
    n ∈ numbers ∧ ∀ n' ∈ numbers, n ≤ n' := by
  obtain ⟨rest, rfl⟩ := List.head?_eq_some_iff.mp head
  refine ⟨List.mem_cons_self, List.forall_mem_cons.mpr ⟨Nat.le_refl n, fun n' known => ?_⟩⟩
  exact Nat.le_of_lt (List.rel_of_pairwise_cons ascending known)

/-- Only at the number of the start is a bounded search bounded further on. -/
theorem search_eq {visit : Bool → Nat → Option Moment} (ascending : numbers.Pairwise (· < ·)) :
    search numbers start bounded visit = (numbers.filter fun n => !bounded || start ≤ n).findSome?
      fun n => visit (bounded && n == start) n := by
  unfold search
  cases bounded with
  | false => simp
  | true =>
    simp only [Bool.not_true, Bool.false_or, Bool.true_and, if_true]
    refine firstOf_eq (· == start) fun n rest split => ?_
    have ascending := ascending.filter (start ≤ ·)
    have least : ∀ n' ∈ numbers.filter (start ≤ ·), start ≤ n' := by simp
    rw [split, List.pairwise_cons] at ascending
    rw [split, List.forall_mem_cons] at least
    have later : ∀ n' ∈ rest, (n' == start) = false := by
      intro n' known
      have := ascending.1 n' known
      rw [beq_eq_false_iff_ne]
      omega
    refine ⟨?_, later⟩
    rw [Bool.eq_iff_iff, beq_iff_eq, List.contains_iff_mem]
    constructor
    · rintro rfl
      exact (List.mem_filter.mp (split ▸ List.mem_cons_self)).1
    · intro known
      have here : start ∈ n :: rest := split ▸ List.mem_filter.mpr ⟨known, by simp⟩
      rcases List.mem_cons.mp here with same | there
      · exact same.symm
      · exact absurd (later start there) (by simp)

end Schedule

open Schedule

/-- One unit of a search, the smaller units being searched as they are. -/
theorem Finds.search {numbers : List Nat} (start : Nat) (bounded : Bool)
    {wanted needed : Bool → Nat → Moment → Prop} {visit : Bool → Nat → Option Moment}
    (ascending : numbers.Pairwise (· < ·))
    (each : ∀ n ∈ numbers, ∀ bounded, Finds (wanted bounded n) (needed bounded n) (visit bounded n))
    (ordered : ∀ n n' b b' m m', n < n' → wanted b n m → needed b' n' m' → m.rank ≤ m'.rank) :
    Finds (fun m => ∃ n ∈ numbers, (bounded → start ≤ n) ∧ wanted (bounded && n == start) n m)
      (fun m => ∃ n ∈ numbers, (bounded → start ≤ n) ∧ needed (bounded && n == start) n m)
      (search numbers start bounded visit) := by
  rw [search_eq ascending]
  have bounds : ∀ n ∈ numbers.filter fun n => !bounded || start ≤ n,
      Finds (wanted (bounded && n == start) n) (needed (bounded && n == start) n)
        (visit (bounded && n == start) n) :=
    fun n known => each n (List.mem_filter.mp known).1 _
  have found := Finds.findSome? (ascending.filter _) bounds
    fun n n' m m' lt h h' => ordered n n' _ _ m m' lt h h'
  have inside (n : Nat) : (!bounded || decide (start ≤ n)) = true ↔ (bounded = true → start ≤ n) := by
    cases bounded <;> simp
  simpa only [List.mem_filter, inside, and_assoc] using found

/-- A bound for numbers of two units: the larger one decides, and if it is met the smaller one does. -/
private theorem bound_iff {bounded : Bool} {least n least' n' size : Nat} (small : least' < size)
    (small' : n' < size) : ((bounded → least ≤ n) ∧ ((bounded && n == least) → least' ≤ n')) ↔
      (bounded → least * size + least' ≤ n * size + n') := by
  cases bounded with
  | false => simp
  | true =>
    simp only [Bool.true_and, true_imp_iff, beq_iff_eq]
    rcases Nat.lt_trichotomy least n with lt | rfl | gt
    · have := Nat.mul_le_mul_right size lt
      rw [Nat.succ_mul] at this
      omega
    · omega
    · have := Nat.mul_le_mul_right size gt
      rw [Nat.succ_mul] at this
      omega

section

variable {f : Fields} {start : Moment}

/-- The time of day is one of those of the fields. -/
structure AtTime (f : Fields) (m : Moment) : Prop where
  hour : m.hour ∈ f.hours
  minute : m.minute ∈ f.minutes
  second : m.second ∈ f.seconds

theorem AtTime.bounds {m : Moment} (h : AtTime f m) (proper : f.Proper) :
    m.hour ≤ 23 ∧ m.minute ≤ 59 ∧ m.second ≤ 59 :=
  ⟨(proper.hours.within _ h.hour).2, (proper.minutes.within _ h.minute).2,
    (proper.seconds.within _ h.second).2⟩

private theorem finds_seconds (start : Moment) (proper : f.Proper) (date : Date) (hour minute : Nat)
    (bounded : Bool) :
    let wanted (m : Moment) := m.date = date ∧ m.hour = hour ∧ m.minute = minute ∧
      m.second ∈ f.seconds ∧ (bounded → start.second ≤ m.second)
    Finds wanted wanted
      (search f.seconds start.second bounded fun _ second => some ⟨date, hour, minute, second⟩) := by
  have each : ∀ n ∈ f.seconds, ∀ _ : Bool, Finds (fun m => m = ⟨date, hour, minute, n⟩)
      (fun m => m = ⟨date, hour, minute, n⟩) (some ⟨date, hour, minute, n⟩) := fun n _ _ =>
    ⟨fun m same => (Option.some.inj same).symm, fun m same => ⟨_, rfl, le_of_eq (same ▸ rfl)⟩⟩
  have found := Finds.search start.second bounded proper.seconds.ascending each
    (fun n n' _ _ m m' lt same same' => by
      subst same same'
      simp only [Moment.rank, Moment.withinYear, Moment.withinMonth, Moment.clock]
      omega)
  refine found.mono ?_ ?_
  · rintro _ ⟨n, known, le, rfl⟩
    exact ⟨rfl, rfl, rfl, known, le⟩
  · rintro ⟨_, _, _, n⟩ ⟨rfl, rfl, rfl, known, le⟩
    exact ⟨n, known, le, rfl⟩

private theorem finds_minutes (proper : f.Proper) (valid : start.Valid) (date : Date) (hour : Nat)
    (bounded : Bool) :
    let wanted (m : Moment) := m.date = date ∧ m.hour = hour ∧ m.minute ∈ f.minutes ∧
      m.second ∈ f.seconds ∧
      (bounded → start.minute * 60 + start.second ≤ m.minute * 60 + m.second)
    Finds wanted wanted (search f.minutes start.minute bounded fun bounded minute =>
      search f.seconds start.second bounded fun _ second => some ⟨date, hour, minute, second⟩) := by
  have below {m : Moment} (second : m.second ∈ f.seconds) : m.second < 60 :=
    Nat.lt_succ_of_le (proper.seconds.within _ second).2
  have start_below : start.second < 60 := Nat.lt_succ_of_le valid.second
  have found := Finds.search start.minute bounded proper.minutes.ascending
    (fun n _ bounded => finds_seconds start proper date hour n bounded)
    (fun n n' _ _ m m' lt ⟨date, hour, minute, second, _⟩ ⟨date', hour', minute', second', _⟩ => by
      have := below second
      simp only [Moment.rank, Moment.withinYear, Moment.withinMonth, Moment.clock, date, date', hour, hour',
        minute, minute']
      omega)
  refine found.mono ?_ ?_
  · rintro m ⟨n, known, le, date, hour, rfl, second, le'⟩
    exact ⟨date, hour, known, second, (bound_iff start_below (below second)).mp ⟨le, le'⟩⟩
  · rintro m ⟨date, hour, minute, second, le⟩
    obtain ⟨le, le'⟩ := (bound_iff start_below (below second)).mpr le
    exact ⟨m.minute, minute, le, date, hour, rfl, second, le'⟩

/-- The times of one day, from that of the start on if the search is bounded. -/
theorem finds_searchDay (proper : f.Proper) (valid : start.Valid) (date : Date) (bounded : Bool) :
    let wanted (m : Moment) := m.date = date ∧ date.weekday ∈ f.daysOfWeek ∧ AtTime f m ∧
      (bounded → start.clock ≤ m.clock)
    Finds wanted wanted (searchDay f start date bounded) := by
  intro wanted
  unfold searchDay
  by_cases weekday : date.weekday ∈ f.daysOfWeek
  swap
  · rw [if_pos (by simpa using weekday)]
    exact .nothing fun m h => weekday h.2.1
  rw [if_neg (by simpa using weekday)]
  have below {m : Moment} (minute : m.minute ∈ f.minutes) (second : m.second ∈ f.seconds) :
      m.minute * 60 + m.second < 3600 := by
    have minutes : m.minute ≤ 59 := (proper.minutes.within _ minute).2
    have seconds : m.second ≤ 59 := (proper.seconds.within _ second).2
    omega
  have start_below : start.minute * 60 + start.second < 3600 := by
    have := valid.minute
    have := valid.second
    omega
  have clock_eq (m : Moment) : m.clock = m.hour * 3600 + (m.minute * 60 + m.second) := Nat.add_assoc ..
  have found := Finds.search start.hour bounded proper.hours.ascending
    (fun n _ bounded => finds_minutes proper valid date n bounded)
    (fun n n' _ _ m m' lt ⟨date, hour, minute, second, _⟩ ⟨date', hour', _⟩ => by
      have := below minute second
      simp only [Moment.rank, Moment.withinYear, Moment.withinMonth, clock_eq, date, date', hour, hour']
      omega)
  refine found.mono ?_ ?_
  · rintro m ⟨n, known, le, date, rfl, minute, second, le'⟩
    refine ⟨date, weekday, ⟨known, minute, second⟩, ?_⟩
    rw [clock_eq, clock_eq]
    exact (bound_iff start_below (below minute second)).mp ⟨le, le'⟩
  · rintro m ⟨date, -, ⟨hour, minute, second⟩, le⟩
    rw [clock_eq, clock_eq] at le
    obtain ⟨le, le'⟩ := (bound_iff start_below (below minute second)).mpr le
    exact ⟨m.hour, hour, le, date, rfl, minute, second, le'⟩

/-- The day and the time are of the fields, and the date exists. -/
structure OnDay (f : Fields) (m : Moment) : Prop where
  date : m.date.isValid
  day : m.date.day ∈ f.daysOfMonth
  weekday : m.date.weekday ∈ f.daysOfWeek
  time : AtTime f m

theorem OnDay.valid {m : Moment} (h : OnDay f m) (proper : f.Proper) : m.Valid :=
  ⟨h.date, (h.time.bounds proper).1, (h.time.bounds proper).2.1, (h.time.bounds proper).2.2⟩

theorem mem_firstOf {numbers : List Nat} {bounded : Bool} {visit : Bool → Nat → Option Moment} {m : Moment}
    (found : m ∈ firstOf numbers bounded visit) : ∃ n ∈ numbers, ∃ bounded, m ∈ visit bounded n := by
  cases numbers with
  | nil => cases found
  | cons n rest =>
    rw [firstOf] at found
    cases here : visit bounded n with
    | some first =>
      rw [here] at found
      exact ⟨n, .head _, bounded, here.trans found⟩
    | none =>
      rw [here] at found
      obtain ⟨n, known, found⟩ := List.exists_of_findSome?_eq_some found
      exact ⟨n, .tail _ known, false, found⟩

/-- The moments of a month whose day and time are of the fields: their days are those that the month has. -/
theorem onDay_iff (proper : f.Proper) {year month : Nat} {m : Moment} :
    m.date.year = year ∧ m.date.month = month ∧ OnDay f m ↔
      ∃ n ∈ f.daysOfMonth.filter (· ≤ Time.daysInMonth year month), m.date = ⟨year, month, n⟩ ∧
        (Date.mk year month n).weekday ∈ f.daysOfWeek ∧ AtTime f m := by
  constructor
  · rintro ⟨at_year, at_month, on⟩
    have date : m.date = ⟨year, month, m.date.day⟩ := by rw [← at_year, ← at_month]
    have le := (Date.day_of_isValid on.date).2
    rw [at_year, at_month] at le
    exact ⟨m.date.day, List.mem_filter.mpr ⟨on.day, decide_eq_true le⟩, date, date ▸ on.weekday, on.time⟩
  · rintro ⟨n, inside, date, weekday, time⟩
    obtain ⟨day, le⟩ := List.mem_filter.mp inside
    have least : 1 ≤ n := (proper.daysOfMonth.within n day).1
    refine ⟨by rw [date], by rw [date], ?_, by rwa [date], by rwa [date], time⟩
    simp only [date, Date.isValid, Bool.and_eq_true, decide_eq_true_eq]
    exact ⟨least, by simpa using le⟩

/-- Unless its start has a day that the month has not, the days of a month are searched as any other unit. -/
theorem searchMonth_eq {year month : Nat} {bounded : Bool}
    (short : bounded → start.date.day ≤ Time.daysInMonth year month) :
    searchMonth f start year month bounded =
      search (f.daysOfMonth.filter (· ≤ Time.daysInMonth year month)) start.date.day bounded
        fun bounded day => searchDay f start ⟨year, month, day⟩ bounded := by
  unfold searchMonth search
  cases bounded with
  | false => rfl
  | true =>
    have first : min start.date.day (Time.daysInMonth year month) = start.date.day :=
      Nat.min_eq_left (short rfl)
    have here : f.daysOfMonth.contains start.date.day =
        (f.daysOfMonth.filter (· ≤ Time.daysInMonth year month)).contains start.date.day := by
      rw [Bool.eq_iff_iff, List.contains_iff_mem, List.contains_iff_mem, List.mem_filter]
      simp [short rfl]
    simp only [if_true, first, here]

/-- The days of one month. A bounded search whose start has a day that the month has not finds no less
than nothing. -/
theorem finds_searchMonth (proper : f.Proper) (valid : start.Valid) (year month : Nat)
    (bounded : Bool) :
    let inMonth (m : Moment) := m.date.year = year ∧ m.date.month = month ∧ OnDay f m
    Finds
      (fun m => inMonth m ∧ (bounded → start.date.day ≤ Time.daysInMonth year month →
        start.withinMonth ≤ m.withinMonth))
      (fun m => inMonth m ∧ (bounded → start.withinMonth ≤ m.withinMonth))
      (searchMonth f start year month bounded) := by
  intro inMonth
  let last := Time.daysInMonth year month
  have inMonth_iff {m : Moment} : inMonth m ↔ _ := onDay_iff proper
  by_cases late : bounded = true ∧ last < start.date.day
  · refine ⟨fun m found => ?_, ?_⟩
    · have found : m ∈ firstOf ((f.daysOfMonth.filter (· ≤ last)).filter (min start.date.day last ≤ ·))
          (f.daysOfMonth.contains start.date.day)
          fun bounded day => searchDay f start ⟨year, month, day⟩ bounded := by
        simpa only [searchMonth, late.1, if_true] using found
      obtain ⟨n, inside, bounded, found⟩ := mem_firstOf found
      obtain ⟨date, weekday, time, -⟩ :=
        (finds_searchDay proper valid ⟨year, month, n⟩ bounded).sound m found
      exact ⟨inMonth_iff.mpr ⟨n, (List.mem_filter.mp inside).1, date, weekday, time⟩,
        fun _ le => absurd le (Nat.not_le.mpr late.2)⟩
    · rintro m ⟨h, le⟩
      obtain ⟨n, inside, date, -⟩ := inMonth_iff.mp h
      have short : n ≤ last := by simpa using (List.mem_filter.mp inside).2
      have below := (h.2.2.valid proper).clock_lt
      have le := le late.1
      simp only [Moment.withinMonth, date] at le
      omega
  · rw [searchMonth_eq fun b => Nat.not_lt.mp fun lt => late ⟨b, lt⟩]
    have found := Finds.search start.date.day bounded (proper.daysOfMonth.ascending.filter (· ≤ last))
      (fun n _ bounded => finds_searchDay proper valid ⟨year, month, n⟩ bounded)
      (by
        rintro n n' _ _ m m' lt ⟨date, -, time, -⟩ ⟨date', -⟩
        have := time.bounds proper
        simp only [Moment.rank, Moment.withinYear, Moment.withinMonth, Moment.clock, date, date']
        omega)
    have start_below := valid.clock_lt
    refine found.mono ?_ ?_
    · rintro m ⟨n, inside, le, date, weekday, time, le'⟩
      have h : inMonth m := inMonth_iff.mpr ⟨n, inside, date, weekday, time⟩
      refine ⟨h, fun b _ => ?_⟩
      have bound := (bound_iff start_below (h.2.2.valid proper).clock_lt).mp ⟨le, le'⟩ b
      simpa only [Moment.withinMonth, date] using bound
    · rintro m ⟨h, bound⟩
      obtain ⟨n, inside, date, weekday, time⟩ := inMonth_iff.mp h
      simp only [Moment.withinMonth, date] at bound
      obtain ⟨le, le'⟩ := (bound_iff start_below (h.2.2.valid proper).clock_lt).mpr bound
      exact ⟨n, inside, le, date, weekday, time, le'⟩

/-- The months of one year. -/
theorem finds_searchYear (proper : f.Proper) (valid : start.Valid) (year : Nat) (bounded : Bool) :
    let inYear (m : Moment) := m.date.year = year ∧ m.date.month ∈ f.months ∧ OnDay f m
    Finds
      (fun m => inYear m ∧ (bounded → start.date.day ≤ Time.daysInMonth year start.date.month →
        start.withinYear ≤ m.withinYear))
      (fun m => inYear m ∧ (bounded → start.withinYear ≤ m.withinYear))
      (search f.months start.date.month bounded fun bounded month =>
        searchMonth f start year month bounded) := by
  intro inYear
  have found := Finds.search start.date.month bounded proper.months.ascending
    (fun n _ bounded => finds_searchMonth proper valid year n bounded)
    (fun n n' _ _ m m' lt ⟨⟨year, month, on⟩, _⟩ ⟨⟨year', month', _⟩, _⟩ => by
      have := (on.valid proper).withinMonth_lt
      unfold Moment.rank Moment.withinYear
      rw [year, year', month, month']
      omega)
  refine found.mono ?_ ?_
  · rintro m ⟨n, known, le, ⟨year, rfl, on⟩, le'⟩
    refine ⟨⟨year, known, on⟩, fun b guard => ?_⟩
    refine (bound_iff valid.withinMonth_lt (on.valid proper).withinMonth_lt).mp ⟨le, fun both => ?_⟩ b
    have same : m.date.month = start.date.month := beq_iff_eq.mp (Bool.and_eq_true_iff.mp both).2
    exact le' both (same ▸ guard)
  · rintro m ⟨⟨year, known, on⟩, le⟩
    obtain ⟨le, le'⟩ := (bound_iff valid.withinMonth_lt (on.valid proper).withinMonth_lt).mpr le
    exact ⟨m.date.month, known, le, ⟨year, rfl, on⟩, le'⟩

end

/-- What a search from the start on passes over: moments of the first year that it visits, if that is a later
one, from before the month, day and time of the start, and all moments if the start is before year 0. -/
def Fields.PassesOver (f : Fields) (start m : Moment) : Prop :=
  start.date.year < 0 ∨ start.date.year < m.date.year ∧
    (∀ year ∈ f.years, start.date.year ≤ year → m.date.year ≤ year) ∧ m.withinYear < start.withinYear

theorem Fields.fires_iff {f : Fields} {m : Moment} (valid : m.Valid) : f.fires m = true ↔
    (∃ year ∈ f.years, m.date.year = year) ∧ m.date.month ∈ f.months ∧ OnDay f m := by
  have years : (0 ≤ m.date.year ∧ m.date.year.toNat ∈ f.years) ↔ ∃ year ∈ f.years, m.date.year = year := by
    constructor
    · rintro ⟨least, known⟩
      exact ⟨_, known, (Int.toNat_of_nonneg least).symm⟩
    · rintro ⟨year, known, same⟩
      rw [same]
      exact ⟨Int.natCast_nonneg year, known⟩
  simp only [fires, Bool.and_eq_true, List.contains_iff_mem, decide_eq_true_eq, years]
  constructor
  · rintro ⟨⟨⟨⟨⟨⟨second, minute⟩, hour⟩, day⟩, month⟩, weekday⟩, year⟩
    exact ⟨year, month, valid.date, day, weekday, hour, minute, second⟩
  · rintro ⟨year, month, -, day, weekday, hour, minute, second⟩
    exact ⟨⟨⟨⟨⟨⟨second, minute⟩, hour⟩, day⟩, month⟩, weekday⟩, year⟩

/-- The search finds a moment at which the schedule fires, not before the start, and none that it does not
pass over comes before it. -/
theorem finds_firstFrom {f : Fields} {start : Moment} (proper : f.Proper) (valid : start.Valid) :
    Finds (fun m => m.Valid ∧ f.fires m = true ∧ start.rank ≤ m.rank)
      (fun m => m.Valid ∧ f.fires m = true ∧ start.rank ≤ m.rank ∧ ¬f.PassesOver start m)
      (firstFrom f start) := by
  unfold firstFrom
  by_cases early : start.date.year < 0
  · rw [if_pos early]
    exact .nothing fun m h => h.2.2.2 (.inl early)
  rw [if_neg early]
  let years := f.years.filter (start.date.year.toNat ≤ ·)
  have ascending : years.Pairwise (· < ·) := proper.years.ascending.filter _
  have mem_years {year : Nat} : year ∈ years ↔ year ∈ f.years ∧ start.date.year ≤ year := by
    rw [List.mem_filter, decide_eq_true_eq]
    exact and_congr_right fun _ => by omega
  rw [firstOf_eq_head ascending]
  have found := Finds.findSome? ascending
    (fun year _ => finds_searchYear proper valid year (years.head? == some year))
    (fun n n' m m' lt ⟨⟨year, _, on⟩, _⟩ ⟨⟨year', _⟩, _⟩ => by
      have := (on.valid proper).withinYear_lt
      unfold Moment.rank
      rw [year, year']
      omega)
  have start_below := valid.withinYear_lt
  refine found.mono ?_ ?_
  · rintro m ⟨year, known, ⟨same, month, on⟩, bound⟩
    have valid' := on.valid proper
    obtain ⟨of_fields, le⟩ := mem_years.mp known
    refine ⟨valid', (Fields.fires_iff valid').mpr ⟨⟨year, of_fields, same⟩, month, on⟩, ?_⟩
    unfold Moment.rank
    rcases Int.lt_or_eq_of_le le with lt | here
    · omega
    · have head : years.head? = some year := by
        obtain ⟨least, head⟩ := Option.ne_none_iff_exists'.mp (fun none =>
          List.ne_nil_of_mem known (List.head?_eq_none_iff.mp none))
        obtain ⟨there, least_le⟩ := least_of_head ascending head
        have le_least := (mem_years.mp there).2
        have least_le := least_le year known
        rw [head, show least = year by omega]
      have day := (Date.day_of_isValid valid.date).2
      have bound := bound (by simp [head]) (here ▸ day)
      omega
  · rintro m ⟨valid', fires, le, unpassed⟩
    obtain ⟨⟨year, of_fields, same⟩, month, on⟩ := (Fields.fires_iff valid').mp fires
    have below := valid'.withinYear_lt
    unfold Moment.rank at le
    have reached : start.date.year ≤ year := by omega
    refine ⟨year, mem_years.mpr ⟨of_fields, reached⟩, ⟨same, month, on⟩, fun head => ?_⟩
    have head := beq_iff_eq.mp head
    by_contra before
    rcases Int.lt_or_eq_of_le reached with lt | here
    · refine unpassed (.inr ⟨by omega, fun other known le => ?_, by omega⟩)
      have := (least_of_head ascending head).2 other (mem_years.mpr ⟨known, le⟩)
      omega
    · omega

end Automation.Cron
