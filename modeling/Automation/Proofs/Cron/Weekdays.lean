import Automation.Proofs.Cron.Crontab
import Automation.Proofs.Cron.FireTimes

/-!
Crontab expressions for all days of the month. Their weekdays count from 0 for a Sunday, those of a schedule from 1:
an expression that writes a Sunday as 0 is refused, and any other one fires on the days before those that it means.
-/
namespace Automation.Cron

open Time (Instant Moment Date)

/-- What an expression of five fields lists, the third of which is an asterisk. -/
structure Crontab where
  minutes : List Run
  hours : List Run
  months : List Run
  weekdays : List Run
  deriving DecidableEq

namespace Crontab

/-- The text has the five fields between spaces and tabs; weekdays are written without steps. -/
structure Spells (e : Crontab) (text : String) : Prop where
  blanks : ∀ ch ∈ text.toList, Text.isBlank ch = true → ch = ' ' ∨ ch = '\t'
  fields : ∃ minutes hours months weekdays,
    Text.words text.toList = [minutes, hours, ['*'], months, weekdays] ∧
      Column.minute.Lists minutes e.minutes ∧ Column.hour.Lists hours e.hours ∧
      Column.month.Lists months e.months ∧ Column.weekday.Lists weekdays e.weekdays
  steps : ∀ r ∈ e.weekdays, r.step = 1

/-- Second 0 of a minute, hour and month of the expression. -/
def AtTime (e : Crontab) (t : Instant) : Prop :=
  t.nanos = 0 ∧ t.moment.second = 0 ∧ anyHas e.minutes t.moment.minute = true ∧
    anyHas e.hours t.moment.hour = true ∧ anyHas e.months t.moment.date.month = true

/-- The expression has a weekday, counted from 0 for a Sunday, which is also 7. -/
def OnWeekday (e : Crontab) (weekday : Nat) : Prop :=
  anyHas e.weekdays weekday = true ∨ weekday = 0 ∧ anyHas e.weekdays 7 = true

/-- The weekday of a date, 0 for a Sunday up to 6 for a Saturday. -/
def weekdayOf (date : Date) : Nat := date.weekday - 1

/-- The instants at which the expression is to fire. -/
def Means (e : Crontab) (t : Instant) : Prop := e.AtTime t ∧ e.OnWeekday (weekdayOf t.moment.date)

/-- The instants one day after which it is a weekday of the expression. -/
def MeansNextDay (e : Crontab) (t : Instant) : Prop :=
  e.AtTime t ∧ e.OnWeekday ((weekdayOf t.moment.date + 1) % 7)

instance (e : Crontab) (t : Instant) : Decidable (e.AtTime t) := inferInstanceAs (Decidable (_ ∧ _))

instance (e : Crontab) (weekday : Nat) : Decidable (e.OnWeekday weekday) := inferInstanceAs (Decidable (_ ∨ _))

instance (e : Crontab) (t : Instant) : Decidable (e.Means t) := inferInstanceAs (Decidable (_ ∧ _))

instance (e : Crontab) (t : Instant) : Decidable (e.MeansNextDay t) := inferInstanceAs (Decidable (_ ∧ _))

end Crontab

open Reader

section

variable {c : Column} {unit : TimeUnit} {question : Bool} {text word : List Char} {words : List (List Char)}
  {runs : List Run} {numbers : List Nat} {rest : List Char}

/-- A field is read off a text: it has the numbers of the runs, and the text goes on with the next word. -/
structure Reader.Reads (question : Bool) (unit : TimeUnit) (text : List Char) (runs : List Run)
    (words : List (List Char)) (numbers : List Nat) (rest : List Char) : Prop where
  field : field question unit text = some (numbers, rest)
  numbers : ∀ n, n ∈ numbers ↔ anyHas runs n = true
  spaced : Spaced rest
  split : Text.words rest = words
  trimmed : Text.trimStart rest = rest

theorem Column.Lists.exists_reads (of : c.IsOf unit) (lists : c.Lists word runs)
    (inside : ∀ r ∈ runs, unit.least ≤ r.first) (spaced : Spaced text) (split : Text.words text = word :: words)
    (next : ∀ w ∈ words.head?, Begins w) (question : Bool) :
    ∃ numbers rest, Reads question unit text runs words numbers rest := by
  obtain ⟨list, rest, gives, spaced, split, trimmed, read⟩ := exists_field of spaced split lists next question
  obtain ⟨numbers, known, mem⟩ := exists_numbersOf? gives fun r here =>
    ⟨inside r here, of.greatest ▸ (lists.allows r here).greatest⟩
  exact ⟨numbers, rest, by rw [read, known]; rfl, mem, spaced, split, trimmed⟩

/-- The runs of a field are of the unit, unless the column has numbers from before it. -/
theorem Column.Lists.inside (lists : c.Lists word runs) (least : unit.least = c.least) :
    ∀ r ∈ runs, unit.least ≤ r.first :=
  fun r known => least ▸ (lists.allows r known).least

theorem Column.Lists.next (of : c.IsOf unit) (lists : c.Lists word runs) (words : List (List Char)) :
    ∀ w ∈ (word :: words).head?, Begins w :=
  fun _ same => Option.some.inj same ▸ lists.begins of

/-- A field is refused that has a run from before the unit begins. -/
theorem Column.Lists.refused (of : c.IsOf unit) (lists : c.Lists word runs) {r : Run} (known : r ∈ runs)
    (early : r.first < unit.least) (spaced : Spaced text) (split : Text.words text = word :: words)
    (next : ∀ w ∈ words.head?, Begins w) (question : Bool) : field question unit text = none := by
  obtain ⟨list, rest, gives, -, -, -, read⟩ := exists_field of spaced split lists next question
  rw [read, numbersOf?_eq_none gives known (lists.allows r known).ordered early]
  rfl

/-- Behind the last field nothing is left, and in particular no years. -/
theorem Reader.Reads.rest_eq_nil (h : Reads question unit text runs [] numbers rest) : rest = [] :=
  h.trimmed.symm.trans (Text.trimStart_eq_nil h.split)

end

namespace Crontab

variable {e : Crontab} {text : String} {s : Schedule} {t : Instant}

/-- The fields of a schedule have the numbers that an expression lists. -/
structure Listed (e : Crontab) (f : Fields) : Prop where
  seconds : ∀ n, n ∈ f.seconds ↔ n = 0
  minutes : ∀ n, n ∈ f.minutes ↔ anyHas e.minutes n = true
  hours : ∀ n, n ∈ f.hours ↔ anyHas e.hours n = true
  daysOfMonth : ∀ n, n ∈ f.daysOfMonth ↔ 1 ≤ n ∧ n ≤ 31
  months : ∀ n, n ∈ f.months ↔ anyHas e.months n = true
  weekdays : ∀ n, n ∈ f.daysOfWeek ↔ anyHas e.weekdays n = true
  years : f.years = TimeUnit.year.all

private theorem digit_lists {c : Column} {n : Nat} (ch : Char) (digit : ch.isDigit = true)
    (value : Nat.ofDigitChars 10 [ch] 0 = n) (least : c.least ≤ n) (greatest : n ≤ c.greatest) :
    c.Lists [ch] [⟨n, n, 1⟩] :=
  .single (.digits ⟨by simp, List.forall_mem_singleton.mpr digit, value⟩)
    ⟨least, Nat.le_refl n, greatest, by simp⟩

private theorem zero_lists : Column.minute.Lists ['0'] [⟨0, 0, 1⟩] :=
  digit_lists '0' rfl rfl (by decide) (by decide)

private theorem asterisk_lists : Column.dayOfMonth.Lists ['*'] [⟨1, 31, 1⟩] :=
  .single (.span .asterisk) ⟨by decide, by decide, by decide, by simp⟩

private theorem Spells.withSeconds_eq (spells : e.Spells text) :
    Schedule.withSeconds (Text.trimChars text.toList) = '0' :: ' ' :: Text.trimChars text.toList := by
  obtain ⟨minutes, hours, months, weekdays, split, -⟩ := spells.fields
  refine if_pos ?_
  rw [Text.words_trimChars, split]
  rfl

private theorem Spells.spaced (spells : e.Spells text) : Spaced ('0' :: ' ' :: Text.trimChars text.toList) := by
  rintro ch (_ | ⟨_, _ | ⟨_, known⟩⟩) blank
  · cases blank
  · rfl
  · rcases spells.blanks ch (Text.mem_of_mem_trimChars known) blank with rfl | rfl <;> rfl

/-- All fields but the last are read, one after the other. -/
private theorem exists_longhand (spells : e.Spells text) : ∃ (f : Fields) (rest weekdays : List Char),
    Spaced rest ∧ Text.words rest = [weekdays] ∧ Column.weekday.Lists weekdays e.weekdays ∧
    (∀ days, (∀ n, n ∈ days ↔ anyHas e.weekdays n = true) →
      e.Listed { f with daysOfWeek := days, years := TimeUnit.year.all }) ∧
    longhand (Schedule.withSeconds (Text.trimChars text.toList)) = do
      let (daysOfWeek, cs) ← field true .dayOfWeek rest
      let (years, cs) := (field false .year cs).getD (TimeUnit.year.all, cs)
      return ({ f with daysOfWeek, years }, cs) := by
  obtain ⟨_, _, _, weekdays, split, minutes_lists, hours_lists, months_lists, weekdays_lists⟩ := spells.fields
  have words : Text.words ('0' :: ' ' :: Text.trimChars text.toList) = ['0'] :: Text.words text.toList :=
    congrArg (['0'] :: ·) (Text.words_trimChars _)
  rw [split] at words
  obtain ⟨second_numbers, _, seconds⟩ := zero_lists.exists_reads Column.minute_second (zero_lists.inside rfl)
    spells.spaced words (minutes_lists.next Column.minute_minute _) false
  obtain ⟨minute_numbers, _, minutes⟩ := minutes_lists.exists_reads Column.minute_minute
    (minutes_lists.inside rfl) seconds.spaced seconds.split (hours_lists.next Column.hour_hour _) false
  obtain ⟨hour_numbers, _, hours⟩ := hours_lists.exists_reads Column.hour_hour (hours_lists.inside rfl)
    minutes.spaced minutes.split (asterisk_lists.next Column.dayOfMonth_dayOfMonth _) false
  obtain ⟨day_numbers, _, days⟩ := asterisk_lists.exists_reads Column.dayOfMonth_dayOfMonth
    (asterisk_lists.inside rfl) hours.spaced hours.split (months_lists.next Column.month_month _) true
  obtain ⟨month_numbers, rest, months⟩ := months_lists.exists_reads Column.month_month (months_lists.inside rfl)
    days.spaced days.split (weekdays_lists.next Column.weekday_dayOfWeek _) false
  refine ⟨⟨second_numbers, minute_numbers, hour_numbers, day_numbers, month_numbers, [], []⟩, rest, weekdays,
    months.spaced, months.split, weekdays_lists, fun numbers mem =>
      ⟨fun n => ?_, minutes.numbers, hours.numbers, fun n => ?_, months.numbers, mem, rfl⟩, ?_⟩
  · rw [seconds.numbers, anyHas, List.any_cons, List.any_nil, Bool.or_false, Run.has_point]
  · rw [days.numbers, anyHas, List.any_cons, List.any_nil, Bool.or_false, Run.has_range]
  · simp only [spells.withSeconds_eq, longhand, seconds.field, minutes.field, hours.field, days.field,
      months.field, Option.bind_eq_bind, Option.bind_some]

/-- What begins with a number has no name of its own: it is read field by field, up to its end. -/
private theorem Spells.parse_eq (spells : e.Spells text) : Schedule.parse text =
    match longhand (Schedule.withSeconds (Text.trimChars text.toList)) with
    | some (fields, []) => .ok ⟨String.ofList (Text.trimChars text.toList), fields⟩
    | _ => .error (.invalid text) := by
  have unnamed : shorthand? (Schedule.withSeconds (Text.trimChars text.toList)) = none := by
    rw [spells.withSeconds_eq]
    rfl
  unfold Schedule.parse Fields.parse?
  dsimp only
  rw [unnamed]
  cases longhand (Schedule.withSeconds (Text.trimChars text.toList)) with
  | none => rfl
  | some read =>
    obtain ⟨fields, _ | ⟨c, rest⟩⟩ := read <;> rfl

/-- An expression is read if none of its weekdays is 0. -/
theorem exists_parse (spells : e.Spells text) (named : ∀ r ∈ e.weekdays, r.first ≠ 0) :
    ∃ s, Schedule.parse text = .ok s ∧ e.Listed s.fields := by
  obtain ⟨f, rest, weekdays, spaced, split, lists, listed, read⟩ := exists_longhand spells
  obtain ⟨days, rest', last⟩ := lists.exists_reads Column.weekday_dayOfWeek
    (fun r known => Nat.pos_of_ne_zero (named r known)) spaced split nofun true
  obtain rfl := last.rest_eq_nil
  rw [spells.parse_eq, read, last.field]
  exact ⟨_, rfl, listed days last.numbers⟩

/-- An expression is refused if one of its weekdays is 0. -/
theorem parse_refused (spells : e.Spells text) {r : Run} (known : r ∈ e.weekdays) (zero : r.first = 0) :
    Schedule.parse text = .error (.invalid text) := by
  obtain ⟨f, rest, weekdays, spaced, split, lists, -, read⟩ := exists_longhand spells
  have refused := lists.refused Column.weekday_dayOfWeek known (zero ▸ Nat.one_pos) spaced split nofun true
  rw [spells.parse_eq, read, refused]
  rfl

theorem weekday_bounds (date : Date) : 1 ≤ date.weekday ∧ date.weekday ≤ 7 := by
  unfold Date.weekday
  omega

/-- The numbers that a schedule counts for a weekday are those that an expression counts for the next one. -/
theorem onWeekday_next (named : ∀ r ∈ e.weekdays, r.first ≠ 0) (date : Date) :
    anyHas e.weekdays date.weekday = true ↔ e.OnWeekday ((weekdayOf date + 1) % 7) := by
  have never : anyHas e.weekdays 0 = false := by
    rw [← Bool.not_eq_true, anyHas_iff]
    rintro ⟨r, known, has⟩
    exact named r known (Nat.le_zero.mp (Run.has_iff.mp has).1)
  obtain ⟨least, greatest⟩ := weekday_bounds date
  unfold OnWeekday weekdayOf
  rw [Nat.sub_add_cancel least]
  rcases Nat.lt_or_eq_of_le greatest with lt | saturday
  · rw [Nat.mod_eq_of_lt lt, or_iff_left]
    omega
  · rw [saturday]
    simp [never]

theorem Listed.firesAt_iff (listed : e.Listed s.fields) : s.FiresAt t ↔
    (1970 ≤ t.moment.date.year ∧ t.moment.date.year ≤ 2100) ∧ e.AtTime t ∧
      anyHas e.weekdays t.moment.date.weekday = true := by
  have day := Date.day_of_isValid t.valid_moment.date
  have longest := Date.daysInMonth_le t.moment.date.year t.moment.date.month
  have years : (0 ≤ t.moment.date.year ∧ t.moment.date.year.toNat ∈ s.fields.years) ↔
      1970 ≤ t.moment.date.year ∧ t.moment.date.year ≤ 2100 := by
    rw [listed.years, TimeUnit.all, List.mem_range'_1]
    simp only [TimeUnit.least, TimeUnit.greatest]
    omega
  have every : 1 ≤ t.moment.date.day ∧ t.moment.date.day ≤ 31 := ⟨day.1, day.2.trans longest⟩
  simp only [Schedule.FiresAt, Fields.fires, Bool.and_eq_true, List.contains_iff_mem, decide_eq_true_eq,
    years, listed.seconds, listed.minutes, listed.hours, listed.daysOfMonth, listed.months, listed.weekdays,
    AtTime, every, and_true]
  tauto

/-- From 1970 to 2100 the schedule fires when it is a weekday of the expression on the next day. -/
theorem enumerates_nextDay (read : Schedule.parse text = .ok s) (listed : e.Listed s.fields)
    (named : ∀ r ∈ e.weekdays, r.first ≠ 0) {after : Instant} (recent : 0 ≤ after.succ.seconds) :
    s.Enumerates after fun t => t.le after = false ∧ t.moment.date.year ≤ 2100 ∧ e.MeansNextDay t := by
  refine (Schedule.enumerates_fires read listed.years recent).congr fun t => and_congr_right fun late => ?_
  rw [listed.firesAt_iff, onWeekday_next named, MeansNextDay, and_assoc]
  refine ⟨fun h => h.2, fun h => ⟨?_, h⟩⟩
  rw [Instant.late_of_whole h.2.1.1] at late
  refine Instant.year_of_nonneg ?_
  simp only [Instant.succ] at recent
  omega

/-- Every weekday is that of one of the first days of a month. -/
theorem exists_day {month weekday : Nat} (month_bounds : 1 ≤ month ∧ month ≤ 12) (week : weekday < 7) :
    ∃ day, (Date.mk 2000 month day).isValid = true ∧ weekdayOf ⟨2000, month, day⟩ = weekday := by
  have all : ∀ month ∈ List.range' 1 12, ∀ weekday < 7, ∃ day ∈ List.range' 1 7,
      (Date.mk 2000 month day).isValid = true ∧ weekdayOf ⟨2000, month, day⟩ = weekday := by decide +kernel
  obtain ⟨day, -, found⟩ := all month (List.mem_range'_1.mpr (by omega)) weekday week
  exact ⟨day, found⟩

/-- An expression has a time on each weekday. -/
theorem exists_atTime (spells : e.Spells text) {weekday : Nat} (week : weekday < 7) :
    ∃ t : Instant, t.le ⟨0, 0⟩ = false ∧ t.moment.date.year ≤ 2100 ∧ e.AtTime t ∧
      weekdayOf t.moment.date = weekday := by
  obtain ⟨_, _, _, _, -, minutes, hours, months, -⟩ := spells.fields
  obtain ⟨minute, -, minute_le, has_minute⟩ := minutes.exists_has
  obtain ⟨hour, -, hour_le, has_hour⟩ := hours.exists_has
  obtain ⟨month, month_ge, month_le, has_month⟩ := months.exists_has
  obtain ⟨day, of_month, same⟩ := exists_day ⟨month_ge, month_le⟩ week
  let m : Moment := ⟨⟨2000, month, day⟩, hour, minute, 0⟩
  have valid : m.Valid := ⟨of_month, hour_le, minute_le, Nat.zero_le _⟩
  have shown : (Instant.ofMoment m).moment = m := Instant.moment_ofMoment valid
  have late : (Instant.ofMoment m).le ⟨0, 0⟩ = false := by
    have days : 730119 ≤ m.date.toDays + Time.epochDay := (Date.toDays_bounds of_month).1
    rw [Instant.late_of_whole rfl]
    change 0 < m.toSeconds
    rw [Moment.toSeconds_eq]
    unfold Time.epochDay at days
    omega
  have atTime : e.AtTime (.ofMoment m) := by
    unfold AtTime
    rw [shown]
    exact ⟨rfl, rfl, has_minute, has_hour, has_month⟩
  refine ⟨.ofMoment m, late, ?_, atTime, ?_⟩
  all_goals rw [shown]
  · exact (by decide : (2000 : Int) ≤ 2100)
  · exact same

/-- An expression has a weekday. -/
theorem exists_onWeekday (spells : e.Spells text) : ∃ weekday < 7, e.OnWeekday weekday := by
  obtain ⟨_, _, _, _, -, -, -, -, weekdays⟩ := spells.fields
  obtain ⟨n, -, greatest, has⟩ := weekdays.exists_has
  have greatest : n ≤ 7 := greatest
  rcases Nat.lt_or_eq_of_le greatest with lt | rfl
  · exact ⟨n, lt, .inl has⟩
  · exact ⟨0, by decide, .inr ⟨rfl, has⟩⟩

/-- If the next weekday is one of an expression just if a weekday is, either all weekdays are or none. -/
theorem onWeekday_all (spells : e.Spells text)
    (same : ∀ weekday < 7, e.OnWeekday weekday ↔ e.OnWeekday ((weekday + 1) % 7)) :
    ∀ weekday < 7, e.OnWeekday weekday := by
  have first (weekday : Nat) (week : weekday < 7) : e.OnWeekday weekday ↔ e.OnWeekday 0 := by
    induction weekday with
    | zero => rfl
    | succ weekday ih =>
      have next := same weekday (by omega)
      rw [Nat.mod_eq_of_lt week] at next
      rw [← next, ih (by omega)]
  obtain ⟨one, week, on⟩ := exists_onWeekday spells
  intro weekday week'
  exact (first weekday week').mpr ((first one week).mp on)

/-- What an expression of five fields does. It is refused just if a weekday is written as 0. If it is not, it fires
from 1970 to 2100, in order and without gaps, whenever its minutes, hours and months list the time and its weekdays
list the day after. These are the times at which it is to fire just if it lists all weekdays. -/
theorem crontab_firesEarly {e : Crontab} {text : String} (spells : e.Spells text) :
    (Schedule.parse text = .error (.invalid text) ↔ ∃ r ∈ e.weekdays, r.first = 0) ∧
    ((∀ r ∈ e.weekdays, r.first ≠ 0) → ∃ s, Schedule.parse text = .ok s ∧
      (∀ after : Instant, 0 ≤ after.succ.seconds → s.Enumerates after fun t =>
        t.le after = false ∧ t.moment.date.year ≤ 2100 ∧ e.MeansNextDay t) ∧
      ((∀ after : Instant, 0 ≤ after.succ.seconds → s.Enumerates after fun t =>
        t.le after = false ∧ t.moment.date.year ≤ 2100 ∧ e.Means t) ↔ ∀ weekday < 7, e.OnWeekday weekday)) := by
  refine ⟨⟨fun refused => ?_, fun ⟨r, known, zero⟩ => parse_refused spells known zero⟩, fun named => ?_⟩
  · by_contra none
    simp only [not_exists, not_and] at none
    obtain ⟨s, read, -⟩ := exists_parse spells none
    rw [refused] at read
    cases read
  · obtain ⟨s, read, listed⟩ := exists_parse spells named
    have ahead {after : Instant} (recent : 0 ≤ after.succ.seconds) :=
      enumerates_nextDay read listed named recent
    refine ⟨s, read, fun after => ahead, ⟨fun meant => ?_, fun all after recent => ?_⟩⟩
    · -- from second 0 on both come up, so they agree at a time on each weekday
      refine onWeekday_all spells fun weekday week => ?_
      obtain ⟨t, late, year, atTime, rfl⟩ := exists_atTime spells week
      have both := ((meant ⟨0, 0⟩ (by decide)).found_iff t).symm.trans ((ahead (by decide)).found_iff t)
      simpa only [late, year, true_and, Means, MeansNextDay, atTime] using both
    · refine (ahead recent).congr fun t => and_congr_right fun _ => and_congr_right fun _ => ?_
      obtain ⟨least, greatest⟩ := weekday_bounds t.moment.date
      have today : e.OnWeekday (weekdayOf t.moment.date) := all _ (by unfold weekdayOf; omega)
      have next : e.OnWeekday ((weekdayOf t.moment.date + 1) % 7) := all _ (Nat.mod_lt _ (by decide))
      rw [MeansNextDay, Means, and_iff_left next, and_iff_left today]

section

/-- Every quarter of an hour from nine to five, on workdays from January to March and in November. -/
private def officeHours : Crontab where
  minutes := [⟨0, 59, 15⟩]
  hours := [⟨9, 17, 1⟩]
  months := [⟨1, 3, 1⟩, ⟨11, 11, 1⟩]
  weekdays := [⟨1, 5, 1⟩]

private theorem spells_officeHours : officeHours.Spells "*/15 09-17 * jan-Mar,11 1-5" := by
  have text : "*/15 09-17 * jan-Mar,11 1-5".toList = ['*', '/', '1', '5', ' ', '0', '9', '-', '1', '7', ' ', '*',
      ' ', 'j', 'a', 'n', '-', 'M', 'a', 'r', ',', '1', '1', ' ', '1', '-', '5'] := by decide +kernel
  have minutes : Column.minute.Spells ['*', '/', '1', '5'] ⟨0, 59, 15⟩ :=
    .stepped .asterisk ⟨by simp, by simp, rfl⟩
  have nine : Digits ['0', '9'] 9 := ⟨by simp, by simp, rfl⟩
  have hours : Column.hour.Spells ['0', '9', '-', '1', '7'] ⟨9, 17, 1⟩ :=
    .span (.digits nine ⟨by simp, by simp, rfl⟩)
  have january : Column.month.Names ['j', 'a', 'n'] 1 := (by decide : (_, _) ∈ _)
  have winter : Column.month.Spells ['j', 'a', 'n', '-', 'M', 'a', 'r'] ⟨1, 3, 1⟩ :=
    .span (.names january (by decide : (_, _) ∈ _))
  have november : Column.month.Spells ['1', '1'] ⟨11, 11, 1⟩ := .digits ⟨by simp, by simp, rfl⟩
  have monday : Digits ['1'] 1 := ⟨by simp, by simp, rfl⟩
  have workdays : Column.weekday.Spells ['1', '-', '5'] ⟨1, 5, 1⟩ :=
    .span (.digits monday ⟨by simp, by simp, rfl⟩)
  refine ⟨by rw [text]; simp [Text.isBlank], ⟨_, _, _, _, by rw [text]; rfl, .single minutes ?_, .single hours ?_,
    .cons winter ?_ (.single november ?_), .single workdays ?_⟩, by decide⟩ <;>
  exact ⟨by decide, by decide, by decide, by simp⟩

/-- What is written for Mondays to Fridays fires on Sundays to Thursdays. -/
theorem crontab_firesEarly_officeHours : officeHours.Spells "*/15 09-17 * jan-Mar,11 1-5" ∧
    ∃ s, Schedule.parse "*/15 09-17 * jan-Mar,11 1-5" = .ok s ∧
      (∀ after : Instant, 0 ≤ after.succ.seconds → s.Enumerates after fun t =>
        t.le after = false ∧ t.moment.date.year ≤ 2100 ∧ officeHours.MeansNextDay t) ∧
      ¬∀ after : Instant, 0 ≤ after.succ.seconds → s.Enumerates after fun t =>
        t.le after = false ∧ t.moment.date.year ≤ 2100 ∧ officeHours.Means t := by
  obtain ⟨-, accepted⟩ := crontab_firesEarly spells_officeHours
  obtain ⟨s, read, ahead, meant_iff⟩ := accepted (by decide)
  refine ⟨spells_officeHours, s, read, ahead, fun meant => ?_⟩
  exact absurd (meant_iff.mp meant 0 (by decide)) (by decide)

/-- Nine o'clock on one day of the week. -/
private def nineOn (weekday : Nat) : Crontab where
  minutes := [⟨0, 0, 1⟩]
  hours := [⟨9, 9, 1⟩]
  months := [⟨1, 12, 1⟩]
  weekdays := [⟨weekday, weekday, 1⟩]

private theorem spells_nineOn {text : String} {weekday : Nat} (ch : Char)
    (blanks : ∀ ch ∈ text.toList, Text.isBlank ch = true → ch = ' ' ∨ ch = '\t')
    (split : Text.words text.toList = [['0'], ['9'], ['*'], ['*'], [ch]]) (digit : ch.isDigit = true)
    (value : Nat.ofDigitChars 10 [ch] 0 = weekday) (greatest : weekday ≤ 7) : (nineOn weekday).Spells text where
  blanks := blanks
  fields := by
    have months : Column.month.Lists ['*'] [⟨1, 12, 1⟩] :=
      .single (.span .asterisk) ⟨by decide, by decide, by decide, by simp⟩
    exact ⟨['0'], ['9'], ['*'], [ch], split, zero_lists, digit_lists '9' rfl rfl (by decide) (by decide), months,
      digit_lists ch digit value (Nat.zero_le _) greatest⟩
  steps := by simp [nineOn]

/-- Nine o'clock on Mondays is an expression that fires at nine o'clock on Sundays, as on 10 March 2024 and not on
4 March, and nine o'clock on Sundays is refused. -/
theorem monday_firesOnSunday :
    let monday : Instant := ⟨1709542800, 0⟩
    let sunday : Instant := ⟨1710061200, 0⟩
    (nineOn 1).Spells "0 9 * * 1" ∧ (nineOn 1).Means monday ∧ ¬(nineOn 1).Means sunday ∧
      (∃ s, Schedule.parse "0 9 * * 1" = .ok s ∧ s.nextAfter? ⟨1709510400, 0⟩ = some sunday) ∧
      (nineOn 0).Spells "0 9 * * 0" ∧ (nineOn 0).Means sunday ∧
      Schedule.parse "0 9 * * 0" = .error (.invalid "0 9 * * 0") := by
  refine ⟨spells_nineOn '1' ?_ (by decide +kernel) rfl rfl (by decide), by decide +kernel,
    by decide +kernel, ⟨_, rfl, by decide +kernel⟩,
    spells_nineOn '0' ?_ (by decide +kernel) rfl rfl (by decide), by decide +kernel,
    by decide +kernel⟩
  all_goals simp [Text.isBlank]

end

end Crontab
end Automation.Cron
