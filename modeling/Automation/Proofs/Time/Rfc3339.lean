import Automation.Proofs.Decode.Ensures
import Automation.Time.Instant
import Automation.Time.Rfc3339
import Mathlib

/-!
An instant that is written out is read back as it was. Days and dates of the calendar are one to one: the
date of a day exists, and the day of that date is the day itself.
-/
namespace Automation.Time

theorem daysBeforeYear_succ (year : Int) :
    daysBeforeYear (year + 1) = daysBeforeYear year + if isLeapYear year then 366 else 365 := by
  have leap : isLeapYear year = true ↔ year % 4 = 0 ∧ (year % 100 ≠ 0 ∨ year % 400 = 0) := by
    simp [isLeapYear]
  simp only [daysBeforeYear]
  split
  · next h =>
    rw [leap] at h
    omega
  · next h =>
    rw [leap] at h
    omega

/-- A day lies in its year. -/
theorem yearOfDay_spec (day : Int) :
    daysBeforeYear (yearOfDay day) ≤ day ∧ day < daysBeforeYear (yearOfDay day + 1) := by
  simp only [yearOfDay]
  split
  · next early =>
    simp only [daysBeforeYear] at *
    omega
  · next reached =>
    split
    · next late =>
      simp only [daysBeforeYear] at *
      omega
    · next within =>
      omega

theorem sum_monthLengths (year : Int) :
    (monthLengths year).sum = if isLeapYear year then 366 else 365 := by
  unfold monthLengths
  split <;> rfl

/-- The month and day of a day among listed months. -/
theorem monthOfDay_spec {lengths : List Nat} {day : Nat} (month : Nat) (within : day < lengths.sum) :
    ∃ n, (monthOfDay lengths month day).1 = month + n ∧
      ∃ length, lengths[n]? = some length ∧ 1 ≤ (monthOfDay lengths month day).2 ∧
        (monthOfDay lengths month day).2 ≤ length ∧
        (lengths.take n).sum + (monthOfDay lengths month day).2 = day + 1 := by
  induction lengths generalizing month day with
  | nil => simp at within
  | cons length rest ih =>
    rw [List.sum_cons] at within
    by_cases first : day < length
    · have here : monthOfDay (length :: rest) month day = (month, day + 1) := by
        cases rest with
        | nil => rfl
        | cons next others => simp [monthOfDay, first]
      rw [here]
      exact ⟨0, rfl, length, rfl, by simp, first, by simp⟩
    · obtain ⟨next, others, rfl⟩ : ∃ next others, rest = next :: others := by
        cases rest with
        | nil => simp at within; omega
        | cons next others => exact ⟨next, others, rfl⟩
      have later : monthOfDay (length :: next :: others) month day =
          monthOfDay (next :: others) (month + 1) (day - length) := by
        simp [monthOfDay, first]
      have within : day - length < (next :: others).sum := by omega
      obtain ⟨n, named, size, at_n, low, high, count⟩ := ih (month + 1) within
      rw [later]
      refine ⟨n + 1, by omega, size, at_n, low, high, ?_⟩
      rw [List.take_succ_cons, List.sum_cons]
      omega

namespace Date

/-- The date of a day exists. -/
theorem ofDays_spec (days : Int) : ∃ n, (ofDays days).month = n + 1 ∧ n < 12 ∧
    ∃ length, (monthLengths (ofDays days).year)[n]? = some length ∧ 1 ≤ (ofDays days).day ∧
      (ofDays days).day ≤ length ∧ ((monthLengths (ofDays days).year).take n).sum +
        (ofDays days).day = (days + epochDay - daysBeforeYear (ofDays days).year).toNat + 1 := by
  obtain ⟨low, high⟩ := yearOfDay_spec (days + epochDay)
  rw [daysBeforeYear_succ] at high
  have within : (days + epochDay - daysBeforeYear (yearOfDay (days + epochDay))).toNat <
      (monthLengths (yearOfDay (days + epochDay))).sum := by
    rw [sum_monthLengths]
    by_cases leap : isLeapYear (yearOfDay (days + epochDay)) = true
    all_goals
      simp only [leap, if_true, Bool.false_eq_true, if_false] at high ⊢
      omega
  obtain ⟨n, named, length, at_n, first, last, count⟩ := monthOfDay_spec 1 within
  refine ⟨n, by simpa [ofDays, Nat.add_comm] using named, ?_, length, at_n, first, last, count⟩
  have short := (List.getElem?_eq_some_iff.mp at_n).1
  simpa [monthLengths] using short

theorem isValid_ofDays (days : Int) : (ofDays days).isValid = true := by
  obtain ⟨n, month, _, length, at_n, first, last, _⟩ := ofDays_spec days
  simp [isValid, daysInMonth, month, at_n, first, last]

theorem toDays_ofDays (days : Int) : (ofDays days).toDays = days := by
  obtain ⟨n, month, _, length, _, _, _, count⟩ := ofDays_spec days
  obtain ⟨low, _⟩ := yearOfDay_spec (days + epochDay)
  have year : (ofDays days).year = yearOfDay (days + epochDay) := rfl
  rw [← year] at low
  simp only [toDays, month, Nat.add_sub_cancel, ← List.sum_eq_foldl]
  omega

theorem ofDays_bounds (days : Int) : 1 ≤ (ofDays days).month ∧ (ofDays days).month ≤ 12 ∧
    1 ≤ (ofDays days).day ∧ (ofDays days).day ≤ 31 := by
  obtain ⟨n, month, small, length, at_n, first, last, _⟩ := ofDays_spec days
  have lengths : ∀ length ∈ monthLengths (ofDays days).year, length ≤ 31 := by
    unfold monthLengths
    split <;> decide
  have most := lengths length (List.mem_of_getElem? at_n)
  omega

end Date

open Decode (except_bind_ok except_map_ok)

theorem Instant.moment_bounds (t : Instant) :
    t.moment.hour ≤ 23 ∧ t.moment.minute ≤ 59 ∧ t.moment.second ≤ 59 := by
  simp only [Instant.moment]
  omega

theorem Instant.toSeconds_moment (t : Instant) : t.moment.toSeconds = t.seconds := by
  simp only [Moment.toSeconds, Instant.moment, Date.toDays_ofDays]
  omega

/-- A date may have the year, and only the last second of a minute has more than a billion
nanoseconds. -/
def Instant.Representable (t : Instant) : Prop :=
  Rfc3339.yearInRange t.moment.date.year = true ∧
    (t.nanos < 1000000000 ∨ t.moment.second = 59 ∧ t.nanos < 2000000000)

namespace Rfc3339

private theorem padded_toList (width n : Nat) : (padded width n).toList =
    List.replicate (width - (Nat.toDigits 10 n).length) '0' ++ Nat.toDigits 10 n :=
  String.toList_ofList

theorem isDigit_padded {width n : Nat} {c : Char} (h : c ∈ (padded width n).toList) :
    c.isDigit = true := by
  rw [padded_toList, List.mem_append] at h
  rcases h with zero | digit
  · rw [List.eq_of_mem_replicate zero]
    rfl
  · exact Nat.isDigit_of_mem_toDigits (by decide) (by decide) digit

theorem padded_ne_nil {width n : Nat} : (padded width n).toList ≠ [] := by
  simp [padded_toList]

theorem length_padded {width n : Nat} (fits : n < 10 ^ width) (wide : 0 < width) :
    (padded width n).toList.length = width := by
  have short := (Nat.length_toDigits_le_iff (b := 10) (by decide) wide).mpr fits
  rw [padded_toList, List.length_append, List.length_replicate]
  omega

/-- The number that a run of digits stands for. -/
private theorem foldl_digits (cs : List Char) :
    cs.foldl (fun n c => n * 10 + digitValue c) 0 = Nat.ofDigitChars 10 cs 0 := by
  rw [Nat.ofDigitChars_eq_foldl]
  simp only [digitValue, Nat.mul_comm 10]
  rfl

theorem foldl_padded (width n : Nat) :
    (padded width n).toList.foldl (fun n c => n * 10 + digitValue c) 0 = n := by
  rw [foldl_digits, padded_toList, Nat.ofDigitChars_append]
  simp

/-- What stands behind a number does not go on with a digit. -/
def Stops (rest : List Char) : Prop := ∀ c ∈ rest.head?, c.isDigit = false

private theorem takeWhile_stops {rest : List Char} (stops : Stops rest) (n : Nat) :
    (rest.take n).takeWhile Char.isDigit = [] := by
  cases rest with
  | nil => simp
  | cons c cs =>
    cases n with
    | zero => rfl
    | succ n => simp [stops c rfl]

private theorem dropWhile_stops {rest : List Char} (stops : Stops rest) :
    rest.dropWhile Char.isDigit = rest := by
  cases rest with
  | nil => rfl
  | cons c cs => simp [stops c rfl]

theorem digits_padded {most width n : Nat} {rest : List Char}
    (short : (padded width n).toList.length ≤ most) (small : n < 0x8000000000000000)
    (stops : Stops rest) : digits most ((padded width n).toList ++ rest) = .ok (n, rest) := by
  have all : ∀ c ∈ (padded width n).toList, c.isDigit = true := fun _ => isDigit_padded
  have value := foldl_padded width n
  have some : (padded width n).toList ≠ [] := padded_ne_nil
  generalize (padded width n).toList = ds at *
  have run : ((ds ++ rest).take most).takeWhile Char.isDigit = ds := by
    rw [List.take_append, List.take_of_length_le short, List.takeWhile_append_of_pos all,
      takeWhile_stops stops, List.append_nil]
  obtain ⟨c, cs, rfl⟩ := List.exists_cons_of_ne_nil some
  have first : c.isDigit = true := all c (List.mem_cons_self ..)
  simp only [List.cons_append] at run ⊢
  simp only [digits, first, Bool.not_true, Bool.false_eq_true, if_false, run, value, small, if_true]
  rw [← List.cons_append, List.drop_left]

/-- Blanks are skipped only where there are some. -/
private theorem trimStart_cons {c : Char} {cs : List Char} (h : Text.isBlank c = false) :
    Text.trimStart (c :: cs) = c :: cs := by
  simp [Text.trimStart, h]

private theorem not_blank_of_isDigit {c : Char} (h : c.isDigit = true) : Text.isBlank c = false := by
  simp only [Char.isDigit, Bool.and_eq_true, decide_eq_true_eq] at h
  have low : 48 ≤ c.toNat := h.1
  have high : c.toNat ≤ 57 := h.2
  simp only [Text.isBlank, Bool.or_eq_false_iff, Bool.and_eq_false_iff, decide_eq_false_iff_not,
    beq_eq_false_iff_ne]
  omega

private theorem trimStart_padded {width n : Nat} {rest : List Char} :
    Text.trimStart ((padded width n).toList ++ rest) = (padded width n).toList ++ rest := by
  have some : (padded width n).toList ≠ [] := padded_ne_nil
  obtain ⟨c, cs, eq⟩ := List.exists_cons_of_ne_nil some
  have digit : c.isDigit = true := isDigit_padded (eq ▸ List.mem_cons_self ..)
  rw [eq, List.cons_append, trimStart_cons (not_blank_of_isDigit digit)]

theorem bounded_padded {low high n : Nat} {rest : List Char} (within : low ≤ n ∧ n ≤ high)
    (two : high < 100) (stops : Stops rest) :
    bounded low high 2 ((padded 2 n).toList ++ rest) = .ok (n, rest) := by
  have fits : n < 10 ^ 2 := by omega
  have read : digits 2 ((padded 2 n).toList ++ rest) = .ok (n, rest) :=
    digits_padded (Nat.le_of_eq (length_padded fits (by decide))) (by omega) stops
  rw [bounded, trimStart_padded, read]
  exact if_pos within

theorem lenientMark_cons {c : Char} {rest : List Char} (h : Text.isBlank c = false) :
    lenientMark c (c :: rest) = .ok ((), rest) := by
  rw [lenientMark, trimStart_cons h, expect, if_pos rfl]

private theorem digits_whole {n : Nat} {rest : List Char} (small : n < 0x8000000000000000)
    (stops : Stops rest) : digits ((padded 4 n).toList ++ rest).length
      ((padded 4 n).toList ++ rest) = .ok (n, rest) := by
  refine digits_padded ?_ small stops
  rw [List.length_append]
  exact Nat.le_add_right ..

theorem lenientYear_yearText {year : Int} {rest : List Char} (range : yearInRange year = true)
    (stops : Stops rest) : lenientYear ((yearText year).toList ++ rest) = .ok (year, rest) := by
  simp only [yearInRange, Bool.and_eq_true, decide_eq_true_eq] at range
  have bounds : -0x80000000 ≤ year ∧ year < 0x80000000 := by omega
  unfold lenientYear
  by_cases plain : 0 ≤ year ∧ year ≤ 9999
  · have text : yearText year = padded 4 year.toNat := if_pos plain
    have short : (padded 4 year.toNat).toList.length ≤ 4 :=
      Nat.le_of_eq (length_padded (by omega) (by decide))
    have read := digits_padded short (by omega) stops
    have some : (padded 4 year.toNat).toList ≠ [] := padded_ne_nil
    rw [text, trimStart_padded]
    obtain ⟨c, cs, eq⟩ := List.exists_cons_of_ne_nil some
    have digit : c.isDigit = true := isDigit_padded (eq ▸ List.mem_cons_self ..)
    simp only [eq, List.cons_append] at read ⊢
    split
    · next same =>
      cases same
      cases digit
    · next same =>
      cases same
      cases digit
    · refine except_bind_ok.mpr ⟨(year, rest), except_map_ok.mpr ⟨_, read, ?_⟩, if_pos bounds⟩
      simp only [Prod.mk.injEq, and_true]
      omega
  · have read := digits_whole (n := year.natAbs) (by omega) stops
    by_cases negative : year < 0
    · have text : (yearText year).toList ++ rest =
          '-' :: ((padded 4 year.natAbs).toList ++ rest) := by
        simp [yearText, plain, negative]
      rw [text, trimStart_cons (by decide)]
      refine except_bind_ok.mpr ⟨(year, rest), except_map_ok.mpr ⟨_, read, ?_⟩, if_pos bounds⟩
      simp only [Prod.mk.injEq, and_true]
      omega
    · have text : (yearText year).toList ++ rest =
          '+' :: ((padded 4 year.natAbs).toList ++ rest) := by
        simp [yearText, plain, negative]
      rw [text, trimStart_cons (by decide)]
      refine except_bind_ok.mpr ⟨(year, rest), except_map_ok.mpr ⟨_, read, ?_⟩, if_pos bounds⟩
      simp only [Prod.mk.injEq, and_true]
      omega

private theorem fraction_padded {width n : Nat} {rest : List Char} (fits : n < 10 ^ width)
    (wide : 0 < width) (most : width ≤ 9) (stops : Stops rest) :
    fraction ((padded width n).toList ++ rest) = .ok (n * 10 ^ (9 - width), rest) := by
  have long := length_padded fits wide
  have small : n < 10 ^ 9 := Nat.lt_of_lt_of_le fits (Nat.pow_le_pow_right (by decide) most)
  have read := digits_padded (long ▸ most) (by omega) stops
  unfold fraction
  refine except_bind_ok.mpr ⟨(n, rest), read, ?_⟩
  simp only [List.length_append, long, Nat.add_sub_cancel, dropWhile_stops stops]
  rfl

/-- The digits of a fraction, if there are any. -/
theorem fractionText_cases {nanos : Nat} (less : nanos < 1000000000) :
    nanos = 0 ∧ fractionText nanos = "" ∨ ∃ width n, fractionText nanos = "." ++ padded width n ∧
      n < 10 ^ width ∧ 0 < width ∧ width ≤ 9 ∧ n * 10 ^ (9 - width) = nanos := by
  unfold fractionText
  split
  · next zero => exact .inl ⟨zero, rfl⟩
  · refine .inr ?_
    split
    · exact ⟨3, nanos / 1000000, rfl, by omega, by decide, by decide, by omega⟩
    · split
      · exact ⟨6, nanos / 1000, rfl, by omega, by decide, by decide, by omega⟩
      · exact ⟨9, nanos, rfl, by omega, by decide, by decide, by omega⟩

private theorem instantOf_shown {t : Instant} (h : t.Representable) :
    let leap := 1000000000 ≤ t.nanos
    instantOf { t.moment with second := if leap then t.moment.second + 1 else t.moment.second }
      (if leap then t.nanos - 1000000000 else t.nanos) 0 = .ok t := by
  obtain ⟨range, nanos⟩ := h
  have valid : t.moment.date.isValid = true := Date.isValid_ofDays _
  have seconds := t.toSeconds_moment
  have bounds := t.moment_bounds
  have whole {n : Nat} (same : n = t.nanos) :
      (if yearInRange (Instant.moment ⟨t.moment.toSeconds - 0, n⟩).date.year then
        Except.ok (⟨t.moment.toSeconds - 0, n⟩ : Instant)
      else .error ParseError.impossible) = .ok t := by
    have eq : (⟨t.moment.toSeconds - 0, n⟩ : Instant) = t := by
      rw [same, seconds, Int.sub_zero]
    rw [eq, if_pos range]
  intro leap
  simp only [instantOf, range, valid, Bool.and_self, Bool.not_true, Bool.false_eq_true, if_false]
  rw [if_neg (by decide)]
  by_cases more : 1000000000 ≤ t.nanos
  · have last : t.moment.second = 59 := by omega
    have sixty : (if leap then t.moment.second + 1 else t.moment.second) = 60 := by
      rw [if_pos more, last]
    have moment : { t.moment with second := 59 } = t.moment := by rw [← last]
    rw [sixty, if_pos more]
    simp only [if_true, moment]
    exact whole (by omega)
  · have plain : (if leap then t.moment.second + 1 else t.moment.second) = t.moment.second :=
      if_neg more
    have less : t.moment.second ≠ 60 := by omega
    rw [plain, if_neg more]
    simp only [less, if_false]
    exact whole rfl

private theorem toList_toText (t : Instant) :
    let m := t.moment
    let leap := 1000000000 ≤ t.nanos
    t.toText.toList = (yearText m.date.year).toList ++ '-' :: ((padded 2 m.date.month).toList ++ '-' ::
      ((padded 2 m.date.day).toList ++ 'T' :: ((padded 2 m.hour).toList ++ ':' ::
        ((padded 2 m.minute).toList ++ ':' ::
          ((padded 2 (if leap then m.second + 1 else m.second)).toList ++
            ((fractionText (if leap then t.nanos - 1000000000 else t.nanos)).toList ++ ['Z'])))))) := by
  simp [Instant.toText, dateText, timeText]

end Rfc3339

open Rfc3339

/-- What is written is read as the same instant. -/
theorem parseLenient_toText {t : Instant} (h : t.Representable) : parseLenient t.toText = .ok t := by
  obtain ⟨month, month', day, day'⟩ := Date.ofDays_bounds (t.seconds / 86400)
  obtain ⟨hour, minute, second⟩ := t.moment_bounds
  have shown := instantOf_shown h
  have text := toList_toText t
  dsimp only at shown text
  have most : (if 1000000000 ≤ t.nanos then t.moment.second + 1 else t.moment.second) ≤ 60 := by
    split <;> omega
  have less : (if 1000000000 ≤ t.nanos then t.nanos - 1000000000 else t.nanos) < 1000000000 := by
    have nanos := h.2
    split <;> omega
  generalize (if 1000000000 ≤ t.nanos then t.moment.second + 1 else t.moment.second) = s at *
  generalize (if 1000000000 ≤ t.nanos then t.nanos - 1000000000 else t.nanos) = n at *
  have stops {c : Char} {cs : List Char} (h : c.isDigit = false) : Stops (c :: cs) := by
    rintro _ ⟨⟩
    exact h
  unfold parseLenient
  rw [text]
  refine except_bind_ok.mpr ⟨_, lenientYear_yearText h.1 (stops rfl), ?_⟩
  refine except_bind_ok.mpr ⟨_, lenientMark_cons rfl, ?_⟩
  refine except_bind_ok.mpr ⟨_, bounded_padded ⟨month, month'⟩ (by decide) (stops rfl), ?_⟩
  refine except_bind_ok.mpr ⟨_, lenientMark_cons rfl, ?_⟩
  refine except_bind_ok.mpr ⟨_, bounded_padded ⟨day, day'⟩ (by decide) (stops rfl), ?_⟩
  refine except_bind_ok.mpr ⟨((), _), rfl, ?_⟩
  refine except_bind_ok.mpr ⟨_, bounded_padded ⟨Nat.zero_le _, hour⟩ (by decide) (stops rfl), ?_⟩
  refine except_bind_ok.mpr ⟨_, lenientMark_cons rfl, ?_⟩
  refine except_bind_ok.mpr ⟨_, bounded_padded ⟨Nat.zero_le _, minute⟩ (by decide) (stops rfl), ?_⟩
  refine except_bind_ok.mpr ⟨_, lenientMark_cons rfl, ?_⟩
  rcases fractionText_cases less with ⟨rfl, none⟩ | ⟨width, digits, some, fits, wide, short, whole⟩
  · rw [none]
    refine except_bind_ok.mpr ⟨_, bounded_padded ⟨Nat.zero_le _, most⟩ (by decide) (stops rfl), ?_⟩
    exact shown
  · rw [some, String.toList_append]
    refine except_bind_ok.mpr ⟨_, bounded_padded ⟨Nat.zero_le _, most⟩ (by decide) (stops rfl), ?_⟩
    refine except_bind_ok.mpr ⟨_, fraction_padded fits wide short (stops rfl), ?_⟩
    rw [whole]
    exact shown

end Automation.Time
