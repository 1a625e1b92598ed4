import Automation.Cron.Schedule
import Mathlib.Data.List.Range

/-!
What is read as a schedule. It lists for each unit of time some of its numbers, in ascending order. Numbers and names
are read up to the first other character and the gap behind it, and an item by what stands in front and behind.
-/
namespace Automation.Cron

/-- Numbers of the unit in ascending order. -/
structure TimeUnit.Lists (unit : TimeUnit) (numbers : List Nat) : Prop where
  ascending : numbers.Pairwise (· < ·)
  within : ∀ n ∈ numbers, unit.least ≤ n ∧ n ≤ unit.greatest

structure Fields.Proper (f : Fields) : Prop where
  seconds : TimeUnit.second.Lists f.seconds
  minutes : TimeUnit.minute.Lists f.minutes
  hours : TimeUnit.hour.Lists f.hours
  daysOfMonth : TimeUnit.dayOfMonth.Lists f.daysOfMonth
  months : TimeUnit.month.Lists f.months
  daysOfWeek : TimeUnit.dayOfWeek.Lists f.daysOfWeek
  years : TimeUnit.year.Lists f.years

variable {unit : TimeUnit}

theorem TimeUnit.lists_all (unit : TimeUnit) : unit.Lists unit.all where
  ascending := List.pairwise_lt_range'
  within n known := by
    have := List.mem_range'_1.mp known
    omega

theorem TimeUnit.lists_single {n : Nat} (within : unit.least ≤ n ∧ n ≤ unit.greatest) : unit.Lists [n] where
  ascending := List.pairwise_singleton ..
  within := List.forall_mem_singleton.mpr within

theorem TimeUnit.Lists.filter {numbers : List Nat} (h : unit.Lists numbers) (p : Nat → Bool) :
    unit.Lists (numbers.filter p) where
  ascending := h.ascending.filter p
  within n known := h.within n (List.mem_filter.mp known).1

theorem lists_numbersOf? {items : List Item} {numbers : List Nat}
    (read : numbersOf? unit items = some numbers) : unit.Lists numbers := by
  obtain ⟨found, -, read⟩ := Option.bind_eq_some_iff.mp read
  obtain ⟨-, -, read⟩ := Option.bind_eq_some_iff.mp read
  cases read
  exact unit.lists_all.filter _

namespace Reader

theorem lists_field {question : Bool} {cs rest : List Char} {numbers : List Nat}
    (read : field question unit cs = some (numbers, rest)) : unit.Lists numbers := by
  unfold field at read
  obtain ⟨⟨list, more⟩, -, read⟩ := Option.bind_eq_some_iff.mp read
  obtain ⟨found, known, read⟩ := Option.bind_eq_some_iff.mp read
  cases read
  exact lists_numbersOf? known

theorem proper_longhand {cs rest : List Char} {f : Fields} (read : longhand cs = some (f, rest)) :
    f.Proper := by
  obtain ⟨⟨seconds, cs⟩, seconds_read, read⟩ := Option.bind_eq_some_iff.mp read
  obtain ⟨⟨minutes, cs⟩, minutes_read, read⟩ := Option.bind_eq_some_iff.mp read
  obtain ⟨⟨hours, cs⟩, hours_read, read⟩ := Option.bind_eq_some_iff.mp read
  obtain ⟨⟨daysOfMonth, cs⟩, daysOfMonth_read, read⟩ := Option.bind_eq_some_iff.mp read
  obtain ⟨⟨months, cs⟩, months_read, read⟩ := Option.bind_eq_some_iff.mp read
  obtain ⟨⟨daysOfWeek, cs⟩, daysOfWeek_read, read⟩ := Option.bind_eq_some_iff.mp read
  have years : TimeUnit.year.Lists ((field false .year cs).getD (TimeUnit.year.all, cs)).1 := by
    cases years_read : field false .year cs with
    | none => exact TimeUnit.lists_all _
    | some years => exact lists_field years_read
  cases read
  exact ⟨lists_field seconds_read, lists_field minutes_read, lists_field hours_read,
    lists_field daysOfMonth_read, lists_field months_read, lists_field daysOfWeek_read, years⟩

end Reader

theorem proper_shorthand {name : String} {f : Fields} (known : (name, f) ∈ shorthands) : f.Proper := by
  have zero : TimeUnit.second.Lists [0] ∧ TimeUnit.minute.Lists [0] ∧ TimeUnit.hour.Lists [0] :=
    ⟨TimeUnit.lists_single (by decide), TimeUnit.lists_single (by decide), TimeUnit.lists_single (by decide)⟩
  have one : TimeUnit.dayOfMonth.Lists [1] ∧ TimeUnit.month.Lists [1] ∧ TimeUnit.dayOfWeek.Lists [1] :=
    ⟨TimeUnit.lists_single (by decide), TimeUnit.lists_single (by decide), TimeUnit.lists_single (by decide)⟩
  simp only [shorthands, List.mem_cons, Prod.mk.injEq, List.not_mem_nil, or_false] at known
  rcases known with ⟨-, rfl⟩ | ⟨-, rfl⟩ | ⟨-, rfl⟩ | ⟨-, rfl⟩ | ⟨-, rfl⟩ <;> constructor <;>
    first | exact TimeUnit.lists_all _ | simp only [zero, one]

theorem Schedule.proper_of_parse {text : String} {s : Schedule} (read : parse text = .ok s) :
    s.fields.Proper := by
  unfold parse at read
  dsimp only at read
  split at read
  · next known =>
    cases read
    rcases Fields.known_of_parse? known with ⟨name, short⟩ | long
    · exact proper_shorthand short
    · exact Reader.proper_longhand long
  · cases read

namespace Reader

variable {cs ds rest more : List Char} {ch other : Char} {n : Nat} {question : Bool}

theorem ne_of_isAlphanum (known : ch.isAlphanum = true) (apart : other.isAlphanum = false) : ch ≠ other := by
  rintro rfl
  rw [known] at apart
  cases apart

theorem not_isGap_of_isAlphanum (known : ch.isAlphanum = true) : isGap ch = false := by
  simp only [isGap, Bool.or_eq_false_iff, beq_eq_false_iff_ne]
  exact ⟨⟨⟨ne_of_isAlphanum known rfl, ne_of_isAlphanum known rfl⟩, ne_of_isAlphanum known rfl⟩,
    ne_of_isAlphanum known rfl⟩

theorem isAlphanum_of_isDigit (digit : ch.isDigit = true) : ch.isAlphanum = true := by
  simp [Char.isAlphanum, digit]

theorem isAlphanum_of_isAlpha (letter : ch.isAlpha = true) : ch.isAlphanum = true := by
  simp [Char.isAlphanum, letter]

theorem not_isDigit_of_not_isAlphanum (apart : ch.isAlphanum = false) : ch.isDigit = false :=
  (Bool.or_eq_false_iff.mp apart).2

theorem not_isAlpha_of_not_isAlphanum (apart : ch.isAlphanum = false) : ch.isAlpha = false :=
  (Bool.or_eq_false_iff.mp apart).1

@[simp]
theorem char_cons_self : char ch (ch :: rest) = some ((), rest) := by
  simp [char]

theorem char_eq_none (first : ∀ d ∈ rest.head?, d ≠ ch) : char ch rest = none := by
  cases rest with
  | nil => rfl
  | cons d rest => simp [char, (first d rfl).symm]

theorem skipGap_eq_self (first : ∀ d ∈ rest.head?, isGap d = false) : skipGap rest = rest := by
  cases rest with
  | nil => rfl
  | cons d rest => simp [skipGap, first d rfl]

theorem skipGap_idem (cs : List Char) : skipGap (skipGap cs) = skipGap cs := by
  refine skipGap_eq_self fun d first => ?_
  have stops := List.head?_dropWhile_not isGap cs
  rw [← skipGap, Option.mem_def.mp first] at stops
  simpa using stops

/-- A text begins as its first part does. -/
theorem forall_first {p : Char → Bool} (filled : cs ≠ []) (inside : ∀ d ∈ cs, p d = true) (rest : List Char) :
    ∀ d ∈ (cs ++ rest).head?, p d = true := by
  intro d first
  rw [List.head?_append_of_ne_nil _ filled] at first
  exact inside d (List.mem_of_mem_head? first)

theorem spaced_append {p : Char → Bool} (filled : cs ≠ []) (inside : ∀ d ∈ cs, p d = true)
    (words : ∀ d, p d = true → d.isAlphanum = true) (stops : ∀ d ∈ rest.head?, p d = false) :
    spaced p (cs ++ rest) = some (cs, skipGap rest) := by
  have kept : skipGap (cs ++ rest) = cs ++ rest := skipGap_eq_self fun d first =>
    not_isGap_of_isAlphanum (words d (forall_first filled inside rest d first))
  have ended : rest.takeWhile p = [] ∧ rest.dropWhile p = rest := by
    cases rest with
    | nil => exact ⟨rfl, rfl⟩
    | cons d rest => simp [stops d rfl]
  unfold spaced
  dsimp only
  rw [kept, List.takeWhile_append_of_pos inside, List.dropWhile_append_of_pos inside, ended.1, ended.2,
    List.append_nil, if_neg (by simpa using filled)]

theorem spaced_eq_none {p : Char → Bool} (gapless : ∀ d ∈ cs.head?, isGap d = false)
    (apart : ∀ d ∈ cs.head?, p d = false) : spaced p cs = none := by
  unfold spaced
  rw [skipGap_eq_self gapless]
  cases cs with
  | nil => rfl
  | cons d rest => simp [apart d rfl]

theorem ordinal_append (filled : cs ≠ []) (digits : ∀ d ∈ cs, d.isDigit = true)
    (value : Nat.ofDigitChars 10 cs 0 = n) (small : n < 0x100000000) (stops : ∀ d ∈ rest.head?, d.isDigit = false) :
    ordinal (cs ++ rest) = some (n, skipGap rest) := by
  have value : cs.foldl (fun n d => n * 10 + (d.toNat - 48)) 0 = n := by
    rw [← value, Nat.ofDigitChars_eq_foldl]
    simp only [Nat.mul_comm 10]
    rfl
  unfold ordinal
  rw [spaced_append filled digits (fun _ => isAlphanum_of_isDigit) stops]
  dsimp only [Option.bind_eq_bind, Option.bind_some]
  rw [value, if_pos small]

theorem name_append (filled : cs ≠ []) (letters : ∀ d ∈ cs, d.isAlpha = true)
    (stops : ∀ d ∈ rest.head?, d.isAlpha = false) : name (cs ++ rest) = some (cs, skipGap rest) :=
  spaced_append filled letters (fun _ => isAlphanum_of_isAlpha) stops

section

variable {α : Type} {end_ : Reader α} {a b : α}

theorem dashed_some (one : end_ cs = some (a, '-' :: more)) (two : end_ more = some (b, rest)) :
    dashed end_ cs = some ((a, b), rest) := by
  simp [dashed, one, two]

theorem dashed_eq_none (one : end_ cs = some (a, more)) (undashed : ∀ d ∈ more.head?, d ≠ '-') :
    dashed end_ cs = none := by
  simp [dashed, one, char_eq_none undashed]

theorem dashed_eq_none_of_none (none : end_ cs = none) : dashed end_ cs = .none := by
  simp [dashed, none]

end

/-- A text that begins with a digit or a letter has no asterisk in front. -/
theorem specifier_eq (question : Bool) (known : ∀ d ∈ cs.head?, d.isAlphanum = true) : specifier question cs =
    (((dashed ordinal cs).map fun ((first, last), rest) => (.range first last, rest)) <|>
      ((ordinal cs).map fun (n, rest) => (.point n, rest)) <|>
      ((dashed name cs).map fun ((first, last), rest) => (.namedRange first last, rest))) := by
  have no_question : char '?' cs = none := char_eq_none fun d first => ne_of_isAlphanum (known d first) rfl
  have no_asterisk : char '*' cs = none := char_eq_none fun d first => ne_of_isAlphanum (known d first) rfl
  cases question <;> simp [specifier, no_question, no_asterisk]

section

variable {s : Specifier}

theorem item_plain (read : specifier question cs = some (s, rest)) (single : ∀ d ∈ rest.head?, d ≠ '/') :
    item question cs = some (.plain s, rest) := by
  simp [item, stepped, read, char_eq_none single]

theorem item_stepped (read : specifier question cs = some (s, '/' :: more)) (step : ordinal more = some (n, rest)) :
    item question cs = some (.stepped s n, rest) := by
  simp [item, stepped, read, step]

theorem item_named (none : specifier question cs = none) (read : name cs = some (ds, rest)) :
    item question cs = some (.named ds, rest) := by
  simp [item, stepped, none, read]

end

end Reader

end Automation.Cron
