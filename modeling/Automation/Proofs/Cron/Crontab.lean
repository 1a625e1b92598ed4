import Automation.Proofs.Cron.Reading
import Automation.Proofs.Text.Blank
import Mathlib

/-!
Fields as a crontab has them: numbers in digits or by name, ranges, an asterisk, and steps through these, in lists
between commas. Each field is read as the numbers of its runs, unless a run begins before the unit does.
-/
namespace Automation.Cron

/-- Every `step`-th number from `first` to `last`. -/
structure Run where
  first : Nat
  last : Nat
  step : Nat := 1
  deriving DecidableEq

def Run.has (r : Run) (n : Nat) : Bool := r.first ≤ n && n ≤ r.last && (n - r.first) % r.step == 0

/-- Some run of a field has the number. -/
def anyHas (runs : List Run) (n : Nat) : Bool := runs.any (·.has n)

/-- A field of a crontab: the numbers that may be written, the number at which an asterisk begins, and the names
of the numbers from the least one on. -/
structure Column where
  least : Nat
  greatest : Nat
  start : Nat := least
  names : List String := []

namespace Column

def minute : Column := { least := 0, greatest := 59 }

def hour : Column := { least := 0, greatest := 23 }

def dayOfMonth : Column := { least := 1, greatest := 31 }

def month : Column where
  least := 1
  greatest := 12
  names := ["jan", "feb", "mar", "apr", "may", "jun", "jul", "aug", "sep", "oct", "nov", "dec"]

/-- Sunday is both 0 and 7, so that from 1 on every day is counted once. -/
def weekday : Column := { least := 0, greatest := 7, start := 1 }

end Column

/-- Digits, and the number that they are. -/
structure Digits (cs : List Char) (n : Nat) : Prop where
  filled : cs ≠ []
  digits : ∀ c ∈ cs, c.isDigit = true
  value : Nat.ofDigitChars 10 cs 0 = n

namespace Column

/-- A name of the column in any case, and the number that has it. -/
def Names (c : Column) (cs : List Char) (n : Nat) : Prop :=
  (String.ofList (cs.map Char.toLower), n) ∈ c.names.zipIdx c.least

/-- How all numbers from one to another are written. -/
inductive Spans (c : Column) : List Char → Nat → Nat → Prop
  | asterisk : c.Spans ['*'] c.start c.greatest
  | digits {cs ds first last} : Digits cs first → Digits ds last → c.Spans (cs ++ '-' :: ds) first last
  | names {cs ds first last} : c.Names cs first → c.Names ds last → c.Spans (cs ++ '-' :: ds) first last

/-- How a run is written. -/
inductive Spells (c : Column) : List Char → Run → Prop
  | digits {cs n} : Digits cs n → c.Spells cs ⟨n, n, 1⟩
  | name {cs n} : c.Names cs n → c.Spells cs ⟨n, n, 1⟩
  | span {cs first last} : c.Spans cs first last → c.Spells cs ⟨first, last, 1⟩
  | stepped {cs ds first last step} : c.Spans cs first last → Digits ds step →
      c.Spells (cs ++ '/' :: ds) ⟨first, last, step⟩

/-- The run is in order and inside the column, and its step is a positive number of 32 bits. -/
structure Allows (c : Column) (r : Run) : Prop where
  least : c.least ≤ r.first
  ordered : r.first ≤ r.last
  greatest : r.last ≤ c.greatest
  step : 0 < r.step ∧ r.step < 0x100000000

/-- How a field is written that lists some runs. -/
inductive Lists (c : Column) : List Char → List Run → Prop
  | single {cs r} : c.Spells cs r → c.Allows r → c.Lists cs [r]
  | cons {cs ds r runs} : c.Spells cs r → c.Allows r → c.Lists ds runs → c.Lists (cs ++ ',' :: ds) (r :: runs)

/-- The column is read as one of a unit. -/
structure IsOf (c : Column) (unit : TimeUnit) : Prop where
  start : c.start = unit.least
  greatest : c.greatest = unit.greatest
  narrow : unit.greatest < 0x100000000
  named : ∀ entry ∈ c.names.zipIdx c.least, unit.names.lookup entry.1 = some entry.2 ∧
    entry.1.toList ≠ [] ∧ entry.1.toList.all Char.isLower = true

theorem minute_second : minute.IsOf .second := ⟨rfl, rfl, by decide, nofun⟩

theorem minute_minute : minute.IsOf .minute := ⟨rfl, rfl, by decide, nofun⟩

theorem hour_hour : hour.IsOf .hour := ⟨rfl, rfl, by decide, nofun⟩

theorem dayOfMonth_dayOfMonth : dayOfMonth.IsOf .dayOfMonth := ⟨rfl, rfl, by decide, nofun⟩

theorem month_month : month.IsOf .month := ⟨rfl, rfl, by decide, by decide⟩

theorem weekday_dayOfWeek : weekday.IsOf .dayOfWeek := ⟨rfl, rfl, by decide, nofun⟩

end Column

variable {c : Column} {unit : TimeUnit} {r : Run} {runs : List Run} {first last step n : Nat}

theorem Run.has_iff : r.has n = true ↔ r.first ≤ n ∧ n ≤ r.last ∧ (n - r.first) % r.step = 0 := by
  simp [has, and_assoc]

theorem Run.has_range : (Run.mk first last 1).has n = true ↔ first ≤ n ∧ n ≤ last := by
  rw [has_iff]
  exact and_congr_right fun _ => and_iff_left (Nat.mod_one _)

theorem Run.has_point : (Run.mk first first 1).has n = true ↔ n = first := by
  rw [has_range]
  omega

theorem Run.has_first (ordered : r.first ≤ r.last) : r.has r.first = true := by
  simp [has, ordered]

theorem anyHas_iff : anyHas runs n = true ↔ ∃ r ∈ runs, r.has n = true := List.any_eq_true

/-- The runs of a field are ones that its column allows. -/
theorem Column.Lists.allows {cs : List Char} (lists : c.Lists cs runs) : ∀ r ∈ runs, c.Allows r := by
  induction lists with
  | single _ allows => exact List.forall_mem_singleton.mpr allows
  | cons _ allows _ ih => exact List.forall_mem_cons.mpr ⟨allows, ih⟩

/-- A field lists a number at least. -/
theorem Column.Lists.exists_has {cs : List Char} (lists : c.Lists cs runs) :
    ∃ n, c.least ≤ n ∧ n ≤ c.greatest ∧ anyHas runs n = true := by
  have pick {r : Run} (known : r ∈ runs) : ∃ n, c.least ≤ n ∧ n ≤ c.greatest ∧ anyHas runs n = true := by
    have allows := lists.allows r known
    exact ⟨r.first, allows.least, allows.ordered.trans allows.greatest,
      anyHas_iff.mpr ⟨r, known, Run.has_first allows.ordered⟩⟩
  cases lists with
  | single => exact pick List.mem_cons_self
  | cons => exact pick List.mem_cons_self

theorem mem_everyNth : n ∈ everyNth step (List.range' first (last + 1 - first)) ↔
    (Run.mk first last step).has n = true := by
  simp only [everyNth, List.mem_map, List.mem_filter, Prod.exists, List.mem_zipIdx_iff_getElem?,
    exists_and_right, exists_eq_right, beq_iff_eq, Run.has_iff]
  constructor
  · rintro ⟨place, at_place, divides⟩
    obtain ⟨inside, value⟩ := List.getElem?_eq_some_iff.mp at_place
    rw [List.length_range'] at inside
    rw [List.getElem_range'] at value
    have behind : n - first = place := by omega
    exact ⟨by omega, by omega, behind ▸ divides⟩
  · rintro ⟨least, greatest, divides⟩
    refine ⟨n - first, ?_, divides⟩
    rw [List.getElem?_range' (by omega)]
    exact congrArg some (by omega)

/-- The item has the numbers of a run, or none because the run begins before the unit does. -/
def Item.Gives (unit : TimeUnit) (i : Item) (r : Run) : Prop :=
  (∃ numbers, i.numbers? unit = some numbers ∧ ∀ n, n ∈ numbers ↔ r.has n = true) ∨
    i.numbers? unit = none ∧ r.first < unit.least

theorem between?_eq (ordered : first ≤ last) (inside : last ≤ unit.greatest) :
    Specifier.between? unit first last =
      if unit.least ≤ first then some (List.range' first (last + 1 - first)) else none := by
  unfold Specifier.between? TimeUnit.contains
  by_cases least : unit.least ≤ first
  · rw [if_pos least, if_pos (by simp; omega)]
  · rw [if_neg least, if_neg (by simp; omega)]

/-- A specifier of several numbers: those from the first to the last, if all of them are of the unit. -/
structure Specifier.Covers (unit : TimeUnit) (specifier : Specifier) (first last : Nat) : Prop where
  several : ∀ n, specifier ≠ .point n
  numbers : specifier.numbers? unit =
    if unit.least ≤ first then some (List.range' first (last + 1 - first)) else none

theorem Specifier.Covers.plain {specifier : Specifier} (covers : specifier.Covers unit first last) :
    (Item.plain specifier).Gives unit ⟨first, last, 1⟩ := by
  have numbers : (Item.plain specifier).numbers? unit = specifier.numbers? unit := rfl
  rw [Item.Gives, numbers, covers.numbers]
  split
  · refine .inl ⟨_, rfl, fun n => ?_⟩
    rw [List.mem_range'_1, Run.has_range]
    omega
  · next early => exact .inr ⟨rfl, Nat.not_le.mp early⟩

theorem Specifier.Covers.stepped {specifier : Specifier} (covers : specifier.Covers unit first last)
    (positive : 0 < step) : (Item.stepped specifier step).Gives unit ⟨first, last, step⟩ := by
  have numbers : (Item.stepped specifier step).numbers? unit =
      (specifier.numbers? unit).map (everyNth step) := by
    cases specifier with
    | point n => exact absurd rfl (covers.several n)
    | all | range | namedRange => exact if_neg (Nat.ne_of_gt positive)
  rw [Item.Gives, numbers, covers.numbers]
  split
  · exact .inl ⟨_, rfl, fun n => mem_everyNth⟩
  · next early => exact .inr ⟨rfl, Nat.not_le.mp early⟩

theorem Item.gives_point : (Item.plain (.point n)).Gives unit ⟨n, n, 1⟩ :=
  .inl ⟨[n], rfl, fun m => by rw [List.mem_singleton, Run.has_point]⟩

theorem Item.gives_named {name : List Char} (known : unit.ofName? name = some n) :
    (Item.named name).Gives unit ⟨n, n, 1⟩ :=
  .inl ⟨[n], by rw [numbers?, known]; rfl, fun m => by rw [List.mem_singleton, Run.has_point]⟩

section

variable {items : List Item}

/-- Items whose runs all begin in the unit have the numbers of the runs. -/
theorem exists_mapM (gives : List.Forall₂ (Item.Gives unit) items runs)
    (inside : ∀ r ∈ runs, unit.least ≤ r.first) : ∃ lists, items.mapM (·.numbers? unit) = some lists ∧
      ∀ n, n ∈ lists.flatten ↔ anyHas runs n = true := by
  induction gives with
  | nil => exact ⟨[], rfl, by simp [anyHas]⟩
  | @cons i r items runs here _ ih =>
    rw [List.forall_mem_cons] at inside
    obtain ⟨lists, others, mem_others⟩ := ih inside.2
    rcases here with ⟨numbers, some, mem_numbers⟩ | ⟨-, early⟩
    · refine ⟨numbers :: lists, by simp [List.mapM_cons, some, others], fun n => ?_⟩
      rw [List.flatten_cons, List.mem_append, mem_numbers, mem_others]
      simp [anyHas]
    · exact absurd inside.1 (Nat.not_le.mpr early)

theorem numbersOf?_eq {lists : List (List Nat)} (some : items.mapM (·.numbers? unit) = some lists) :
    numbersOf? unit items = if lists.flatten.all unit.contains then
      .some (unit.all.filter lists.flatten.contains) else none := by
  unfold numbersOf? guard
  rw [some]
  dsimp only [Option.bind_eq_bind, Option.bind_some]
  split <;> rfl

theorem exists_numbersOf? (gives : List.Forall₂ (Item.Gives unit) items runs)
    (inside : ∀ r ∈ runs, unit.least ≤ r.first ∧ r.last ≤ unit.greatest) :
    ∃ numbers, numbersOf? unit items = some numbers ∧ ∀ n, n ∈ numbers ↔ anyHas runs n = true := by
  obtain ⟨lists, some, mem_lists⟩ := exists_mapM gives fun r known => (inside r known).1
  have of_unit : ∀ n ∈ lists.flatten, unit.contains n = true := by
    intro n known
    obtain ⟨r, here, has⟩ := anyHas_iff.mp ((mem_lists n).mp known)
    obtain ⟨least, greatest, -⟩ := Run.has_iff.mp has
    have := inside r here
    simp only [TimeUnit.contains, Bool.and_eq_true, decide_eq_true_eq]
    omega
  refine ⟨unit.all.filter lists.flatten.contains, ?_, fun n => ?_⟩
  · rw [numbersOf?_eq some, if_pos (List.all_eq_true.mpr of_unit)]
  · rw [List.mem_filter, List.contains_iff_mem, mem_lists, and_iff_right_iff_imp]
    intro has
    have bounds := of_unit n ((mem_lists n).mpr has)
    simp only [TimeUnit.contains, Bool.and_eq_true, decide_eq_true_eq] at bounds
    simp only [TimeUnit.all, List.mem_range'_1]
    omega

/-- Items that all have numbers have the first ones of their runs among them. -/
theorem first_mem_flatten {lists : List (List Nat)} (gives : List.Forall₂ (Item.Gives unit) items runs)
    (some : items.mapM (·.numbers? unit) = some lists) (known : r ∈ runs)
    (ordered : r.first ≤ r.last) : r.first ∈ lists.flatten := by
  induction gives generalizing lists with
  | nil => cases known
  | @cons i r' items runs here _ ih =>
    rw [List.mapM_cons] at some
    obtain ⟨numbers, one, some⟩ := Option.bind_eq_some_iff.mp some
    obtain ⟨others, more, some⟩ := Option.bind_eq_some_iff.mp some
    cases some
    rw [List.flatten_cons, List.mem_append]
    rcases List.mem_cons.mp known with rfl | known
    · rcases here with ⟨_, same, mem_numbers⟩ | ⟨none, -⟩
      · cases one.symm.trans same
        exact .inl ((mem_numbers _).mpr (Run.has_first ordered))
      · cases one.symm.trans none
    · exact .inr (ih more known)

theorem numbersOf?_eq_none (gives : List.Forall₂ (Item.Gives unit) items runs) (known : r ∈ runs)
    (ordered : r.first ≤ r.last) (early : r.first < unit.least) : numbersOf? unit items = none := by
  cases read : items.mapM (·.numbers? unit) with
  | none =>
    unfold numbersOf?
    rw [read]
    rfl
  | some lists =>
    rw [numbersOf?_eq read]
    refine if_neg fun inside => ?_
    have first := List.all_eq_true.mp inside r.first (first_mem_flatten gives read known ordered)
    simp only [TimeUnit.contains, Bool.and_eq_true, decide_eq_true_eq] at first
    omega

end

variable {cs rest : List Char} {ch : Char} {question : Bool}

namespace Reader

theorem not_isDigit_of_isAlpha (letter : ch.isAlpha = true) : ch.isDigit = false := by
  simp only [Char.isAlpha, Char.isUpper, Char.isLower, Bool.or_eq_true, Bool.and_eq_true, decide_eq_true_eq,
    ge_iff_le, UInt32.le_iff_toNat_le] at letter
  simp only [Char.isDigit, Bool.and_eq_false_iff, decide_eq_false_iff_not, ge_iff_le, UInt32.le_iff_toNat_le]
  simp at letter ⊢
  omega

theorem ordinal_eq_none (letter : ∀ d ∈ cs.head?, d.isAlpha = true) : ordinal cs = none := by
  have none : spaced Char.isDigit cs = none :=
    spaced_eq_none (fun d first => not_isGap_of_isAlphanum (isAlphanum_of_isAlpha (letter d first)))
      fun d first => not_isDigit_of_isAlpha (letter d first)
  unfold ordinal
  rw [none]
  rfl

/-- What stands behind an item goes on neither with it nor, even behind a gap, with a range or a step. -/
structure Closes (rest : List Char) : Prop where
  first : ∀ d ∈ rest.head?, d.isAlphanum = false ∧ d ≠ '-' ∧ d ≠ '/'
  behind : ∀ d ∈ (skipGap rest).head?, d ≠ '-' ∧ d ≠ '/'

theorem closes_comma (rest : List Char) : Closes (',' :: rest) := by
  constructor <;> intro d first <;> cases first <;> decide

/-- What stands behind a field: nothing, or a gap and no more items. -/
structure Ends (rest : List Char) : Prop where
  first : ∀ d ∈ rest.head?, isGap d = true
  behind : ∀ d ∈ (skipGap rest).head?, d ≠ '-' ∧ d ≠ '/' ∧ d ≠ ','

theorem Ends.closes (ends : Ends rest) : Closes rest where
  first d first := by
    have gap := ends.first d first
    simp only [isGap, Bool.or_eq_true, beq_iff_eq] at gap
    rcases gap with ((rfl | rfl) | rfl) | rfl <;> decide
  behind d first := ⟨(ends.behind d first).1, (ends.behind d first).2.1⟩

end Reader

open Reader

theorem Digits.isAlphanum_first (digits : Digits cs n) (rest : List Char) :
    ∀ d ∈ (cs ++ rest).head?, d.isAlphanum = true := fun d first =>
  isAlphanum_of_isDigit (forall_first digits.filled digits.digits rest d first)

theorem Digits.ordinal_append (digits : Digits cs n) (small : n < 0x100000000)
    (stops : ∀ d ∈ rest.head?, d.isDigit = false) : ordinal (cs ++ rest) = some (n, skipGap rest) :=
  Reader.ordinal_append digits.filled digits.digits digits.value small stops

/-- A name of the column is one of the unit, in letters. -/
theorem Column.Names.spec (of : c.IsOf unit) (names : c.Names cs n) :
    unit.ofName? cs = some n ∧ cs ≠ [] ∧ ∀ d ∈ cs, d.isAlpha = true := by
  obtain ⟨known, filled, small⟩ := of.named _ names
  refine ⟨known, by simpa using filled, fun d letter => (Char.isLower_toLower_eq_isAlpha d).symm.trans ?_⟩
  rw [String.toList_ofList, List.all_map, List.all_eq_true] at small
  exact small d letter

/-- An asterisk or a range is read as a specifier of the numbers that it spans. -/
theorem exists_specifier (of : c.IsOf unit) (spans : c.Spans cs first last) (ordered : first ≤ last)
    (inside : last ≤ c.greatest) (stops : ∀ d ∈ rest.head?, d.isAlphanum = false) (question : Bool) :
    ∃ s rest', specifier question (cs ++ rest) = some (s, rest') ∧ (rest' = rest ∨ rest' = skipGap rest) ∧
      s.Covers unit first last := by
  rw [of.greatest] at inside
  have narrow := of.narrow
  cases spans with
  | asterisk =>
    refine ⟨.all, rest, by cases question <;> simp [specifier, char], .inl rfl, fun _ => Specifier.noConfusion, ?_⟩
    rw [of.start, of.greatest, if_pos (Nat.le_refl _)]
    rfl
  | @digits cs ds _ _ one two =>
    rw [List.append_assoc, List.cons_append]
    have stops' : ∀ d ∈ rest.head?, d.isDigit = false := fun d first =>
      not_isDigit_of_not_isAlphanum (stops d first)
    have head : ordinal (cs ++ '-' :: (ds ++ rest)) = some (first, '-' :: (ds ++ rest)) :=
      one.ordinal_append (by omega) (fun d first => Option.some.inj first ▸ rfl)
    have read := dashed_some head (two.ordinal_append (by omega) stops')
    refine ⟨.range first last, skipGap rest, ?_, .inr rfl, fun _ => Specifier.noConfusion, between?_eq ordered inside⟩
    rw [specifier_eq question (one.isAlphanum_first _), read]
    rfl
  | @names cs ds _ _ one two =>
    obtain ⟨known, filled, letters⟩ := one.spec of
    obtain ⟨known', filled', letters'⟩ := two.spec of
    rw [List.append_assoc, List.cons_append]
    have letter : ∀ d ∈ (cs ++ '-' :: (ds ++ rest)).head?, d.isAlpha = true := forall_first filled letters _
    have stops' : ∀ d ∈ rest.head?, d.isAlpha = false := fun d first =>
      not_isAlpha_of_not_isAlphanum (stops d first)
    have head : name (cs ++ '-' :: (ds ++ rest)) = some (cs, '-' :: (ds ++ rest)) :=
      name_append filled letters (fun d first => Option.some.inj first ▸ rfl)
    have read := dashed_some head (name_append filled' letters' stops')
    refine ⟨.namedRange cs ds, skipGap rest, ?_, .inr rfl, fun _ => Specifier.noConfusion, ?_⟩
    · rw [specifier_eq question fun d first => isAlphanum_of_isAlpha (letter d first), read,
        dashed_eq_none_of_none (ordinal_eq_none letter), ordinal_eq_none letter]
      rfl
    · rw [Specifier.numbers?, known, known']
      exact between?_eq ordered inside

/-- An item is read as one that gives the numbers of its run. -/
theorem exists_item (of : c.IsOf unit) (spells : c.Spells cs r) (allows : c.Allows r) (closes : Closes rest)
    (question : Bool) : ∃ i rest', item question (cs ++ rest) = some (i, rest') ∧
      (rest' = rest ∨ rest' = skipGap rest) ∧ i.Gives unit r := by
  have inside := allows.greatest
  have narrow := of.narrow
  rw [of.greatest] at inside
  cases spells with
  | @digits _ n digits =>
    have read : ordinal (cs ++ rest) = some (n, skipGap rest) :=
      digits.ordinal_append (Nat.lt_of_le_of_lt inside narrow) fun d first =>
        not_isDigit_of_not_isAlphanum (closes.first d first).1
    have point : specifier question (cs ++ rest) = some (.point n, skipGap rest) := by
      rw [specifier_eq question (digits.isAlphanum_first rest),
        dashed_eq_none read fun d first => (closes.behind d first).1, read]
      rfl
    exact ⟨_, _, item_plain point fun d first => (closes.behind d first).2, .inr rfl, Item.gives_point⟩
  | @name _ n names =>
    obtain ⟨known, filled, letters⟩ := names.spec of
    have letter : ∀ d ∈ (cs ++ rest).head?, d.isAlpha = true := forall_first filled letters rest
    have read : Reader.name (cs ++ rest) = some (cs, skipGap rest) :=
      name_append filled letters fun d first => not_isAlpha_of_not_isAlphanum (closes.first d first).1
    have nothing : specifier question (cs ++ rest) = none := by
      rw [specifier_eq question fun d first => isAlphanum_of_isAlpha (letter d first),
        dashed_eq_none_of_none (ordinal_eq_none letter), ordinal_eq_none letter,
        dashed_eq_none read fun d first => (closes.behind d first).1]
      rfl
    exact ⟨_, _, item_named nothing read, .inr rfl, Item.gives_named known⟩
  | span spans =>
    obtain ⟨s, rest', read, same, covers⟩ := exists_specifier of spans allows.ordered allows.greatest
      (fun d first => (closes.first d first).1) question
    have single : ∀ d ∈ rest'.head?, d ≠ '/' := by
      rcases same with rfl | rfl
      · exact fun d first => (closes.first d first).2.2
      · exact fun d first => (closes.behind d first).2
    exact ⟨_, _, item_plain read single, same, covers.plain⟩
  | @stepped cs ds _ _ step spans digits =>
    have slash : ∀ d ∈ ('/' :: (ds ++ rest)).head?, d.isAlphanum = false := fun d first =>
      Option.some.inj first ▸ rfl
    obtain ⟨s, rest', read, same, covers⟩ :=
      exists_specifier of spans allows.ordered allows.greatest slash question
    obtain rfl : rest' = '/' :: (ds ++ rest) := same.elim id id
    have step_read : ordinal (ds ++ rest) = some (step, skipGap rest) :=
      digits.ordinal_append allows.step.2 fun d first =>
        not_isDigit_of_not_isAlphanum (closes.first d first).1
    rw [List.append_assoc, List.cons_append]
    exact ⟨_, _, item_stepped read step_read, .inr rfl, covers.stepped allows.step.1⟩

theorem moreItems_eq_nil (single : ∀ d ∈ rest.head?, d ≠ ',') (question : Bool) (fuel : Nat) :
    moreItems question fuel rest = ([], rest) := by
  cases fuel with
  | zero => rfl
  | succ fuel => simp [moreItems, char_eq_none single]

/-- The end of a field ends its list, whether or not the gap is skipped already. -/
theorem Reader.Ends.stops {rest' : List Char} (ends : Ends rest) (same : rest' = rest ∨ rest' = skipGap rest)
    (question : Bool) (fuel : Nat) : moreItems question fuel rest' = ([], rest') ∧ skipGap rest' = skipGap rest := by
  rcases same with rfl | rfl
  · refine ⟨moreItems_eq_nil (fun d first => ?_) question fuel, rfl⟩
    rintro rfl
    cases ends.first ',' first
  · exact ⟨moreItems_eq_nil (fun d first => (ends.behind d first).2.2) question fuel, skipGap_idem rest⟩

/-- The items behind a comma, by induction on the list that is written there. -/
theorem exists_moreItems (of : c.IsOf unit) (lists : c.Lists cs runs) (ends : Ends rest) (question : Bool)
    {fuel : Nat} (enough : cs.length < fuel) : ∃ items rest',
      moreItems question fuel (',' :: (cs ++ rest)) = (items, rest') ∧ skipGap rest' = skipGap rest ∧
        List.Forall₂ (Item.Gives unit) items runs := by
  induction lists generalizing fuel with
  | single spells allows =>
    obtain ⟨fuel, rfl⟩ := Nat.exists_eq_succ_of_ne_zero (Nat.ne_zero_of_lt enough)
    obtain ⟨i, rest', read, same, gives⟩ := exists_item of spells allows ends.closes question
    obtain ⟨last, skipped⟩ := ends.stops same question fuel
    exact ⟨[i], rest', by simp [moreItems, read, last], skipped, .cons gives .nil⟩
  | @cons cs ds r runs spells allows _ ih =>
    obtain ⟨fuel, rfl⟩ := Nat.exists_eq_succ_of_ne_zero (Nat.ne_zero_of_lt enough)
    obtain ⟨i, rest', read, same, gives⟩ :=
      exists_item of spells allows (closes_comma (ds ++ rest)) question
    obtain rfl : rest' = ',' :: (ds ++ rest) := same.elim id id
    have shorter : ds.length < fuel := by
      simp only [List.length_append, List.length_cons] at enough
      omega
    obtain ⟨items, rest', more, skipped, others⟩ := ih shorter
    refine ⟨i :: items, rest', ?_, skipped, .cons gives others⟩
    simp [moreItems, read, more]

/-- A field is read as items that give its runs, and the gap behind it is skipped. -/
theorem exists_items (of : c.IsOf unit) (lists : c.Lists cs runs) (ends : Ends rest) (question : Bool)
    {text : List Char} (start : skipGap text = cs ++ rest) : ∃ list,
      items question text = some (list, skipGap rest) ∧ List.Forall₂ (Item.Gives unit) list runs := by
  unfold items
  rw [start]
  cases lists with
  | single spells allows =>
    obtain ⟨i, rest', read, same, gives⟩ := exists_item of spells allows ends.closes question
    obtain ⟨last, skipped⟩ := ends.stops same question rest'.length
    exact ⟨[i], by simp [read, last, skipped], .cons gives .nil⟩
  | @cons cs ds r runs spells allows others =>
    obtain ⟨i, rest', read, same, gives⟩ :=
      exists_item of spells allows (closes_comma (ds ++ rest)) question
    obtain rfl : rest' = ',' :: (ds ++ rest) := same.elim id id
    have enough : ds.length < (',' :: (ds ++ rest)).length := by
      simp only [List.length_append, List.length_cons]
      omega
    obtain ⟨list, rest', more, skipped, gives'⟩ := exists_moreItems of others ends question enough
    rw [List.append_assoc, List.cons_append, read]
    refine ⟨i :: list, ?_, .cons gives gives'⟩
    simp only [Option.bind_eq_bind, Option.bind_some, more, skipped]
    rfl

namespace Reader

/-- All blanks of a text are gaps between fields. -/
def Spaced (cs : List Char) : Prop := ∀ d ∈ cs, Text.isBlank d = true → isGap d = true

theorem isBlank_of_isGap (gap : isGap ch = true) : Text.isBlank ch = true := by
  simp only [isGap, Bool.or_eq_true, beq_iff_eq] at gap
  rcases gap with ((rfl | rfl) | rfl) | rfl <;> decide

theorem Spaced.skipGap_eq (spaced : Spaced cs) : skipGap cs = Text.trimStart cs := by
  induction cs with
  | nil => rfl
  | cons d rest ih =>
    have same : isGap d = Text.isBlank d := Bool.eq_iff_iff.mpr ⟨isBlank_of_isGap, spaced d List.mem_cons_self⟩
    have later := ih fun d known => spaced d (List.mem_cons_of_mem _ known)
    simp only [skipGap, Text.trimStart, List.dropWhile_cons, same] at later ⊢
    rw [later]

theorem Spaced.suffix (spaced : Spaced cs) (suffix : rest <:+ cs) : Spaced rest :=
  fun d known => spaced d (suffix.subset known)

/-- A word with which a field may begin. -/
def Begins (word : List Char) : Prop := ∀ d ∈ word.head?, d = '*' ∨ d.isAlphanum = true

end Reader

theorem Column.Spans.begins (of : c.IsOf unit) (spans : c.Spans cs first last) (rest : List Char) :
    Begins (cs ++ rest) := by
  intro d first
  cases spans with
  | asterisk => exact .inl (Option.some.inj first).symm
  | digits one =>
    rw [List.append_assoc] at first
    exact .inr (one.isAlphanum_first _ d first)
  | names one =>
    obtain ⟨-, filled, letters⟩ := one.spec of
    rw [List.append_assoc] at first
    exact .inr (isAlphanum_of_isAlpha (forall_first filled letters _ d first))

theorem Column.Spells.begins (of : c.IsOf unit) (spells : c.Spells cs r) (rest : List Char) :
    Begins (cs ++ rest) := by
  cases spells with
  | digits digits => exact fun d first => .inr (digits.isAlphanum_first rest d first)
  | name names =>
    obtain ⟨-, filled, letters⟩ := names.spec of
    exact fun d first => .inr (isAlphanum_of_isAlpha (forall_first filled letters rest d first))
  | span spans => exact spans.begins of rest
  | stepped spans =>
    rw [List.append_assoc]
    exact spans.begins of _

theorem Column.Lists.begins (of : c.IsOf unit) (lists : c.Lists cs runs) : Begins cs := by
  cases lists with
  | single spells =>
    have begins := spells.begins of []
    rwa [List.append_nil] at begins
  | cons spells => exact spells.begins of _

/-- The first word of a text is read as a field, if it is one, and the text goes on with the next word. -/
theorem exists_field (of : c.IsOf unit) {text word : List Char} {words : List (List Char)} (spaced : Spaced text)
    (split : Text.words text = word :: words) (lists : c.Lists word runs) (next : ∀ w ∈ words.head?, Begins w)
    (question : Bool) : ∃ list rest, List.Forall₂ (Item.Gives unit) list runs ∧ Spaced rest ∧
      Text.words rest = words ∧ Text.trimStart rest = rest ∧
      field question unit text = (numbersOf? unit list).map (·, rest) := by
  obtain ⟨rest, start, others, -, -, gap⟩ := Text.exists_of_words_cons split
  have within : rest <:+ text := .trans ⟨word, start.symm⟩ (List.dropWhile_suffix _)
  have spaced' := spaced.suffix within
  have skipped := spaced'.skipGap_eq
  have ends : Ends rest := by
    refine ⟨fun d first => spaced' d (List.mem_of_mem_head? first) (gap d first), fun d first => ?_⟩
    rw [skipped] at first
    cases words with
    | nil =>
      rw [Text.trimStart_eq_nil others] at first
      cases first
    | cons w words =>
      obtain ⟨more, front, -, filled, -⟩ := Text.exists_of_words_cons others
      rw [front, List.head?_append_of_ne_nil _ filled] at first
      rcases next w rfl d first with rfl | known
      · decide
      · exact ⟨ne_of_isAlphanum known rfl, ne_of_isAlphanum known rfl, ne_of_isAlphanum known rfl⟩
  obtain ⟨list, read, gives⟩ := exists_items of lists ends question (spaced.skipGap_eq.trans start)
  have kept : Spaced (skipGap rest) := spaced'.suffix (List.dropWhile_suffix isGap)
  refine ⟨list, skipGap rest, gives, kept, ?_, kept.skipGap_eq.symm.trans (skipGap_idem rest), ?_⟩
  · rw [skipped, Text.words_trimStart, others]
  · unfold field
    rw [read]
    dsimp only [Option.bind_eq_bind, Option.bind_some]
    cases numbersOf? unit list <;> rfl

end Automation.Cron
