import Automation.Text.Blank
import Mathlib.Data.List.TakeWhile

/-!
Trimming takes blanks away at both ends of a text, and nothing else. The words of a text stand one after the other:
behind the blanks at its front is the first one, up to the next blank, and blanks at the ends make no difference.
-/
namespace Automation.Text

variable {cs before after front back : List Char} {p : Char → Bool} {c : Char}

theorem dropEndWhile_append (dropped : ∀ c ∈ after, p c = true) :
    dropEndWhile p (cs ++ after) = dropEndWhile p cs := by
  have gone : ∀ c ∈ after.reverse, p c = true := fun c known => dropped c (List.mem_reverse.mp known)
  rw [dropEndWhile, List.reverse_append, List.dropWhile_append_of_pos gone]
  rfl

theorem dropEndWhile_of_last (last : cs.getLast? = some c) (kept : p c = false) : dropEndWhile p cs = cs := by
  obtain ⟨front, rfl⟩ := List.getLast?_eq_some_iff.mp last
  rw [dropEndWhile, List.reverse_append, List.reverse_singleton, List.singleton_append,
    List.dropWhile_cons_of_neg (Bool.not_eq_true _ ▸ kept), List.reverse_cons, List.reverse_reverse]

theorem trimEnd_append (blank : ∀ c ∈ after, isBlank c = true) : trimEnd (cs ++ after) = trimEnd cs :=
  dropEndWhile_append blank

/-- Blanks around a text make no difference once it is trimmed. -/
theorem trimChars_padded (blank : ∀ c ∈ before, isBlank c = true) (blank' : ∀ c ∈ after, isBlank c = true) :
    trimChars (before ++ cs ++ after) = trimChars cs := by
  have nothing : after.dropWhile isBlank = [] := List.dropWhile_eq_nil_iff.mpr blank'
  rw [List.append_assoc, trimChars, trimStart, List.dropWhile_append_of_pos blank, List.dropWhile_append]
  split
  · next gone =>
    rw [trimChars, trimStart, List.isEmpty_iff.mp gone, nothing]
  · exact trimEnd_append blank'

/-- Who does not drop the first character of a text does not drop it where more follows. -/
private theorem dropWhile_kept {p : Char → Bool} (filled : front ≠ []) (kept : front.dropWhile p = front) :
    (front ++ back).dropWhile p = front ++ back := by
  rw [List.dropWhile_append, kept, if_neg (by simpa using filled)]

theorem trimStart_append_of_kept (filled : front ≠ []) (kept : trimStart front = front) :
    trimStart (front ++ back) = front ++ back := dropWhile_kept filled kept

theorem trimEnd_append_of_kept (filled : back ≠ []) (kept : trimEnd back = back) :
    trimEnd (front ++ back) = front ++ back := by
  have kept : back.reverse.dropWhile isBlank = back.reverse :=
    (List.reverse_reverse _).symm.trans (congrArg List.reverse kept)
  rw [trimEnd, dropEndWhile, List.reverse_append, dropWhile_kept (by simpa using filled) kept,
    ← List.reverse_append, List.reverse_reverse]

/-- No blank is taken away at either end of a text that trimming leaves alone. -/
theorem trimEnd_of_trimChars (same : trimChars cs = cs) : trimEnd cs = cs := by
  have shorter : (trimStart cs).length ≤ cs.length := (List.dropWhile_suffix isBlank).length_le
  have shortest : (trimChars cs).length ≤ (trimStart cs).length := by
    have suffix := (List.dropWhile_suffix (l := (trimStart cs).reverse) isBlank).length_le
    rw [List.length_reverse] at suffix
    rw [trimChars, trimEnd, dropEndWhile, List.length_reverse]
    exact suffix
  have start : trimStart cs = cs := by
    refine (List.dropWhile_suffix isBlank).eq_of_length (Nat.le_antisymm shorter ?_)
    exact (congrArg List.length same) ▸ shortest
  rwa [trimChars, start] at same

section

variable {word : List Char} {others : List (List Char)}

theorem words_cons_blank (blank : isBlank c = true) : words (c :: cs) = words cs := by
  simp [words, words.go, blank]

theorem words_trimStart (cs : List Char) : words (trimStart cs) = words cs := by
  induction cs with
  | nil => rfl
  | cons c rest ih =>
    by_cases blank : isBlank c = true
    · rw [words_cons_blank blank, ← ih, trimStart, List.dropWhile_cons_of_pos blank, trimStart]
    · rw [trimStart, List.dropWhile_cons_of_neg blank]

/-- A word that is begun goes on to the next blank. -/
private theorem go_eq (cs : List Char) {begun : List Char} (filled : begun ≠ []) :
    words.go cs begun = (begun.reverse ++ cs.takeWhile (!isBlank ·)) :: words (cs.dropWhile (!isBlank ·)) := by
  induction cs generalizing begun with
  | nil =>
    obtain ⟨d, begun, rfl⟩ := List.exists_cons_of_ne_nil filled
    simp [words.go, words]
  | cons c rest ih =>
    cases blank : isBlank c with
    | true => simp [words.go, blank, filled, words]
    | false => simp [words.go, blank, ih]

theorem words_cons (filled : isBlank c = false) : words (c :: cs) =
    (c :: cs.takeWhile (!isBlank ·)) :: words (cs.dropWhile (!isBlank ·)) := by
  rw [words, words.go, if_neg (by simp [filled]), go_eq cs (by simp)]
  rfl

/-- The first character that trimming leaves is no blank. -/
theorem not_blank_of_trimStart (trimmed : trimStart cs = c :: after) : isBlank c = false := by
  have first := List.head?_dropWhile_not isBlank cs
  rw [← trimStart, trimmed] at first
  simpa using first

theorem trimStart_eq_nil (none : words cs = []) : trimStart cs = [] := by
  rw [← words_trimStart] at none
  cases trimmed : trimStart cs with
  | nil => rfl
  | cons c rest =>
    rw [trimmed, words_cons (not_blank_of_trimStart trimmed)] at none
    cases none

/-- The first word stands at the front, and the others are behind it, if there is anything behind a blank. -/
theorem exists_of_words_cons (split : words cs = word :: others) : ∃ rest, trimStart cs = word ++ rest ∧
    words rest = others ∧ word ≠ [] ∧ (∀ c ∈ word, isBlank c = false) ∧
    ∀ c ∈ rest.head?, isBlank c = true := by
  rw [← words_trimStart] at split
  cases trimmed : trimStart cs with
  | nil =>
    rw [trimmed] at split
    cases split
  | cons c rest =>
    have filled := not_blank_of_trimStart trimmed
    rw [trimmed, words_cons filled] at split
    cases split
    refine ⟨rest.dropWhile (!isBlank ·), ?_, rfl, by simp, ?_, ?_⟩
    · rw [List.cons_append, List.takeWhile_append_dropWhile]
    · rintro d (_ | ⟨_, known⟩)
      · exact filled
      · simpa using List.mem_takeWhile_imp known
    · intro d first
      have stops := List.head?_dropWhile_not (!isBlank ·) rest
      rw [Option.mem_def.mp first] at stops
      simpa using stops

private theorem go_append (cs begun : List Char) (blank : ∀ c ∈ after, isBlank c = true) :
    words.go (cs ++ after) begun = words.go cs begun := by
  have nothing : words after = [] := by
    rw [← words_trimStart, trimStart, List.dropWhile_eq_nil_iff.mpr blank]
    rfl
  induction cs generalizing begun with
  | nil =>
    cases begun with
    | nil => exact nothing
    | cons d begun =>
      cases after with
      | nil => rfl
      | cons c after =>
        have first : isBlank c = true := blank c List.mem_cons_self
        rw [words_cons_blank first] at nothing
        simp only [List.nil_append, words.go, first, if_true]
        exact congrArg (_ :: ·) nothing
  | cons c rest ih => simp only [List.cons_append, words.go, ih]

theorem words_append (blank : ∀ c ∈ after, isBlank c = true) : words (cs ++ after) = words cs :=
  go_append cs [] blank

/-- What trimming takes away at the end of a text are blanks. -/
theorem exists_trimEnd (cs : List Char) :
    ∃ after, cs = trimEnd cs ++ after ∧ ∀ c ∈ after, isBlank c = true := by
  refine ⟨(cs.reverse.takeWhile isBlank).reverse, ?_, fun c known => ?_⟩
  · rw [trimEnd, dropEndWhile, ← List.reverse_append, List.takeWhile_append_dropWhile, List.reverse_reverse]
  · exact List.mem_takeWhile_imp (List.mem_reverse.mp known)

theorem words_trimChars (cs : List Char) : words (trimChars cs) = words cs := by
  obtain ⟨after, same, blank⟩ := exists_trimEnd (trimStart cs)
  rw [← words_trimStart cs, same, words_append blank]
  rfl

theorem mem_of_mem_trimChars (known : c ∈ trimChars cs) : c ∈ cs := by
  obtain ⟨after, same, -⟩ := exists_trimEnd (trimStart cs)
  have known : c ∈ trimStart cs := by
    rw [same]
    exact List.mem_append_left _ known
  exact (List.dropWhile_suffix isBlank).subset known

end

end Automation.Text
