import Automation.Proofs.Text.LowerCase

/-!
ASCII words among the small letters of a text. Each of their characters is the small form of one character of the
text, so that the word is spelled by a part of the text, in some case or other. The two exceptions are no characters
of such a word: what a capital sigma becomes, and the point that is left of a dotted capital `i`.
-/
namespace Automation.Text

/-- The character stands for another one, which is its small form or what `g` makes of that. -/
def StandsFor (g : Char → Char) (c d : Char) : Prop := ∃ small, lowerChar c = [small] ∧ g small = d

/-- The text spells the word, character by character. -/
def Spells (g : Char → Char) (part word : List Char) : Prop := List.Forall₂ (StandsFor g) part word

/-- ASCII characters, of which the last one is not the small `i`, and a change that brings no other characters to
ASCII. -/
structure IsWord (g : Char → Char) (word : List Char) : Prop where
  ascii : ∀ c ∈ word, isAscii c = true
  dotless : word.getLast? ≠ some (g 'i')
  outside : ∀ c, isAscii c = false → isAscii (g c) = false

variable {g : Char → Char} {before after word part cs : List Char} {c d : Char}

theorem IsWord.tail (h : IsWord g (d :: word)) : IsWord g word where
  ascii c mem := h.ascii c (List.mem_cons_of_mem d mem)
  dotless last := h.dotless (by rw [List.getLast?_cons, last]; rfl)
  outside := h.outside

theorem IsWord.isAscii_of_eq (h : IsWord g (d :: word)) (same : g c = d) : isAscii c = true := by
  by_contra other
  have here := h.ascii d List.mem_cons_self
  rw [← same, h.outside c (Bool.eq_false_iff.mpr other)] at here
  cases here

/-- The point that is left of a dotted capital `i`. -/
private def point : Char := Char.ofNat 0x307

/-- A small form is one character, which is that of the character on its own if it is ASCII, or the two of the dotted
capital `i`. -/
private theorem lowerAt_cases (before : List Char) (c : Char) (after : List Char) :
    (∃ small, lowerAt before c after = [small] ∧
      (isAscii small = true → ¬ IsCapitalSigma c ∧ lowerChar c = [small])) ∨
    lowerAt before c after = ['i', point] := by
  unfold lowerAt
  split
  · refine .inl ⟨_, rfl, fun ascii => ?_⟩
    split at ascii <;> exact absurd ascii (by decide)
  · next other =>
    unfold lowerChar
    split
    · exact .inl ⟨_, rfl, fun _ => ⟨other, rfl⟩⟩
    · split
      · exact .inr rfl
      · exact .inl ⟨_, rfl, fun _ => ⟨other, rfl⟩⟩

private theorem lowerAt_of_ascii (lower : lowerChar c = [d]) (ascii : isAscii d = true) :
    lowerAt before c after = [d] := by
  have other : ¬ IsCapitalSigma c := by
    intro sigma
    have here : c = Char.ofNat 0x3A3 := by rw [← Char.ofNat_toNat c, sigma]
    rw [here, show lowerChar (Char.ofNat 0x3A3) = [Char.ofNat 0x3C3] by decide +kernel] at lower
    cases lower
    exact absurd ascii (by decide)
  rw [lowerAt, if_neg other, lower]

theorem map_lowerBetween_of_spells (word' : IsWord g word) (h : Spells g part word) :
    (lowerBetween before part after).map g = word := by
  induction h generalizing before with
  | nil => rfl
  | @cons c d part word stands _ ih =>
    obtain ⟨small, lower, same⟩ := stands
    rw [lowerBetween, lowerAt_of_ascii lower (word'.isAscii_of_eq same), List.map_append, ih word'.tail]
    exact congrArg (· :: word) same

/-- The small letters of a text begin with a word just if the text begins with a part that spells it. -/
theorem prefix_iff_spells (word' : IsWord g word) : word <+: (lowerBetween before cs after).map g ↔
    ∃ part, part <+: cs ∧ Spells g part word := by
  constructor
  · intro front
    induction cs generalizing before word with
    | nil =>
      obtain rfl := List.prefix_nil.mp front
      exact ⟨[], List.nil_prefix, .nil⟩
    | cons c rest ih =>
      cases word with
      | nil => exact ⟨[], List.nil_prefix, .nil⟩
      | cons d word =>
        rw [lowerBetween, List.map_append] at front
        rcases lowerAt_cases before c (rest ++ after) with ⟨small, one, own⟩ | two
        · rw [one, List.map_singleton, List.singleton_append, List.cons_prefix_cons] at front
          obtain ⟨same, behind⟩ := front
          obtain ⟨part, inside, spelled⟩ := ih word'.tail behind
          have stands : StandsFor g c d := ⟨small, (own (word'.isAscii_of_eq same.symm)).2, same.symm⟩
          exact ⟨c :: part, List.cons_prefix_cons.mpr ⟨rfl, inside⟩, .cons stands spelled⟩
        · rw [two, List.map_cons, List.map_singleton, List.cons_append, List.singleton_append,
            List.cons_prefix_cons] at front
          obtain ⟨same, behind⟩ := front
          cases word with
          | nil => exact absurd (congrArg some same) word'.dotless
          | cons e word =>
            have other := word'.tail.isAscii_of_eq (List.cons_prefix_cons.mp behind).1.symm
            exact absurd other (by decide)
  · rintro ⟨part, ⟨back, rfl⟩, spelled⟩
    rw [lowerBetween_append, List.map_append, map_lowerBetween_of_spells word' spelled]
    exact List.prefix_append _ _

/-- The small letters of a text contain a word just if a part of the text spells it. -/
theorem infix_iff_spells (word' : IsWord g word) (filled : word ≠ []) :
    word <:+: (lowerBetween before cs after).map g ↔ ∃ part, part <:+: cs ∧ Spells g part word := by
  constructor
  · intro inside
    induction cs generalizing before with
    | nil => exact absurd (List.infix_nil.mp inside) filled
    | cons c rest ih =>
      have atFront (front : word <+: (lowerBetween before (c :: rest) after).map g) :
          ∃ part, part <:+: c :: rest ∧ Spells g part word :=
        let ⟨part, front, spelled⟩ := (prefix_iff_spells word').mp front
        ⟨part, front.isInfix, spelled⟩
      have behind (inside : word <:+: (lowerBetween (c :: before) rest after).map g) :
          ∃ part, part <:+: c :: rest ∧ Spells g part word :=
        let ⟨part, inside, spelled⟩ := ih inside
        ⟨part, List.infix_cons inside, spelled⟩
      have cut := inside
      rw [lowerBetween, List.map_append] at cut
      rcases lowerAt_cases before c (rest ++ after) with ⟨small, one, -⟩ | two
      · rw [one, List.map_singleton, List.singleton_append, List.infix_cons_iff] at cut
        rcases cut with front | inside'
        · refine atFront ?_
          rwa [lowerBetween, List.map_append, one, List.map_singleton]
        · exact behind inside'
      · -- no word begins with the point, which is the second of the two characters
        rw [two, List.map_cons, List.map_singleton, List.cons_append, List.singleton_append, List.infix_cons_iff,
          List.infix_cons_iff] at cut
        rcases cut with front | front | inside'
        · refine atFront ?_
          rwa [lowerBetween, List.map_append, two]
        · obtain ⟨d, others, rfl⟩ := List.exists_cons_of_ne_nil filled
          have other := word'.isAscii_of_eq (List.cons_prefix_cons.mp front).1.symm
          exact absurd other (by decide)
        · exact behind inside'
  · rintro ⟨part, ⟨front, back, rfl⟩, spelled⟩
    rw [lowerBetween_append, lowerBetween_append, List.map_append, List.map_append,
      map_lowerBetween_of_spells word' spelled]
    exact List.infix_append _ _ _

end Automation.Text
