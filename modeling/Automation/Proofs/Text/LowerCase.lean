import Automation.Text.Case
import Automation.Text.Split
import Mathlib.Data.List.Infix
import Mathlib.Data.List.TakeWhile

/-!
Small letters of a text and of its parts. Only a capital sigma looks at its surroundings, since it has a
small form of its own at the end of a word: so a part of a text has the same small letters there as on its
own just if the surroundings change the end of no word at a capital sigma. Small letters have themselves as
small letters.
-/
namespace Automation.Text

theorem contains_iff {whole part : List Char} : contains whole part = true ↔ part <:+: whole := by
  induction whole with
  | nil => simp [contains]
  | cons c rest ih =>
    rw [contains, Bool.or_eq_true, List.isPrefixOf_iff_prefix, ih, List.infix_cons_iff]

def IsCapitalSigma (c : Char) : Prop := c.toNat = 0x3A3

instance : DecidablePred IsCapitalSigma := fun c => inferInstanceAs (Decidable (c.toNat = 0x3A3))

/-- A capital sigma between two texts, the one before it reversed, stands at the end of a word. -/
def endsWord (before after : List Char) : Bool := meetsCased before && !meetsCased after

/-- Small form of one character between two texts, the one before it reversed. -/
def lowerAt (before : List Char) (c : Char) (after : List Char) : List Char :=
  if IsCapitalSigma c then [Char.ofNat (if endsWord before after then 0x3C2 else 0x3C3)] else lowerChar c

/-- Small letters of `part` between two texts, the one before it reversed. -/
def lowerBetween (before : List Char) : (part after : List Char) → List Char
  | [], _ => []
  | c :: rest, after => lowerAt before c (rest ++ after) ++ lowerBetween (c :: before) rest after

/-- Whether a capital sigma of `part` ends a word is the same between two texts, the one before it reversed,
as it is in `part` on its own. -/
def Settled (before part after : List Char) : Prop :=
  ∀ front sigma back, part = front ++ sigma :: back → IsCapitalSigma sigma →
    endsWord (front.reverse ++ before) (back ++ after) = endsWord front.reverse back

section Surroundings

variable {before after before' after' part front back cs : List Char} {c : Char}

theorem lowerAfter_eq : lowerAfter before cs = lowerBetween before cs [] := by
  induction cs generalizing before with
  | nil => rfl
  | cons c rest ih =>
    rw [lowerAfter, lowerBetween, ih, List.append_nil, lowerAt, endsWord, apply_ite Char.ofNat,
      apply_ite (fun c : Char => [c])]
    rfl

theorem lowerChars_eq : lowerChars cs = lowerBetween [] cs [] := lowerAfter_eq

theorem lowerBetween_append : lowerBetween before (front ++ back) after =
    lowerBetween before front (back ++ after) ++ lowerBetween (front.reverse ++ before) back after := by
  induction front generalizing before with
  | nil => rfl
  | cons c rest ih =>
    rw [List.cons_append, lowerBetween, lowerBetween, ih, List.append_assoc, List.append_assoc,
      List.reverse_cons, List.append_assoc, List.singleton_append]

/-- Where a text is cut in three, its small letters are those of the three parts, each in its place. -/
theorem lowerChars_append₃ : lowerChars (front ++ part ++ back) =
    lowerBetween [] front (part ++ back) ++ lowerBetween front.reverse part back ++
      lowerBetween (part.reverse ++ front.reverse) back [] := by
  rw [lowerChars_eq, lowerBetween_append, lowerBetween_append, List.append_nil, List.append_nil,
    List.reverse_append, List.append_nil]

/-- Small letters of ASCII characters are found one by one. -/
theorem lowerBetween_of_ascii (ascii : ∀ c ∈ cs, isAscii c = true) :
    lowerBetween before cs after = cs.map Char.toLower := by
  induction cs generalizing before with
  | nil => rfl
  | cons c rest ih =>
    obtain ⟨here, others⟩ := List.forall_mem_cons.mp ascii
    have other : ¬ IsCapitalSigma c := fun sigma => by
      rw [isAscii, sigma] at here
      cases here
    rw [lowerBetween, ih others, lowerAt, if_neg other, lowerChar, if_pos here]
    rfl

theorem length_lowerAt : (lowerAt before c after).length = (lowerAt before' c after').length := by
  unfold lowerAt
  split <;> rfl

/-- The two small forms of sigma tell whether it ends a word. -/
theorem lowerAt_eq_iff : lowerAt before c after = lowerAt before' c after' ↔
    (IsCapitalSigma c → endsWord before after = endsWord before' after') := by
  unfold lowerAt
  split
  · next sigma =>
    have apart : Char.ofNat 0x3C2 ≠ Char.ofNat 0x3C3 := by decide
    cases endsWord before after <;> cases endsWord before' after' <;> simp [sigma, apart, apart.symm]
  · next other => simp [other]

/-- The small letters of a text are the same in two places just if each capital sigma in it ends a word in
both places or in neither. -/
theorem lowerBetween_eq_iff : lowerBetween before part after = lowerBetween before' part after' ↔
    ∀ front sigma back, part = front ++ sigma :: back → IsCapitalSigma sigma →
      endsWord (front.reverse ++ before) (back ++ after) =
        endsWord (front.reverse ++ before') (back ++ after') := by
  induction part generalizing before before' with
  | nil => simp [lowerBetween]
  | cons c rest ih =>
    have parts : lowerBetween before (c :: rest) after = lowerBetween before' (c :: rest) after' ↔
        lowerAt before c (rest ++ after) = lowerAt before' c (rest ++ after') ∧
          lowerBetween (c :: before) rest after = lowerBetween (c :: before') rest after' :=
      ⟨fun same => List.append_inj same length_lowerAt, fun ⟨same, same'⟩ => congrArg₂ _ same same'⟩
    rw [parts, lowerAt_eq_iff, ih]
    constructor
    · rintro ⟨first, others⟩ front sigma back cut capital
      cases front with
      | nil =>
        cases cut
        exact first capital
      | cons d front =>
        cases cut
        simpa using others front sigma back rfl capital
    · intro all
      refine ⟨all [] c rest rfl, fun front sigma back cut capital => ?_⟩
      subst cut
      simpa using all (c :: front) sigma back rfl capital

/-- A part of a text has its own small letters there just if its surroundings end no word in it that would
go on, and make none go on that would end. -/
theorem lowerBetween_eq_lowerChars : lowerBetween before part after = lowerChars part ↔
    Settled before part after := by
  rw [lowerChars_eq, lowerBetween_eq_iff, Settled]
  simp only [List.append_nil]

theorem meetsCased_append : meetsCased (cs ++ after) =
    if cs.all isCaseIgnorable then meetsCased after else meetsCased cs := by
  induction cs with
  | nil => rfl
  | cons c rest ih =>
    cases ignorable : isCaseIgnorable c with
    | false => simp [meetsCased, ignorable]
    | true => simpa [meetsCased, ignorable] using ih

/-- What is behind a text that has nothing but case-ignorable characters counts for whether it meets a cased
one; behind others it does not. -/
theorem meetsCased_append_eq (h : (∃ c ∈ cs, isCaseIgnorable c = false) ∨ meetsCased after = false) :
    meetsCased (cs ++ after) = meetsCased cs := by
  rw [meetsCased_append]
  split
  · next all =>
    have ignored : cs.dropWhile isCaseIgnorable = [] :=
      List.dropWhile_eq_nil_iff.mpr (List.all_eq_true.mp all)
    have none : meetsCased after = false := h.resolve_left (by simpa using all)
    rw [none, meetsCased, ignored]
  · rfl

/-- Texts whose capital sigmas are at home wherever they stand: there is none in `part`, or no word goes on
across the ends of `part`, or each of them has characters on both sides that are not case-ignorable. -/
inductive Detached (before part after : List Char) : Prop
  | noSigma (h : ∀ c ∈ part, ¬ IsCapitalSigma c)
  | apart (front : meetsCased before = false) (back : meetsCased after = false)
  | inside (h : ∀ front sigma back, part = front ++ sigma :: back → IsCapitalSigma sigma →
      (∃ c ∈ front, isCaseIgnorable c = false) ∧ ∃ c ∈ back, isCaseIgnorable c = false)

theorem Detached.settled (h : Detached before part after) : Settled before part after := by
  intro front sigma back cut capital
  unfold endsWord
  cases h with
  | noSigma none => exact absurd capital (none sigma (by simp [cut]))
  | apart first last =>
    rw [meetsCased_append_eq (.inr first), meetsCased_append_eq (.inr last)]
  | inside visible =>
    obtain ⟨first, last⟩ := visible front sigma back cut capital
    rw [meetsCased_append_eq (.inl (by simpa using first)), meetsCased_append_eq (.inl last)]

/-- Where a part of a text is settled, its own small letters occur among those of the text. -/
theorem lowerChars_infix (h : Settled front.reverse part back) :
    lowerChars part <:+: lowerChars (front ++ part ++ back) := by
  rw [lowerChars_append₃, lowerBetween_eq_lowerChars.mpr h]
  exact List.infix_append _ _ _

end Surroundings

section Idempotence

/-- Neither the capital sigma nor a character that has a small form other than itself. -/
def IsSmall (c : Char) : Prop := ¬ IsCapitalSigma c ∧ lowerChar c = [c]

variable {c : Char} {cs : List Char}

theorem lowerBetween_of_small {before after : List Char} (h : ∀ c ∈ cs, IsSmall c) :
    lowerBetween before cs after = cs := by
  induction cs generalizing before with
  | nil => rfl
  | cons c rest ih =>
    obtain ⟨⟨other, same⟩, small⟩ := List.forall_mem_cons.mp h
    rw [lowerBetween, ih small, lowerAt, if_neg other, same, List.singleton_append]

/-- Places that the small form of a character never has: those of capitals, and of no characters. -/
private def barred : List CaseRun := ⟨0x130, 0x130, 1, 0⟩ :: ⟨0xD800, 0xDFFF, 1, 0⟩ :: lowerRuns

/-- The run lies above the places from `low` to `high`, or below them, or between them where only every
second one counts. -/
private def avoids (low high : Nat) (second : Bool) (run : CaseRun) : Bool :=
  high.blt run.first || run.last.blt low ||
    (second && run.stride == 2 && (low + run.first) % 2 == 1)

/-- Whatever the run has is sent to a character that is not barred. -/
private def leadsOut (run : CaseRun) : Bool :=
  let low := (run.first + run.shift).toNat
  let high := (run.last + run.shift).toNat
  0 ≤ run.first + run.shift && high < 0x110000 &&
    barred.all (avoids low high (run.stride == 2 || run.first == run.last))

private theorem lowerRuns_leadOut : ∀ run ∈ lowerRuns, leadsOut run = true := by decide +kernel

private theorem run_contains_iff {run : CaseRun} {n : Nat} : run.contains n = true ↔
    run.first ≤ n ∧ n ≤ run.last ∧ (n - run.first) % run.stride = 0 := by
  simp only [CaseRun.contains, Bool.and_eq_true, decide_eq_true_eq, beq_iff_eq, and_assoc]

private theorem not_contains_of_avoids {low high m : Nat} {second : Bool} {run : CaseRun}
    (h : avoids low high second run) (lowest : low ≤ m) (highest : m ≤ high)
    (counts : second → (m - low) % 2 = 0) : ¬ run.contains m := by
  simp only [avoids, Bool.or_eq_true, Bool.and_eq_true, Nat.blt_eq, beq_iff_eq] at h
  rw [run_contains_iff]
  rcases h with (above | below) | ⟨⟨even, stride⟩, between⟩
  · omega
  · omega
  · have place := counts even
    rw [stride]
    omega

/-- Where a run sends a character is the place of a character, and no run has it. -/
private theorem leadsOut_image {run : CaseRun} (h : leadsOut run) {n : Nat} (here : run.contains n) :
    ∃ m : Nat, (n : Int) + run.shift = m ∧ m.isValidChar ∧ m ≠ 0x130 ∧
      ∀ other ∈ lowerRuns, ¬ other.contains m := by
  simp only [leadsOut, Bool.and_eq_true, decide_eq_true_eq, List.all_eq_true] at h
  obtain ⟨⟨nonneg, bound⟩, avoided⟩ := h
  obtain ⟨first, last, step⟩ := run_contains_iff.mp here
  obtain ⟨m, image⟩ : ∃ m : Nat, (n : Int) + run.shift = m := Int.eq_ofNat_of_zero_le (by omega)
  have missed : ∀ other ∈ barred, ¬ other.contains m := by
    intro other mem
    refine not_contains_of_avoids (avoided other mem) (by omega) (by omega) fun second => ?_
    rcases Bool.or_eq_true_iff.mp second with two | single
    · rw [beq_iff_eq.mp two] at step
      omega
    · have same := beq_iff_eq.mp single
      omega
  rw [barred, List.forall_mem_cons, List.forall_mem_cons] at missed
  obtain ⟨dotted, surrogate, runs⟩ := missed
  simp only [run_contains_iff] at dotted surrogate
  refine ⟨m, image, ?_, by omega, runs⟩
  unfold Nat.isValidChar
  omega

private theorem lowerChar_shifted (ascii : ¬ isAscii c) (dotted : c.toNat ≠ 0x130) : lowerChar c =
    [match lowerRuns.find? (·.contains c.toNat) with
      | some run => Char.ofNat ((c.toNat : Int) + run.shift).toNat
      | none => c] := by
  rw [lowerChar, if_neg ascii, if_neg dotted]
  rfl

theorem forall_ascii {P : Char → Prop} (h : ∀ n < 128, P (Char.ofNat n)) (ascii : isAscii c) :
    P c := by
  have here := h c.toNat (by simpa [isAscii] using ascii)
  rwa [Char.ofNat_toNat] at here

private theorem isSmall_toLower (ascii : isAscii c) : IsSmall c.toLower := by
  refine forall_ascii (P := fun c => IsSmall c.toLower) ?_ ascii
  unfold IsSmall
  decide +kernel

private theorem toLower_of_ascii (ascii : isAscii c) :
    c.toLower = c ∨ 0x41 ≤ c.toNat ∧ c.toNat ≤ 0x5A :=
  forall_ascii (P := fun c => c.toLower = c ∨ 0x41 ≤ c.toNat ∧ c.toNat ≤ 0x5A) (by decide +kernel) ascii

private theorem toUpper_of_ascii (ascii : isAscii c) :
    c.toUpper = c ∨ 0x61 ≤ c.toNat ∧ c.toNat < 0x61 + 26 :=
  forall_ascii (P := fun c => c.toUpper = c ∨ 0x61 ≤ c.toNat ∧ c.toNat < 0x61 + 26) (by decide +kernel) ascii

/-- A character that no run has is small. -/
private theorem isSmall_of_missed (dotted : c.toNat ≠ 0x130)
    (h : ∀ run ∈ lowerRuns, ¬ run.contains c.toNat) : IsSmall c := by
  by_cases ascii : isAscii c
  · have first := h ⟨0x41, 0x5A, 1, 32⟩ (.head _)
    simp only [run_contains_iff] at first
    have same : c.toLower = c := (toLower_of_ascii ascii).resolve_right (by omega)
    exact same ▸ isSmall_toLower ascii
  · constructor
    · intro sigma
      obtain ⟨run, mem, here⟩ : ∃ run ∈ lowerRuns, run.contains 0x3A3 = true :=
        List.any_eq_true.mp (by decide +kernel)
      exact h run mem (sigma.symm ▸ here)
    · rw [lowerChar_shifted ascii dotted, List.find?_eq_none.mpr h]

private theorem isSmall_shifted {run : CaseRun} (mem : run ∈ lowerRuns) (here : run.contains c.toNat) :
    IsSmall (Char.ofNat ((c.toNat : Int) + run.shift).toNat) := by
  obtain ⟨m, image, valid, dotted, runs⟩ := leadsOut_image (lowerRuns_leadOut run mem) here
  have place : (Char.ofNat m).toNat = m := by
    rw [Char.ofNat, dif_pos valid]
    rfl
  rw [image, Int.toNat_natCast]
  exact isSmall_of_missed (by rwa [place]) (by rwa [place])

/-- The two small forms of the dotted capital `i`, and those of the capital sigma. -/
private theorem isSmall_special : ∀ n ∈ [0x69, 0x307, 0x3C2, 0x3C3], IsSmall (Char.ofNat n) := by
  have missed : ∀ n ∈ [0x69, 0x307, 0x3C2, 0x3C3], (Char.ofNat n).toNat ≠ 0x130 ∧
      lowerRuns.all (!·.contains (Char.ofNat n).toNat) = true := by decide +kernel
  intro n mem
  obtain ⟨dotted, runs⟩ := missed n mem
  exact isSmall_of_missed dotted (by simpa using runs)

theorem isSmall_of_mem_lowerChar : ∀ d ∈ lowerChar c, IsSmall d := by
  by_cases ascii : isAscii c
  · simpa [lowerChar, ascii] using isSmall_toLower ascii
  · by_cases dotted : c.toNat = 0x130
    · have both : IsSmall 'i' ∧ IsSmall (Char.ofNat 0x307) :=
        ⟨isSmall_special 0x69 (by simp), isSmall_special 0x307 (by simp)⟩
      simpa [lowerChar, ascii, dotted] using both
    · rw [lowerChar_shifted ascii dotted, List.forall_mem_singleton]
      cases found : lowerRuns.find? (·.contains c.toNat) with
      | none => exact isSmall_of_missed dotted (List.find?_eq_none.mp found)
      | some run =>
        have here := List.find?_some found
        exact isSmall_shifted (List.mem_of_find?_eq_some found) here

theorem isSmall_of_mem_lowerBetween {before after : List Char} :
    ∀ d ∈ lowerBetween before cs after, IsSmall d := by
  induction cs generalizing before with
  | nil => exact List.forall_mem_nil _
  | cons c rest ih =>
    rw [lowerBetween, List.forall_mem_append]
    refine ⟨?_, ih⟩
    unfold lowerAt
    split
    · rw [List.forall_mem_singleton]
      split <;> exact isSmall_special _ (by simp)
    · exact isSmall_of_mem_lowerChar

/-- Small letters have themselves as small letters. -/
theorem lowerChars_idem : lowerChars (lowerChars cs) = lowerChars cs := by
  rw [lowerChars_eq, lowerBetween_of_small]
  rw [lowerChars_eq]
  exact isSmall_of_mem_lowerBetween

end Idempotence

section Variants

/-- Two characters that differ in no more than the case: each has the other's small form and counts for the
end of a word as the other does. -/
def CaseVariant (c d : Char) : Prop :=
  (IsCapitalSigma c ↔ IsCapitalSigma d) ∧ lowerChar c = lowerChar d ∧ isCased c = isCased d ∧
    isCaseIgnorable c = isCaseIgnorable d

instance (c d : Char) : Decidable (CaseVariant c d) := inferInstanceAs (Decidable (_ ∧ _))

variable {before before' cs ds : List Char}

theorem meetsCased_congr (h : List.Forall₂ CaseVariant cs ds) : meetsCased cs = meetsCased ds := by
  unfold meetsCased
  induction h with
  | nil => rfl
  | @cons c d _ _ variant _ ih =>
    obtain ⟨-, -, cased, ignorable⟩ := variant
    rw [List.dropWhile_cons, List.dropWhile_cons, ignorable]
    cases isCaseIgnorable d with
    | false => exact cased
    | true => exact ih

theorem lowerAfter_congr (behind : List.Forall₂ CaseVariant before before')
    (h : List.Forall₂ CaseVariant cs ds) : lowerAfter before cs = lowerAfter before' ds := by
  induction h generalizing before before' with
  | nil => rfl
  | @cons c d cs ds variant rest ih =>
    have ⟨sigma, small, _⟩ := variant
    have capital : c.toNat = 0x3A3 ↔ d.toNat = 0x3A3 := sigma
    rw [lowerAfter, lowerAfter, ih (.cons variant behind)]
    simp only [capital, small, meetsCased_congr behind, meetsCased_congr rest]

/-- Texts that differ in no more than the case have the same small letters. -/
theorem lowerChars_congr (h : List.Forall₂ CaseVariant cs ds) : lowerChars cs = lowerChars ds :=
  lowerAfter_congr .nil h

/-- The capital of an ASCII character is a variant of it. -/
theorem caseVariant_toUpper {c : Char} (ascii : isAscii c) : CaseVariant c c.toUpper := by
  have letters : ∀ k < 26, CaseVariant (Char.ofNat (0x61 + k)) (Char.ofNat (0x61 + k)).toUpper := by
    decide +kernel
  rcases toUpper_of_ascii ascii with same | ⟨low, high⟩
  · rw [same]
    exact ⟨.rfl, rfl, rfl, rfl⟩
  · have here := letters (c.toNat - 0x61) (by omega)
    rwa [Nat.add_sub_cancel' low, Char.ofNat_toNat] at here

end Variants

end Automation.Text
