import Automation.Proofs.Condition.Order
import Automation.Proofs.Text.LowerCase

/-!
What a text contains in the eyes of a condition. Both texts are put into small letters as a whole before
the one is looked for in the other. So a part of a text is found there whatever its case, unless it has a
capital sigma that ends a word in the one and not in the other.
-/
namespace Automation

open Json (Value)
open Text (CaseVariant Detached Settled lowerChars)

namespace Condition

variable {a b : Value}

/-- No condition looks into null or for null. -/
theorem contains_iff (left : a ≠ .null) (right : b ≠ .null) : Operator.contains.Holds a b ↔
    lowerChars b.toText.toList <:+: lowerChars a.toText.toList := by
  have present {v : Value} (h : v ≠ .null) : v.isNull = false := by
    cases v with
    | null => exact absurd rfl h
    | _ => rfl
  simp [Operator.Holds, holdsFor, contained, present left, present right, Text.contains_iff]

theorem notContains_iff : Operator.notContains.Holds a b ↔ ¬ Operator.contains.Holds a b := by
  simp [Operator.Holds, holdsFor]

theorem contains_of_settled (front back : List Char) (left : a ≠ .null) (right : b ≠ .null)
    (occurs : a.toText.toList = front ++ b.toText.toList ++ back)
    (settled : Settled front.reverse b.toText.toList back) : Operator.contains.Holds a b := by
  rw [contains_iff left right, occurs]
  exact Text.lowerChars_infix settled

/-- A text contains what literally occurs in it, provided that a capital sigma in the occurrence ends a word
there just if it ends one in the occurrence on its own. That is so if there is none, or if no word goes on
across the ends of the occurrence, or if each has characters on both sides in it that are not case-ignorable.
So a value contains itself, and each part in front or at the end of its text behind or before which no word
goes on. It makes no difference if characters of the texts change their case, as ASCII letters can, or if
a whole text is put into small letters. -/
theorem contained_literally (left : a ≠ .null) (right : b ≠ .null) :
    (∀ front back, a.toText.toList = front ++ b.toText.toList ++ back →
      Settled front.reverse b.toText.toList back →
      Operator.contains.Holds a b ∧ ¬ Operator.notContains.Holds a b) ∧
    (∀ before part after, Detached before part after → Settled before part after) ∧
    (Operator.contains.Holds a a ∧ ¬ Operator.notContains.Holds a a) ∧
    (∀ s rest, a.toText.toList = s.toList ++ rest → Text.meetsCased rest = false →
      Operator.contains.Holds a (.string s) ∧ ¬ Operator.notContains.Holds a (.string s)) ∧
    (∀ s rest, a.toText.toList = rest ++ s.toList → Text.meetsCased rest.reverse = false →
      Operator.contains.Holds a (.string s) ∧ ¬ Operator.notContains.Holds a (.string s)) ∧
    (∀ a' b' : Value, a' ≠ .null → b' ≠ .null →
      List.Forall₂ CaseVariant a.toText.toList a'.toText.toList →
      List.Forall₂ CaseVariant b.toText.toList b'.toText.toList →
      (Operator.contains.Holds a b ↔ Operator.contains.Holds a' b')) ∧
    (∀ c, Text.isAscii c → CaseVariant c c.toUpper) ∧
    (Operator.contains.Holds (.string (Text.lower a.toText)) b ↔ Operator.contains.Holds a b) ∧
    (Operator.contains.Holds a (.string (Text.lower b.toText)) ↔ Operator.contains.Holds a b) := by
  have decided {v : Value} (h : Operator.contains.Holds a v) :
      Operator.contains.Holds a v ∧ ¬ Operator.notContains.Holds a v :=
    ⟨h, fun no => notContains_iff.mp no h⟩
  have text (s : String) : Value.string s ≠ .null := by simp
  have small (s : String) : lowerChars (Value.toText (.string (Text.lower s))).toList =
      lowerChars s.toList := by
    rw [Value.toText, Text.lower, String.toList_ofList, Text.lowerChars_idem]
  refine ⟨?_, fun before part after => Detached.settled, ?_, ?_, ?_, ?_, fun c => Text.caseVariant_toUpper,
    ?_, ?_⟩
  · intro front back occurs settled
    exact decided (contains_of_settled front back left right occurs settled)
  · exact decided ((contains_iff left left).mpr List.infix_rfl)
  · intro s rest occurs ends
    have settled : Settled [] s.toList rest := (Detached.apart rfl ends).settled
    exact decided (contains_of_settled [] rest left (text s) occurs settled)
  · intro s rest occurs ends
    have settled : Settled rest.reverse s.toList [] := (Detached.apart ends rfl).settled
    exact decided (contains_of_settled rest [] left (text s) (occurs.trans (List.append_nil _).symm) settled)
  · intro a' b' left' right' sameLeft sameRight
    rw [contains_iff left right, contains_iff left' right', Text.lowerChars_congr sameLeft,
      Text.lowerChars_congr sameRight]
  · rw [contains_iff (text _) right, contains_iff left right, small]
  · rw [contains_iff left (text _), contains_iff left right, small]

/-- A word is found in a line that begins with it, as its last letter ends a word in both. -/
theorem contained_literally_word :
    Operator.contains.Holds (.string "ΟΔΟΣ ΜΑΣ") (.string "ΟΔΟΣ") ∧
      ¬ Operator.notContains.Holds (.string "ΟΔΟΣ ΜΑΣ") (.string "ΟΔΟΣ") := by
  have settled : Settled [] "ΟΔΟΣ".toList " ΜΑΣ".toList := (Detached.apart rfl (by decide +kernel)).settled
  have line : Value.string "ΟΔΟΣ ΜΑΣ" ≠ .null := by simp
  have word : Value.string "ΟΔΟΣ" ≠ .null := by simp
  exact (contained_literally line word).1 [] " ΜΑΣ".toList (by decide +kernel) settled

/-- The last letter of a word in capitals is not found in it, as it has another small form on its own. -/
theorem contains_lastSigma : "Σ".toList <:+: "ΟΔΟΣ".toList ∧
    ¬ Operator.contains.Holds (.string "ΟΔΟΣ") (.string "Σ") ∧
    Operator.notContains.Holds (.string "ΟΔΟΣ") (.string "Σ") := by
  unfold Operator.Holds
  decide +kernel

end Condition
end Automation
