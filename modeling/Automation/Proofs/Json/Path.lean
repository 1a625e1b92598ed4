import Automation.Proofs.Store.Update

/-!
Dotted paths into objects. A path whose segments all have names leads to what its first segment names, and
from there along the rest.
-/
namespace Automation

open Json (Value Members)

namespace Text

variable {sep : Char} {cs front back : List Char} {text before after : String}

theorem pieces_of_cutFirst (cut : cutFirst sep cs = some (front, back)) :
    pieces sep cs = front :: pieces sep back := by
  induction cs generalizing front with
  | nil => cases cut
  | cons c rest ih =>
    unfold cutFirst at cut
    rw [pieces]
    split at cut
    · next here =>
      cases cut
      rw [if_pos here]
    · next other =>
      obtain ⟨⟨first, others⟩, later, same⟩ := Option.map_eq_some_iff.mp cut
      cases same
      rw [if_neg other, ih later]

theorem pieces_of_uncut (uncut : cutFirst sep cs = none) : pieces sep cs = [cs] := by
  induction cs with
  | nil => rfl
  | cons c rest ih =>
    unfold cutFirst at uncut
    rw [pieces]
    split at uncut
    · cases uncut
    · next other => rw [if_neg other, ih (Option.map_eq_none_iff.mp uncut)]

theorem splitAll_of_splitOnce (cut : splitOnce sep text = some (before, after)) :
    splitAll sep text = before :: splitAll sep after := by
  obtain ⟨⟨front, back⟩, found, same⟩ := Option.map_eq_some_iff.mp cut
  cases same
  rw [splitAll, splitAll, pieces_of_cutFirst found, List.map_cons, String.toList_ofList]

theorem splitAll_of_unsplit (uncut : splitOnce sep text = none) : splitAll sep text = [text] := by
  rw [splitAll, pieces_of_uncut (Option.map_eq_none_iff.mp uncut), List.map_singleton, String.ofList_toList]

private theorem cutFirst_of_not_mem (absent : sep ∉ cs) : cutFirst sep cs = none := by
  induction cs with
  | nil => rfl
  | cons c rest ih =>
    rw [List.mem_cons, not_or] at absent
    rw [cutFirst, if_neg (Ne.symm absent.1), ih absent.2, Option.map_none]

/-- A text without the separator is not split. -/
theorem splitOnce_of_not_mem (absent : sep ∉ text.toList) : splitOnce sep text = none := by
  rw [splitOnce, cutFirst_of_not_mem absent, Option.map_none]

/-- The first separator is the one behind a text that has none. -/
theorem splitOnce_append (absent : sep ∉ before.toList) :
    splitOnce sep (before ++ String.singleton sep ++ after) = some (before, after) := by
  have parts : (before ++ String.singleton sep ++ after).toList = before.toList ++ sep :: after.toList := by
    simp
  rw [splitOnce, parts, cutFirst_append absent]
  simp

end Text

namespace Json

/-- Each segment of the path has a name. -/
def Named (path : String) : Prop := ∀ segment ∈ Text.splitAll '.' path, segment ≠ ""

instance (path : String) : Decidable (Named path) := List.decidableBAll ..

variable {path first rest : String}

theorem Named.ne_empty (named : Named path) : path ≠ "" := by
  rintro rfl
  exact named "" (by decide) rfl

theorem Named.head (named : Named path) (cut : Text.splitOnce '.' path = some (first, rest)) : first ≠ "" :=
  named first (by rw [Text.splitAll_of_splitOnce cut]; exact List.mem_cons_self)

theorem Named.tail (named : Named path) (cut : Text.splitOnce '.' path = some (first, rest)) : Named rest :=
  fun segment known => named segment (by rw [Text.splitAll_of_splitOnce cut]; exact List.mem_cons_of_mem _ known)

namespace Value

theorem lookup?_of_named (named : Named path) (value : Value) :
    value.lookup? path = value.follow? (Text.splitAll '.' path) := by
  have filled : path.isEmpty = false := by simpa using named.ne_empty
  rw [lookup?, filled]
  rfl

@[simp] theorem lookup?_empty (value : Value) : value.lookup? "" = some value := rfl

theorem lookup?_object_of_splitOnce (named : Named path) (cut : Text.splitOnce '.' path = some (first, rest))
    (members : Members) :
    (Value.object members).lookup? path = (members.get? first).bind (·.lookup? rest) := by
  rw [lookup?_of_named named, Text.splitAll_of_splitOnce cut, follow?]
  congr 1
  funext value
  rw [lookup?_of_named (named.tail cut)]

theorem lookup?_object_of_unsplit (named : Named path) (uncut : Text.splitOnce '.' path = none)
    (members : Members) : (Value.object members).lookup? path = members.get? path := by
  rw [lookup?_of_named named, Text.splitAll_of_unsplit uncut, follow?]
  exact Option.bind_fun_some _

/-- There is nothing below what has neither members nor places. -/
theorem lookup?_eq_none (named : Named path) {value : Value} (bare : ∀ segment, value.step? segment = none) :
    value.lookup? path = none := by
  rw [lookup?_of_named named]
  cases cut : Text.splitOnce '.' path with
  | none => rw [Text.splitAll_of_unsplit cut, follow?, bare, Option.bind_none]
  | some parts => rw [Text.splitAll_of_splitOnce cut, follow?, bare, Option.bind_none]

end Value
end Json
end Automation
