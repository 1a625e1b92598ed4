import Automation.Proofs.Program.Interleaving
import Mathlib.Data.List.Sublists

/-!
Programs that look before they act. Between its look and its act the others take turns, and what it has
seen may be spoiled by then. It is not if nobody who spoils it comes in between.
-/
namespace Automation

namespace Turn

variable {ι : Type}

/-- The document was looked up. -/
def looksUp (table : Table) (id : String) : Turn ι → Bool
  | ⟨_, .store (.get other key), _⟩ => other = table ∧ key = id
  | _ => false

/-- The document was changed. -/
def changes (table : Table) (id : String) : Turn ι → Bool
  | ⟨_, .store (.update other key _), .answered (.ok true)⟩ => other = table ∧ key = id
  | _ => false

end Turn

/-- Which turns look at something, which act on what was seen, and which make it wrong. -/
structure Reliance (ι : Type) where
  looks : Turn ι → Bool
  acts : Turn ι → Bool
  spoils : Turn ι → Bool

namespace Reliance

variable {ι : Type} {r : Reliance ι} {turns more : List (Turn ι)} {i : ι} {now later : Prop}

/-- Nobody spoils what a program has seen between its last look and its act. -/
def Undivided (r : Reliance ι) (turns : List (Turn ι)) : Prop :=
  ∀ before look since act after, turns = before ++ look :: since ++ act :: after →
    look.who = act.who → r.looks look → r.acts act →
    (∀ turn ∈ since, turn.who = act.who → r.looks turn = false) →
    ∀ turn ∈ since, r.spoils turn = false

theorem Undivided.earlier (h : r.Undivided (turns ++ more)) : r.Undivided turns := by
  intro before look since act after split
  refine h before look since act (after ++ more) ?_
  rw [split, List.append_assoc]
  rfl

theorem undivided_of_calm (h : ∀ turn ∈ turns, r.spoils turn = false) : r.Undivided turns := by
  intro before look since act after split _ _ _ _ turn known
  refine h turn ?_
  simp [split, known]

theorem undivided_of_idle (h : ∀ turn ∈ turns, r.acts turn = false) : r.Undivided turns := by
  intro before look since act after split _ _ acts
  have idle : r.acts act = false := h act (by simp [split])
  rw [idle] at acts
  cases acts

/-- Turns of one program that look, spoil and act, in this order. -/
def tears [DecidableEq ι] (r : Reliance ι) : List (Turn ι) → Bool
  | [look, spoiler, act] => look.who = act.who && r.looks look && r.spoils spoiler && r.acts act
  | _ => false

theorem undivided_of_untorn [DecidableEq ι]
    (h : ∀ three, three.Sublist turns → r.tears three = false) : r.Undivided turns := by
  intro before look since act after split same looks acts _ spoiler between
  have three : [look, spoiler, act].Sublist (look :: since ++ [act]) :=
    ((List.singleton_sublist.mpr between).append_right [act]).cons_cons look
  have whole : (look :: since ++ [act]).Sublist turns := by
    rw [split, List.append_assoc]
    refine List.Sublist.trans ?_ (List.sublist_append_right ..)
    exact (List.Sublist.refl _).append (List.singleton_sublist.mpr List.mem_cons_self)
  have untorn := h _ (three.trans whole)
  simpa [tears, same, looks, acts] using untorn

theorem undivided_of_sublistsLen [DecidableEq ι] (h : (turns.sublistsLen 3).any r.tears = false) :
    r.Undivided turns := by
  refine undivided_of_untorn fun three within => ?_
  by_cases length : three.length = 3
  · exact Bool.eq_false_iff.mpr
      (List.any_eq_false.mp h three (List.mem_sublistsLen.mpr ⟨within, length⟩))
  · unfold tears
    split
    · exact absurd rfl length
    · rfl

/-- The program has looked, and what it has seen is so now unless somebody has spoiled it since. -/
def Seen (r : Reliance ι) (i : ι) (turns : List (Turn ι)) (now : Prop) : Prop :=
  ∃ before look since, turns = before ++ look :: since ∧ look.who = i ∧ r.looks look = true ∧
    (∀ turn ∈ since, turn.who = i → r.looks turn = false) ∧
    ((∀ turn ∈ since, r.spoils turn = false) → now)

theorem seen_of_look {look : Turn ι} (own : look.who = i) (looks : r.looks look = true) (h : now) :
    r.Seen i (turns ++ [look]) now :=
  ⟨turns, look, [], rfl, own, looks, fun _ known => absurd known List.not_mem_nil, fun _ => h⟩

theorem Seen.append (h : r.Seen i turns now)
    (blind : ∀ turn ∈ more, turn.who = i → r.looks turn = false)
    (lasts : (∀ turn ∈ more, r.spoils turn = false) → now → later) :
    r.Seen i (turns ++ more) later := by
  obtain ⟨before, look, since, rfl, own, looks, last, so⟩ := h
  refine ⟨before, look, since ++ more, by simp, own, looks, ?_, fun calm => ?_⟩
  · intro turn known
    exact (List.mem_append.mp known).elim (last turn) (blind turn)
  · rw [List.forall_mem_append] at calm
    exact lasts calm.2 (so calm.1)

/-- What was seen is so when the program acts on it, if nobody has come in between. -/
theorem Seen.act {act : Turn ι} (h : r.Seen i turns now) (undivided : r.Undivided (turns ++ [act]))
    (own : act.who = i) (acts : r.acts act = true) : now := by
  obtain ⟨before, look, since, rfl, mine, looks, last, so⟩ := h
  refine so (undivided before look since act [] rfl (mine.trans own.symm) looks acts ?_)
  exact fun turn known same => last turn known (same.trans own)

end Reliance

namespace Program

variable {ι σ : Type}

/-- What programs keep when they share a state, and how turns may move it. -/
def Sharing.along (kept : Past ι σ → Prop) (moves : List (Turn ι) → σ → σ → Prop)
    (refl : ∀ s, moves [] s s)
    (trans : ∀ first second a b c, moves first a b → moves second b c → moves (first ++ second) a c) :
    Sharing ι σ where
  kept := kept
  grows before after := ∃ more, after.turns = before.turns ++ more ∧
    moves more before.state after.state
  refl past := ⟨[], by simp, refl past.state⟩
  trans := by
    rintro a b c ⟨first, split, moved⟩ ⟨second, split', moved'⟩
    exact ⟨first ++ second, by rw [split', split, List.append_assoc], trans _ _ _ _ _ moved moved'⟩

/-- One turn of a program and those of the others behind it. -/
structure Sharing.Goes (kept : Past ι σ → Prop) (moves : List (Turn ι) → σ → σ → Prop) (turn : Turn ι)
    (past : Past ι σ) (s : σ) (later : Past ι σ) : Prop where
  kept : kept later
  own : moves [turn] past.state s
  others : ∃ more, later.turns = past.turns ++ [turn] ++ more ∧ moves more s later.state ∧
    ∀ other ∈ more, other.who ≠ turn.who

variable [DecidableEq ι] {world : World σ} {kept : Past ι σ → Prop}
  {moves : List (Turn ι) → σ → σ → Prop} {refl : ∀ s, moves [] s s}
  {trans : ∀ first second a b c, moves first a b → moves second b c → moves (first ++ second) a c}

private theorem not_own_of_eq {past later : Past ι σ} {more : List (Turn ι)} {i : ι}
    (split : later.turns = past.turns ++ more) (own : later.own i = past.own i) :
    ∀ other ∈ more, other.who ≠ i := by
  have none : more.filter (·.who = i) = [] := by
    rw [Past.own, split, List.filter_append] at own
    exact List.append_right_eq_self.mp own
  simpa using List.filter_eq_nil_iff.mp none

theorem Sharing.goes_of_world {i : ι} {effect : Effect} {reply : effect.Reply} {past later : Past ι σ}
    (w : (Sharing.along kept moves refl trans).world world i effect past reply later) :
    ∃ s, world effect past.state reply s ∧
      Sharing.Goes kept moves ⟨i, effect, reply⟩ past s later := by
  obtain ⟨s, w, -, ⟨turn, split, own⟩, elsewhere⟩ := w
  obtain ⟨more, split', moved⟩ := elsewhere.grows
  have single : turn = [⟨i, effect, reply⟩] := (List.append_cancel_left split).symm
  subst single
  exact ⟨s, w, elsewhere.kept, own, more, split', moved, not_own_of_eq split' elsewhere.own⟩

end Program
end Automation
