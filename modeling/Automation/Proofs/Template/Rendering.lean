import Automation.Proofs.Template
import Automation.Proofs.Template.Paths
import Automation.Proofs.Text.LowerCase

/-!
Placeholders are filled in once. A text that is laid out in chunks without braces and placeholders between
them becomes the chunks with the texts of values in between, whatever these texts are, or a value itself where
there is nothing but one placeholder. Everything else in a value stays as it is. So members of a loop item and
outputs of steps are read as they are, by names that a path can hold.
-/
namespace Automation

open Json (Value Members)

namespace Json.Value

mutual
/-- The texts in a value; keys are none of them. -/
def texts : Value → List String
  | .string text => [text]
  | .array items => textsOfItems items
  | .object members => textsOfMembers members
  | .null | .bool _ | .number _ => []
termination_by structural value => value

def textsOfItems : List Value → List String
  | [] => []
  | item :: rest => texts item ++ textsOfItems rest
termination_by structural items => items

def textsOfMembers : List (String × Value) → List String
  | [] => []
  | (_, value) :: rest => texts value ++ textsOfMembers rest
termination_by structural members => members
end

end Json.Value

namespace Template

/-- A text without braces. -/
def Plain (text : String) : Prop := ∀ c ∈ text.toList, isBrace c = false

/-- A placeholder with blanks around its path, and the chunk of text behind it. -/
structure Slot where
  before : String
  path : String
  after : String
  behind : String
  blank : ∀ c ∈ before.toList ++ after.toList, Text.isBlank c = true
  named : path ≠ ""
  plainPath : Plain path
  plainBehind : Plain behind

/-- The placeholder and the chunk as they are written. -/
def Slot.source (slot : Slot) : String :=
  "\x7b\x7b" ++ slot.before ++ slot.path ++ slot.after ++ "\x7d\x7d" ++ slot.behind

/-- A text laid out in chunks without braces and placeholders between them. -/
structure Layout where
  opening : String
  slots : List Slot
  plain : Plain opening

/-- The text of the value at a path, if there is one. -/
def textAt (ctx : Context) (path : String) : String := ((resolvePath? ctx path).map (·.toText)).getD ""

namespace Layout

def source (layout : Layout) : String :=
  layout.opening ++ String.join (layout.slots.map (·.source))

/-- The placeholder that is all there is. -/
def alone? (layout : Layout) : Option Slot :=
  match layout.slots with
  | [slot] => if layout.opening = "" ∧ slot.behind = "" then some slot else none
  | _ => none

/-- The chunks with texts of values in between. -/
def filled (ctx : Context) (layout : Layout) : String :=
  layout.opening ++ String.join (layout.slots.map fun slot => textAt ctx slot.path ++ slot.behind)

/-- What the text stands for: the value of the one placeholder that is all there is, or else a text. -/
def result (ctx : Context) (layout : Layout) : Value :=
  match layout.alone? with
  | some slot => (resolvePath? ctx slot.path).getD .null
  | none => .string (layout.filled ctx)

end Layout

private theorem isBrace_of_isBlank {c : Char} (blank : Text.isBlank c = true) : isBrace c = false := by
  rw [isBrace, Bool.or_eq_false_iff, beq_eq_false_iff_ne, beq_eq_false_iff_ne]
  constructor
  · rintro rfl
    exact absurd blank (by decide)
  · rintro rfl
    exact absurd blank (by decide)

/-- What stands between the braces of a placeholder. -/
def Slot.inside (slot : Slot) : List Char := slot.before.toList ++ slot.path.toList ++ slot.after.toList

private theorem Slot.plain_inside (slot : Slot) : ∀ c ∈ slot.inside, isBrace c = false := by
  simp only [inside, List.mem_append]
  rintro c ((known | known) | known)
  · exact isBrace_of_isBlank (slot.blank c (List.mem_append_left _ known))
  · exact slot.plainPath c known
  · exact isBrace_of_isBlank (slot.blank c (List.mem_append_right _ known))

private theorem Slot.inside_ne_nil (slot : Slot) : slot.inside ≠ [] := by
  have named := slot.named
  simpa [inside] using fun _ empty => absurd empty named

/-- Blanks around a path lead nowhere else. -/
private theorem Slot.resolvePath?_inside (slot : Slot) (ctx : Context) :
    resolvePath? ctx (String.ofList slot.inside) = resolvePath? ctx slot.path := by
  have trimmed : Text.trim (String.ofList slot.inside) = Text.trim slot.path := by
    have blank := List.forall_mem_append.mp slot.blank
    rw [Text.trim, Text.trim, String.toList_ofList, Slot.inside, Text.trimChars_padded blank.1 blank.2]
  rw [resolvePath?, resolvePath?, trimmed]

private theorem placeholder?_slot {path behind : List Char} (some : path ≠ [])
    (plain : ∀ c ∈ path, isBrace c = false) :
    placeholder? ('\x7b' :: '\x7b' :: (path ++ '\x7d' :: '\x7d' :: behind)) = .some (path, behind) := by
  have inside : ∀ c ∈ path, (!isBrace c) = true := fun c known => by rw [plain c known, Bool.not_false]
  have stops : ('\x7d' :: '\x7d' :: behind).dropWhile (!isBrace ·) = '\x7d' :: '\x7d' :: behind := rfl
  have none : ('\x7d' :: '\x7d' :: behind).takeWhile (!isBrace ·) = [] := rfl
  have filled : path.isEmpty = false := by simpa using some
  simp only [placeholder?, List.dropWhile_append_of_pos inside, stops, List.takeWhile_append_of_pos inside,
    none, List.append_nil, filled, Bool.false_eq_true, if_false]

private theorem pieces_slot {path behind : List Char} (some : path ≠ [])
    (plain : ∀ c ∈ path, isBrace c = false) :
    pieces ('\x7b' :: '\x7b' :: (path ++ '\x7d' :: '\x7d' :: behind)) = .path path :: pieces behind := by
  rw [pieces]
  split
  · next found =>
    rw [placeholder?_slot some plain] at found
    cases found
    rfl
  · next missing =>
    rw [placeholder?_slot some plain] at missing
    cases missing

/-- Only where a brace stands may a placeholder begin. -/
private theorem pieces_plain {front : List Char} (rest : List Char) (plain : ∀ c ∈ front, isBrace c = false) :
    pieces (front ++ rest) = front.map .literal ++ pieces rest := by
  induction front with
  | nil => rfl
  | cons c front ih =>
    rw [List.forall_mem_cons] at plain
    have none : placeholder? (c :: (front ++ rest)) = none := by
      unfold placeholder?
      split
      · next same =>
        injection same with first
        subst first
        exact absurd plain.1 (by decide)
      · rfl
    rw [List.cons_append, pieces]
    split
    · next found =>
      rw [none] at found
      cases found
    · rw [ih plain.2]
      rfl

/-- The pieces of a slot: its placeholder and the characters of its chunk. -/
private def Slot.pieces (slot : Slot) : List Piece := .path slot.inside :: slot.behind.toList.map .literal

private theorem pieces_slots (slots : List Slot) :
    Template.pieces (slots.flatMap (·.source.toList)) = slots.flatMap Slot.pieces := by
  induction slots with
  | nil => rw [List.flatMap_nil, Template.pieces, List.flatMap_nil]
  | cons slot rest ih =>
    have written : slot.source.toList ++ rest.flatMap (·.source.toList) =
        '\x7b' :: '\x7b' :: (slot.inside ++ '\x7d' :: '\x7d' ::
          (slot.behind.toList ++ rest.flatMap (·.source.toList))) := by
      simp [Slot.source, Slot.inside]
    rw [List.flatMap_cons, written, pieces_slot slot.inside_ne_nil slot.plain_inside,
      pieces_plain _ slot.plainBehind, ih, List.flatMap_cons, Slot.pieces, List.cons_append]

private theorem toList_join_map {α : Type} (f : α → String) (all : List α) :
    (String.join (all.map f)).toList = all.flatMap fun a => (f a).toList := by
  rw [String.toList_join, List.flatMap_map]

private theorem pieces_source (layout : Layout) : Template.pieces layout.source.toList =
    layout.opening.toList.map .literal ++ layout.slots.flatMap Slot.pieces := by
  rw [Layout.source, String.toList_append, toList_join_map, pieces_plain _ layout.plain, pieces_slots]

private theorem flatMap_literal (ctx : Context) (cs : List Char) :
    (cs.map Piece.literal).flatMap (·.toText ctx) = cs := by
  rw [List.flatMap_map]
  exact List.flatMap_singleton' _

private theorem toText_inside (ctx : Context) (slot : Slot) :
    (Piece.path slot.inside).toText ctx = (textAt ctx slot.path).toList := by
  rw [Piece.toText, slot.resolvePath?_inside, textAt]

private theorem flatMap_slots (ctx : Context) (slots : List Slot) :
    (slots.flatMap Slot.pieces).flatMap (·.toText ctx) =
      slots.flatMap fun slot => (textAt ctx slot.path ++ slot.behind).toList := by
  have each (slot : Slot) : (Slot.pieces slot).flatMap (·.toText ctx) =
      (textAt ctx slot.path ++ slot.behind).toList := by
    rw [Slot.pieces, List.flatMap_cons, flatMap_literal, toText_inside, String.toList_append]
  rw [List.flatMap_assoc]
  simp only [each]

private theorem flatMap_source (ctx : Context) (layout : Layout) :
    String.ofList ((Template.pieces layout.source.toList).flatMap (·.toText ctx)) = layout.filled ctx := by
  apply String.toList_inj.mp
  rw [String.toList_ofList, pieces_source, List.flatMap_append, flatMap_literal, flatMap_slots,
    Layout.filled, String.toList_append, toList_join_map]

/-- A text is nothing but a placeholder just if its layout is. -/
private theorem pieces_eq_singleton_iff {layout : Layout} {path : List Char} :
    Template.pieces layout.source.toList = [.path path] ↔
      ∃ slot, layout.alone? = some slot ∧ path = slot.inside := by
  rw [pieces_source]
  obtain ⟨opening, slots, plain⟩ := layout
  rcases slots with _ | ⟨slot, _ | ⟨next, rest⟩⟩
  · simp [Layout.alone?]
  · simp [Layout.alone?, Slot.pieces, List.append_eq_singleton_iff, @eq_comm _ path, and_assoc, and_comm]
  · simp [Layout.alone?, Slot.pieces, List.append_eq_singleton_iff]

theorem resolveText_source (ctx : Context) (layout : Layout) :
    resolveText ctx layout.source = layout.result ctx := by
  unfold resolveText Layout.result
  split
  · next path single =>
    obtain ⟨slot, alone, rfl⟩ := pieces_eq_singleton_iff.mp single
    rw [alone, slot.resolvePath?_inside]
  · next several =>
    cases alone : layout.alone? with
    | none => rw [flatMap_source]
    | some slot => exact absurd (pieces_eq_singleton_iff.mpr ⟨slot, alone, rfl⟩) (several _)

private theorem step?_resolve {ctx : Context} {segment : String} {value inner : Value}
    (found : value.step? segment = some inner) :
    (resolve ctx value).step? segment = some (resolve ctx inner) := by
  cases value with
  | object members =>
    have there : Members.get? segment members = some inner := found
    rw [resolve, Value.step?, get?_resolveMembers, there, Option.map_some]
  | array items =>
    obtain ⟨place, named, there⟩ := Option.bind_eq_some_iff.mp found
    rw [resolve, Value.step?, named, Option.bind_some, resolveItems_eq_map, List.getElem?_map, there,
      Option.map_some]
  | null | bool | number | string => cases found

/-- What is found along a path is filled in there, on its own. -/
theorem follow?_resolve {ctx : Context} {path : List String} {value inner : Value}
    (found : value.follow? path = some inner) :
    (resolve ctx value).follow? path = some (resolve ctx inner) := by
  induction path generalizing value with
  | nil =>
    cases found
    rfl
  | cons segment rest ih =>
    obtain ⟨next, there, found⟩ := Option.bind_eq_some_iff.mp found
    rw [Value.follow?, step?_resolve there, Option.bind_some]
    exact ih found

/-- Without two opening braces in a row there is no placeholder. -/
private theorem literal_of_not_isTemplate {text : String} (h : isTemplate text = false) :
    (pieces text.toList).all (·.isLiteral) = true := by
  have braces : ¬['\x7b', '\x7b'] <:+: text.toList := by
    rw [← Text.contains_iff]
    exact Bool.eq_false_iff.mp h
  generalize text.toList = cs at braces
  induction cs using pieces.induct with
  | case1 => rw [pieces, List.all_nil]
  | case2 c rest path behind found ih =>
    refine absurd ?_ braces
    unfold placeholder? at found
    split at found
    · next same =>
      rw [same]
      exact ⟨[], _, rfl⟩
    · cases found
  | case3 c rest none ih =>
    have later : ¬['\x7b', '\x7b'] <:+: rest := fun inside => braces (List.infix_cons inside)
    rw [pieces, none]
    exact ih later

mutual
private theorem isLiteral_of_texts : ∀ value : Value, (∀ text ∈ value.texts, isTemplate text = false) →
    isLiteral value = true
  | .string text, h => literal_of_not_isTemplate (h text (List.mem_singleton_self text))
  | .array items, h => areLiteral_of_texts items h
  | .object members, h => haveLiterals_of_texts members h
  | .null, _ | .bool _, _ | .number _, _ => rfl
termination_by structural value => value

private theorem areLiteral_of_texts : ∀ items : List Value,
    (∀ text ∈ Value.textsOfItems items, isTemplate text = false) → areLiteral items = true
  | [], _ => rfl
  | item :: rest, h => by
    obtain ⟨first, others⟩ := List.forall_mem_append.mp h
    rw [areLiteral, isLiteral_of_texts item first, areLiteral_of_texts rest others, Bool.and_self]
termination_by structural items => items

private theorem haveLiterals_of_texts : ∀ members : List (String × Value),
    (∀ text ∈ Value.textsOfMembers members, isTemplate text = false) → haveLiterals members = true
  | [], _ => rfl
  | (key, value) :: rest, h => by
    obtain ⟨first, others⟩ := List.forall_mem_append.mp h
    rw [haveLiterals, isLiteral_of_texts value first, haveLiterals_of_texts rest others, Bool.and_self]
termination_by structural members => members
end

/-- A text that is laid out in chunks and placeholders becomes what the layout says, whatever stands in the
values that are filled in. All keys, places in arrays and other values stay, each text is filled in on its
own wherever it stands, and a value of which no text holds two opening braces in a row stays the same. -/
theorem placeholders_filledOnce (ctx : Context) :
    (∀ layout : Layout, resolve ctx (.string layout.source) = layout.result ctx) ∧
    (∀ members, ∃ filled, resolve ctx (.object members) = .object filled ∧
      filled.map Prod.fst = members.map Prod.fst) ∧
    (∀ items, ∃ filled, resolve ctx (.array items) = .array filled ∧ filled.length = items.length) ∧
    (resolve ctx .null = .null ∧ (∀ b, resolve ctx (.bool b) = .bool b) ∧
      ∀ n, resolve ctx (.number n) = .number n) ∧
    (∀ value path inner, value.follow? path = some inner →
      (resolve ctx value).follow? path = some (resolve ctx inner)) ∧
    ∀ value : Value, (∀ text ∈ value.texts, isTemplate text = false) → resolve ctx value = value := by
  refine ⟨resolveText_source ctx, ?_, ?_, ⟨rfl, fun _ => rfl, fun _ => rfl⟩, ?_, ?_⟩
  · intro members
    exact ⟨resolveMembers ctx members, rfl, keys_resolveMembers ctx members⟩
  · intro items
    exact ⟨resolveItems ctx items, rfl, by rw [resolveItems_eq_map, List.length_map]⟩
  · intro value path inner found
    exact follow?_resolve found
  · intro value plain
    exact resolve_literal ctx value (isLiteral_of_texts value plain)

/-- A name in the shape of a placeholder is not filled in again. -/
example : resolveText (.initial "w" none (some ⟨"r", 0, none, [("name", .string "\x7b\x7brecord._id\x7d\x7d")]⟩) none)
    "Dear \x7b\x7b record.name \x7d\x7d!" = .string "Dear \x7b\x7brecord._id\x7d\x7d!" := by
  decide +kernel

section

open Json (Named)

/-- The text that is the placeholder of a path. -/
def placeholder (path : String) : String := "\x7b\x7b" ++ path ++ "\x7d\x7d"

/-- A name that a path in a placeholder can have for a segment. -/
structure Segment (name : String) : Prop where
  filled : name ≠ ""
  whole : '.' ∉ name.toList
  plain : Plain name

instance (text : String) : Decidable (Plain text) := List.decidableBAll (isBrace · = false) text.toList

instance (name : String) : Decidable (Segment name) :=
  decidable_of_iff (name ≠ "" ∧ '.' ∉ name.toList ∧ Plain name)
    ⟨fun ⟨filled, whole, plain⟩ => ⟨filled, whole, plain⟩, fun h => ⟨h.filled, h.whole, h.plain⟩⟩

variable {ctx : Context} {path key stepId : String} {members : Members} {output : Value}

theorem Plain.append {text other : String} (h : Plain text) (h' : Plain other) : Plain (text ++ other) := by
  intro c known
  rw [String.toList_append, List.mem_append] at known
  exact known.elim (h c) (h' c)

theorem resolve_placeholder (ctx : Context) (filled : path ≠ "") (plain : Plain path) :
    resolve ctx (.string (placeholder path)) = (resolvePath? ctx path).getD .null := by
  let slot : Slot := ⟨"", path, "", "", nofun, filled, plain, nofun⟩
  let layout : Layout := ⟨"", [slot], nofun⟩
  have source : layout.source = placeholder path := by
    simp [layout, slot, Layout.source, Slot.source, placeholder, String.join]
  have rendered := resolveText_source ctx layout
  rw [source] at rendered
  exact rendered

/-- A segment is a path of its own. -/
theorem Segment.named (h : Segment key) : Named key := by
  intro segment known
  rw [Text.splitAll_of_unsplit (Text.splitOnce_of_not_mem h.whole), List.mem_singleton] at known
  exact known ▸ h.filled

theorem Segment.lookup? (h : Segment key) (members : Members) :
    (Value.object members).lookup? key = members.get? key :=
  Value.lookup?_object_of_unsplit h.named (Text.splitOnce_of_not_mem h.whole) members

/-- A member of the item of a loop. -/
theorem resolve_loopItem (item : ctx.loopItem = some (.object members)) (segment : Segment key)
    (trimmed : Text.trim key = key) :
    resolve ctx (.string (placeholder ("loopItem." ++ key))) = (members.get? key).getD .null := by
  have plain : Plain ("loopItem." ++ key) := Plain.append (by decide +kernel) segment.plain
  rw [resolve_placeholder ctx (by simp) plain, resolvePath?_loopItem segment.named trimmed, item,
    Option.bind_some, segment.lookup?]

/-- The output of an earlier step. Blanks at the end of its id are taken for the end of the path. -/
theorem resolve_variable (segment : Segment stepId) (ends : Text.trimEnd stepId.toList = stepId.toList) :
    resolve ctx (.string (placeholder ("variables." ++ stepId))) =
      (ctx.stepOutputs.get? stepId).getD .null := by
  have plain : Plain ("variables." ++ stepId) := Plain.append (by decide +kernel) segment.plain
  have root : cutPath (Text.trim ("variables" ++ "." ++ stepId)) = ("variables", stepId) :=
    cutPath_trim (by decide) (by decide) (by decide) segment.filled ends
  have step : cutPath stepId = (stepId, "") := cutPath_of_unsplit (Text.splitOnce_of_not_mem segment.whole)
  rw [resolve_placeholder ctx (by simp) plain, resolvePath?,
    show "variables." ++ stepId = "variables" ++ "." ++ stepId from rfl, root]
  simp only [String.reduceEq, if_false, if_true]
  rw [variablePath?, step]
  simp only [if_neg segment.filled, Value.lookup?_empty, Option.bind_fun_some]

/-- A member of the output of an earlier step. -/
theorem resolve_variableMember (known : ctx.stepOutputs.get? stepId = some (.object members))
    (segment : Segment stepId) (segment' : Segment key) (trimmed : Text.trim key = key) :
    resolve ctx (.string (placeholder ("variables." ++ (stepId ++ "." ++ key)))) =
      (members.get? key).getD .null := by
  have plain : Plain ("variables." ++ (stepId ++ "." ++ key)) :=
    Plain.append (by decide +kernel)
      (Plain.append (Plain.append segment.plain (by decide +kernel)) segment'.plain)
  rw [resolve_placeholder ctx (by simp) plain,
    resolvePath?_variables segment'.named trimmed segment.whole, if_neg segment.filled, known,
    Option.bind_some, segment'.lookup?]

end

end Template
end Automation
