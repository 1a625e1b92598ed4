import Automation.Proofs.Json.Members
import Automation.Proofs.Json.Sameness
import Automation.Proofs.Text.Spelling
import Automation.Redaction

/-!
What redaction leaves of a value. Nothing that looks like a secret is left and nothing below the levels that are looked
at, a second redaction has nothing to do, and whatever is open to view is as it was.
-/
namespace Automation

open Text (Spells IsWord)

namespace Json

/-- A step into an object or array. -/
inductive Segment where
  | member (key : String)
  | item (place : Nat)
  deriving DecidableEq

namespace Value

/-- What a value has at the end of a path. -/
inductive At : Value → List Segment → Value → Prop
  | here (v : Value) : At v [] v
  | member {key : String} {members : List (String × Value)} {v w : Value} {path : List Segment}
      (known : (key, v) ∈ members) (inside : At v path w) : At (.object members) (.member key :: path) w
  | item {place : Nat} {items : List Value} {v w : Value} {path : List Segment}
      (known : items[place]? = some v) (inside : At v path w) : At (.array items) (.item place :: path) w

theorem At.eq_of_nil {v w : Value} (h : v.At [] w) : w = v := by
  cases h
  rfl

/-- Neither an object nor an array. -/
def IsScalar : Value → Prop
  | .array _ | .object _ => False
  | _ => True

end Value
end Json

namespace Redaction

section Secrets

variable {key text : String}

/-- Hyphens are read as underscores. -/
def unhyphened (c : Char) : Char := if c = '-' then '_' else c

/-- A part of the key spells a fragment in some case, with hyphens for underscores or not. -/
def NamesSecret (key : String) : Prop :=
  ∃ fragment ∈ keyFragments, ∃ part, part <:+: key.toList ∧ Spells unhyphened part fragment.toList

/-- A scheme of credentials in front in any case, a signed token, or the frame of a private key. -/
inductive LooksSecret (text : String) : Prop
  | bearer (part : List Char) (front : part <+: text.toList) (spelled : Spells id part "bearer ".toList)
  | basic (part : List Char) (front : part <+: text.toList) (spelled : Spells id part "basic ".toList)
  | token (front : "eyJ".toList <+: text.toList) (points : Text.count '.' text.toList = 2)
      (long : 50 < Text.utf8Size text)
  | privateKey (head : "-----BEGIN".toList <:+: text.toList) (foot : "PRIVATE KEY-----".toList <:+: text.toList)

private theorem isWord_id {word : List Char} (ascii : word.all Text.isAscii = true)
    (dotless : word.getLast? ≠ some 'i') : IsWord id word :=
  ⟨List.all_eq_true.mp ascii, dotless, fun _ other => other⟩

private theorem isWord_fragment : ∀ fragment ∈ keyFragments,
    IsWord unhyphened fragment.toList ∧ fragment.toList ≠ [] := by
  have words : ∀ fragment ∈ keyFragments, fragment.toList.all Text.isAscii = true ∧
      fragment.toList.getLast? ≠ some (unhyphened 'i') ∧ fragment.toList ≠ [] := by decide
  have outside (c : Char) (other : Text.isAscii c = false) : Text.isAscii (unhyphened c) = false := by
    rw [unhyphened, if_neg]
    · exact other
    · rintro rfl
      exact absurd other (by decide)
  intro fragment known
  obtain ⟨ascii, dotless, filled⟩ := words fragment known
  exact ⟨⟨List.all_eq_true.mp ascii, dotless, outside⟩, filled⟩

theorem isSecretKey_iff : isSecretKey key = true ↔ NamesSecret key := by
  have read : Text.replaceChar '-' '_' (Text.lowerChars key.toList) =
      (Text.lowerBetween [] key.toList []).map unhyphened := by
    rw [Text.replaceChar, Text.lowerChars_eq]
    rfl
  unfold isSecretKey
  dsimp only
  rw [read, List.any_eq_true]
  refine exists_congr fun fragment => and_congr_right fun known => ?_
  obtain ⟨word, filled⟩ := isWord_fragment fragment known
  rw [Text.contains_iff, Text.infix_iff_spells word filled]

theorem isSecretKey_eq_false_iff : isSecretKey key = false ↔ ¬ NamesSecret key := by
  rw [← Bool.not_eq_true, isSecretKey_iff]

theorem isSecretText_iff : isSecretText text = true ↔ LooksSecret text := by
  have bearer : IsWord id "bearer ".toList := isWord_id (by decide) (by decide)
  have basic : IsWord id "basic ".toList := isWord_id (by decide) (by decide)
  have small : Text.lowerChars text.toList = (Text.lowerBetween [] text.toList []).map id := by
    rw [List.map_id, Text.lowerChars_eq]
  unfold isSecretText
  dsimp only
  rw [small]
  simp only [Bool.or_eq_true, List.isPrefixOf_iff_prefix, Text.prefix_iff_spells bearer,
    Text.prefix_iff_spells basic, or_assoc, isSignedToken, isPrivateKey, Bool.and_eq_true, beq_iff_eq,
    decide_eq_true_eq, Text.contains_iff, and_assoc]
  constructor
  · rintro (⟨part, front, spelled⟩ | ⟨part, front, spelled⟩ | ⟨front, points, long⟩ | ⟨head, foot⟩)
    · exact .bearer part front spelled
    · exact .basic part front spelled
    · exact .token front points long
    · exact .privateKey head foot
  · rintro (⟨part, front, spelled⟩ | ⟨part, front, spelled⟩ | ⟨front, points, long⟩ | ⟨head, foot⟩)
    · exact .inl ⟨part, front, spelled⟩
    · exact .inr (.inl ⟨part, front, spelled⟩)
    · exact .inr (.inr (.inl ⟨front, points, long⟩))
    · exact .inr (.inr (.inr ⟨head, foot⟩))

theorem isSecretText_eq_false_iff : isSecretText text = false ↔ ¬ LooksSecret text := by
  rw [← Bool.not_eq_true, isSecretText_iff]

end Secrets

section Values

open Json (Value Segment)

variable {levels : Nat} {path : List Segment} {v w : Value} {members : Json.Members} {items : List Value}
  {text : String}

@[simp] theorem redactWithin_zero : redactWithin 0 v = redacted := by
  cases v <;> rfl

theorem redactWithin_text : redactWithin (levels + 1) (.string text) =
    if isSecretText text then redacted else .string text := by
  simp [redactWithin]

/-- What stands for a secret is no secret. -/
@[simp] theorem redactWithin_redacted : redactWithin levels redacted = redacted := by
  cases levels with
  | zero => exact redactWithin_zero
  | succ levels =>
    rw [redacted, redactWithin_text]
    exact ite_self _

theorem redactWithin_array : redactWithin (levels + 1) (.array items) = .array (items.map (redactWithin levels)) := by
  have each : redactItems levels items = items.map (redactWithin levels) := by
    induction items with
    | nil => rfl
    | cons item rest ih => rw [redactItems, ih, List.map_cons]
  exact congrArg Value.array each

/-- A member without its secrets. -/
def redactMember (levels : Nat) (member : String × Value) : String × Value :=
  (member.1, if isSecretKey member.1 then redacted else redactWithin levels member.2)

theorem redactWithin_object :
    redactWithin (levels + 1) (.object members) = .object (members.map (redactMember levels)) := by
  have each : redactMembers levels members = members.map (redactMember levels) := by
    induction members with
    | nil => rfl
    | cons member rest ih => rw [redactMembers, ih, List.map_cons, redactMember]
  exact congrArg Value.object each

theorem redactWithin_scalar (scalar : w.IsScalar) (plain : ∀ text, w = .string text → isSecretText text = false) :
    redactWithin (levels + 1) w = w := by
  cases w with
  | string text => rw [redactWithin_text, plain text rfl, if_neg nofun]
  | array items => cases scalar
  | object members => cases scalar
  | null | bool b | number n => rfl

theorem redactMember_idem (member : String × Value)
    (ih : redactWithin levels (redactWithin levels member.2) = redactWithin levels member.2) :
    redactMember levels (redactMember levels member) = redactMember levels member := by
  unfold redactMember
  dsimp only
  split
  · rfl
  · rw [ih]

/-- A second redaction has nothing to do. -/
theorem redactWithin_idem : redactWithin levels (redactWithin levels v) = redactWithin levels v := by
  induction v using Value.induct generalizing levels with
  | null | bool b | number n => cases levels <;> rfl
  | string text =>
    cases levels with
    | zero => simp
    | succ levels =>
      rw [redactWithin_text]
      split
      · exact redactWithin_redacted
      · next plain => rw [redactWithin_text, if_neg plain]
  | array items ih =>
    cases levels with
    | zero => simp
    | succ levels =>
      rw [redactWithin_array, redactWithin_array, List.map_map]
      exact congrArg Value.array (List.map_congr_left fun item mem => ih item mem)
  | object members ih =>
    cases levels with
    | zero => simp
    | succ levels =>
      rw [redactWithin_object, redactWithin_object, List.map_map]
      exact congrArg Value.object (List.map_congr_left fun member mem => redactMember_idem member (ih member mem))

theorem at_redacted (h : redacted.At path w) : path = [] ∧ w = redacted := by
  cases h
  exact ⟨rfl, rfl⟩

/-- What a redacted value has anywhere is itself redacted, for the levels that are left. -/
theorem redactWithin_of_at (h : (redactWithin levels v).At path w) :
    path.length ≤ levels ∧ ∃ v', w = redactWithin (levels - path.length) v' := by
  induction path generalizing levels v with
  | nil => exact ⟨Nat.zero_le levels, v, h.eq_of_nil⟩
  | cons segment path ih =>
    cases levels with
    | zero =>
      rw [redactWithin_zero] at h
      cases (at_redacted h).1
    | succ levels =>
      have below {v : Value} (inside : (redactWithin levels v).At path w) : (segment :: path).length ≤ levels + 1 ∧
          ∃ v', w = redactWithin (levels + 1 - (segment :: path).length) v' := by
        obtain ⟨short, v', same⟩ := ih inside
        refine ⟨Nat.succ_le_succ short, v', ?_⟩
        rwa [List.length_cons, Nat.succ_sub_succ]
      cases v with
      | null | bool b | number n => cases h
      | string text =>
        rw [redactWithin_text] at h
        split at h
        · cases (at_redacted h).1
        · cases h
      | array items =>
        rw [redactWithin_array] at h
        cases h with
        | item known inside =>
          rw [List.getElem?_map] at known
          obtain ⟨item, -, rfl⟩ := Option.map_eq_some_iff.mp known
          exact below inside
      | object members =>
        rw [redactWithin_object] at h
        cases h with
        | member known inside =>
          obtain ⟨member, -, same⟩ := List.mem_map.mp known
          obtain ⟨-, rfl⟩ := Prod.mk.inj same
          split at inside
          · -- what stands for a secret is its own redaction, so that the case is as the other one
            have gone : redactWithin levels redacted = redacted := redactWithin_redacted
            rw [← gone] at inside
            exact below inside
          · exact below inside

/-- A secret member of a redacted value is gone. -/
theorem secret_of_object (h : redactWithin levels v = .object members) :
    ∀ member ∈ members, isSecretKey member.1 = true → member.2 = redacted := by
  cases levels with
  | zero =>
    rw [redactWithin_zero] at h
    cases h
  | succ levels =>
    cases v with
    | object given =>
      rw [redactWithin_object] at h
      cases h
      rw [List.forall_mem_map]
      intro member _ secret
      exact if_pos secret
    | string text =>
      rw [redactWithin_text] at h
      split at h <;> cases h
    | array items =>
      rw [redactWithin_array] at h
      cases h
    | null | bool b | number n => cases h

/-- A text that stays is no secret. -/
theorem plain_of_text (h : redactWithin levels v = .string text) : isSecretText text = false := by
  have here : redactWithin levels (.string text) = .string text := by
    rw [← h, redactWithin_idem]
  cases levels with
  | zero =>
    rw [redactWithin_zero] at here
    cases here
    decide
  | succ levels =>
    rw [redactWithin_text] at here
    split at here
    · cases here
      decide
    · next plain => exact Bool.not_eq_true _ ▸ plain

/-- Below keys that name no secret, and as long as there are levels left, a value is redacted as on its own. -/
theorem at_redactWithin (h : v.At path w) (named : ∀ key, .member key ∈ path → isSecretKey key = false)
    (short : path.length ≤ levels) : (redactWithin levels v).At path (redactWithin (levels - path.length) w) := by
  induction h generalizing levels with
  | here v => exact .here _
  | @member key members v w path known inside ih =>
    cases levels with
    | zero => cases short
    | succ levels =>
      have plain : isSecretKey key = false := named key List.mem_cons_self
      have below := ih (fun key mem => named key (List.mem_cons_of_mem _ mem)) (Nat.le_of_succ_le_succ short)
      have kept : (key, redactWithin levels v) ∈ members.map (redactMember levels) := by
        refine List.mem_map.mpr ⟨(key, v), known, ?_⟩
        rw [redactMember, plain, if_neg nofun]
      rw [redactWithin_object, List.length_cons, Nat.succ_sub_succ]
      exact .member kept below
  | @item place items v w path known inside ih =>
    cases levels with
    | zero => cases short
    | succ levels =>
      have below := ih (fun key mem => named key (List.mem_cons_of_mem _ mem)) (Nat.le_of_succ_le_succ short)
      have kept : (items.map (redactWithin levels))[place]? = some (redactWithin levels v) := by
        rw [List.getElem?_map, known, Option.map_some]
      rw [redactWithin_array, List.length_cons, Nat.succ_sub_succ]
      exact .item kept below

/-- Fewer levels than are looked at, and neither a key that names a secret nor a text that looks like one. -/
def IsHarmless (levels : Nat) (v : Value) : Prop :=
  ∀ path w, v.At path w → path.length < levels ∧ (∀ key, .member key ∈ path → ¬ NamesSecret key) ∧
    ∀ text, w = .string text → ¬ LooksSecret text

theorem IsHarmless.item (h : IsHarmless (levels + 1) (.array items)) (mem : v ∈ items) : IsHarmless levels v := by
  intro path w inside
  obtain ⟨place, known⟩ := List.mem_iff_getElem?.mp mem
  obtain ⟨short, named, plain⟩ := h _ w (.item known inside)
  exact ⟨Nat.lt_of_succ_lt_succ short, fun key mem => named key (List.mem_cons_of_mem _ mem), plain⟩

theorem IsHarmless.member (h : IsHarmless (levels + 1) (.object members)) {member : String × Value}
    (mem : member ∈ members) : ¬ NamesSecret member.1 ∧ IsHarmless levels member.2 := by
  constructor
  · exact (h _ member.2 (.member mem (.here _))).2.1 member.1 List.mem_cons_self
  · intro path w inside
    obtain ⟨short, named, plain⟩ := h _ w (.member mem inside)
    exact ⟨Nat.lt_of_succ_lt_succ short, fun key mem => named key (List.mem_cons_of_mem _ mem), plain⟩

theorem IsHarmless.pos (h : IsHarmless levels v) : 0 < levels := (h [] v (.here v)).1

/-- Nothing is taken from a harmless value. -/
theorem redactWithin_of_harmless (h : IsHarmless levels v) : redactWithin levels v = v := by
  induction v using Value.induct generalizing levels with
  | null | bool b | number n | string text =>
    obtain ⟨levels, rfl⟩ := Nat.exists_eq_succ_of_ne_zero h.pos.ne'
    refine redactWithin_scalar trivial fun text same => isSecretText_eq_false_iff.mpr ?_
    exact (h [] _ (.here _)).2.2 text same
  | array items ih =>
    obtain ⟨levels, rfl⟩ := Nat.exists_eq_succ_of_ne_zero h.pos.ne'
    rw [redactWithin_array, List.map_congr_left fun item mem => ih item mem (h.item mem), List.map_id']
  | object members ih =>
    obtain ⟨levels, rfl⟩ := Nat.exists_eq_succ_of_ne_zero h.pos.ne'
    have kept (member : String × Value) (mem : member ∈ members) : redactMember levels member = member := by
      obtain ⟨plain, harmless⟩ := h.member mem
      rw [redactMember, if_neg (isSecretKey_iff.not.mpr plain), ih member mem harmless]
    rw [redactWithin_object, List.map_congr_left kept, List.map_id']

/-- No secret is left anywhere, and nothing below the levels that are looked at. -/
structure IsClean (v : Value) : Prop where
  members : ∀ path members, v.At path (.object members) → ∀ member ∈ members, NamesSecret member.1 →
    member.2 = redacted
  texts : ∀ path text, v.At path (.string text) → ¬ LooksSecret text
  levels : ∀ path w, v.At path w → path.length ≤ maxLevels ∧ (path.length = maxLevels → w = redacted)

/-- Paths to what stays: on levels that are looked at, and below no key that names a secret. -/
def IsOpen (path : List Segment) : Prop :=
  path.length < maxLevels ∧ ∀ key, .member key ∈ path → ¬ NamesSecret key

/-- The keys of objects, the lengths of arrays and all scalars but secret texts are the same in both values, as far
as they are open to view in the first. -/
structure Keeps (v v' : Value) : Prop where
  keys : ∀ path members, IsOpen path → v.At path (.object members) →
    ∃ members', v'.At path (.object members') ∧ members'.map (·.1) = members.map (·.1)
  lengths : ∀ path items, IsOpen path → v.At path (.array items) →
    ∃ items', v'.At path (.array items') ∧ items'.length = items.length
  scalars : ∀ path w, IsOpen path → v.At path w → w.IsScalar → (∀ text, w = .string text → ¬ LooksSecret text) →
    v'.At path w

theorem isClean_redact (v : Value) : IsClean (redact v) where
  members path members h member mem secret := by
    obtain ⟨-, v', same⟩ := redactWithin_of_at h
    exact secret_of_object same.symm member mem (isSecretKey_iff.mpr secret)
  texts path text h := by
    obtain ⟨-, v', same⟩ := redactWithin_of_at h
    exact isSecretText_eq_false_iff.mp (plain_of_text same.symm)
  levels path w h := by
    obtain ⟨short, v', same⟩ := redactWithin_of_at h
    refine ⟨short, fun all => ?_⟩
    rw [same, all, Nat.sub_self, redactWithin_zero]

theorem keeps_redact (v : Value) : Keeps v (redact v) := by
  have reached {path : List Segment} {w : Value} (isOpen : IsOpen path) (h : v.At path w) :
      ∃ levels, (redact v).At path (redactWithin (levels + 1) w) := by
    obtain ⟨short, named⟩ := isOpen
    refine ⟨maxLevels - path.length - 1, ?_⟩
    rw [Nat.sub_add_cancel (Nat.sub_pos_of_lt short)]
    exact at_redactWithin h (fun key mem => isSecretKey_eq_false_iff.mpr (named key mem)) short.le
  refine ⟨?_, ?_, ?_⟩
  · intro path members isOpen h
    obtain ⟨levels, here⟩ := reached isOpen h
    rw [redactWithin_object] at here
    exact ⟨_, here, by rw [List.map_map]; rfl⟩
  · intro path items isOpen h
    obtain ⟨levels, here⟩ := reached isOpen h
    rw [redactWithin_array] at here
    exact ⟨_, here, List.length_map _⟩
  · intro path w isOpen h scalar plain
    obtain ⟨levels, here⟩ := reached isOpen h
    rwa [redactWithin_scalar scalar fun text same => isSecretText_eq_false_iff.mpr (plain text same)] at here

end Values

section Headers

variable {headers : List (String × String)} {name value : String}

/-- Credentials stand in such a header by its name, or its name or value gives them away. -/
def CarriesSecret (name value : String) : Prop :=
  Text.lower name ∈ credentialHeaders ∨ NamesSecret name ∨ LooksSecret value

theorem isSecretHeader_iff : isSecretHeader name value = true ↔ CarriesSecret name value := by
  simp only [isSecretHeader, Bool.or_eq_true, List.contains_iff_mem, isSecretKey_iff, isSecretText_iff, or_assoc,
    CarriesSecret]

/-- One entry for each name, of its last header, without secrets. -/
structure IsCleanCopy (headers : List (String × String)) (members : Json.Members) : Prop where
  distinct : (members.map (·.1)).Nodup
  names : ∀ name, name ∈ members.map (·.1) ↔ name ∈ headers.map (·.1)
  secretNames : ∀ member ∈ members, NamesSecret member.1 → member.2 = redacted
  texts : ∀ member ∈ members, ∃ text, member.2 = .string text ∧ ¬ LooksSecret text
  withheld : ∀ before name value after, headers = before ++ (name, value) :: after →
    (∀ later ∈ after, later.1 ≠ name) → CarriesSecret name value → members.get? name = some redacted
  shown : ∀ before name value after, headers = before ++ (name, value) :: after →
    (∀ later ∈ after, later.1 ≠ name) → ¬ CarriesSecret name value → members.get? name = some (.string value)

private theorem entry_clean {member : String × Json.Value} (h : member ∈ redactHeaders headers) :
    ∃ value, member = (member.1, if isSecretHeader member.1 value then redacted else .string value) := by
  obtain ⟨⟨name, value⟩, -, rfl⟩ := List.mem_map.mp (Json.Members.mem_ofList h)
  exact ⟨value, rfl⟩

private theorem get?_redactHeaders {before after : List (String × String)} (last : ∀ later ∈ after, later.1 ≠ name) :
    (redactHeaders (before ++ (name, value) :: after)).get? name =
      some (if isSecretHeader name value then redacted else .string value) := by
  rw [redactHeaders, List.map_append, List.map_cons]
  refine Json.Members.get?_ofList_of_last ?_
  rw [List.forall_mem_map]
  exact last

theorem isCleanCopy_redactHeaders (headers : List (String × String)) :
    IsCleanCopy headers (redactHeaders headers) where
  distinct := (Json.Members.sorted_ofList _).nodup
  names name := by
    rw [redactHeaders, Json.Members.mem_keys_ofList, List.map_map]
    rfl
  secretNames member mem secret := by
    obtain ⟨value, same⟩ := entry_clean mem
    rw [same, if_pos (isSecretHeader_iff.mpr (.inr (.inl secret)))]
  texts member mem := by
    obtain ⟨value, same⟩ := entry_clean mem
    rw [same]
    split
    · exact ⟨placeholder, rfl, isSecretText_eq_false_iff.mp (by decide)⟩
    · next plain =>
      rw [isSecretHeader_iff] at plain
      exact ⟨value, rfl, fun secret => plain (.inr (.inr secret))⟩
  withheld before name value after cut last secret := by
    rw [cut, get?_redactHeaders last, if_pos (isSecretHeader_iff.mpr secret)]
  shown before name value after cut last plain := by
    rw [cut, get?_redactHeaders last, if_neg (isSecretHeader_iff.not.mpr plain)]

end Headers

/-- Redaction takes away all secrets and nothing else, once and for all. -/
theorem redaction_complete :
    (∀ v : Json.Value, IsClean (redact v) ∧ redact (redact v) = redact v ∧ Keeps v (redact v) ∧
      (IsHarmless maxLevels v → redact v = v)) ∧
    ∀ headers, IsCleanCopy headers (redactHeaders headers) := by
  constructor
  · intro v
    exact ⟨isClean_redact v, redactWithin_idem, keeps_redact v, redactWithin_of_harmless⟩
  · intro headers
    exact isCleanCopy_redactHeaders headers

/-- A user next to a password, a list without secrets, and a header with a key. -/
theorem redaction_complete_login :
    (redact (.object [("password", .string "hunter2"), ("user", .string "admin")])).At [.member "user"]
      (.string "admin") ∧
    redact (.array [.bool true]) = .array [.bool true] ∧
    (redactHeaders [("X-Api-Key", "abc")]).get? "X-Api-Key" = some redacted := by
  obtain ⟨values, headers⟩ := redaction_complete
  refine ⟨?_, ?_, ?_⟩
  · obtain ⟨-, -, keeps, -⟩ := values (.object [("password", .string "hunter2"), ("user", .string "admin")])
    have plain : ¬ NamesSecret "user" := isSecretKey_eq_false_iff.mp (by decide)
    have isOpen : IsOpen [.member "user"] := by
      refine ⟨by decide, fun key mem => ?_⟩
      cases List.mem_singleton.mp mem
      exact plain
    refine keeps.scalars _ _ isOpen (.member (.tail _ (.head _)) (.here _)) trivial fun text same => ?_
    cases same
    exact isSecretText_eq_false_iff.mp (by decide)
  · refine (values (.array [.bool true])).2.2.2 fun path w h => ?_
    cases h with
    | here => exact ⟨by decide, fun _ mem => (List.not_mem_nil mem).elim, nofun⟩
    | item known inside =>
      obtain rfl := List.mem_singleton.mp (List.mem_of_getElem? known)
      cases inside
      exact ⟨show 1 < 20 by decide, fun _ mem => Json.Segment.noConfusion (List.mem_singleton.mp mem), nofun⟩
  · exact (headers _).withheld [] "X-Api-Key" "abc" [] rfl nofun (.inl (by decide))

end Redaction
end Automation
