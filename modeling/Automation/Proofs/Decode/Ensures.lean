import Automation.Decode.Record

/-!
What holds of everything a decoder gives, from any tree or from trees of one kind. The rules follow the
way in which decoders of records are put together.
-/
namespace Automation.Decode

variable {α β : Type}

theorem except_map_ok {ε : Type} {f : α → β} {x : Except ε α} {b : β} :
    x.map f = .ok b ↔ ∃ a, x = .ok a ∧ f a = b := by
  cases x <;> simp [Except.map]

theorem except_mapError_ok {ε ε' : Type} {f : ε → ε'} {x : Except ε α} {a : α} :
    x.mapError f = .ok a ↔ x = .ok a := by
  cases x with
  | ok b =>
    constructor
    all_goals
      rintro ⟨⟩
      rfl
  | error e => exact ⟨nofun, nofun⟩

theorem except_bind_ok {ε : Type} {x : Except ε α} {f : α → Except ε β} {b : β} :
    (x >>= f) = .ok b ↔ ∃ a, x = .ok a ∧ f a = .ok b := by
  cases x <;> simp [bind, Except.bind]

theorem unexpected_ne_ok {expected : String} {tree : Tree} {a : α} :
    unexpected expected tree ≠ .ok a := by
  intro ok
  unfold unexpected at ok
  split at ok <;> cases ok

/-- Every value that a decoder gives has the property. -/
def Decoder.Ensures (P : α → Prop) (decode : Decoder α) : Prop := ∀ tree a, decode tree = .ok a → P a

theorem Decoder.ensures_true (decode : Decoder α) : decode.Ensures fun _ => True := fun _ _ _ => trivial

theorem ensures_optional {P : α → Prop} {decode : Decoder α} (h : decode.Ensures P) :
    (optional decode).Ensures fun found => ∀ a ∈ found, P a := by
  intro tree found ok
  unfold optional at ok
  split at ok
  · cases ok
    simp
  · obtain ⟨a, read, rfl⟩ := except_map_ok.mp ok
    simpa using h tree a read

/-- A kind of tree that all that is inside such a tree shares. -/
structure Tree.Closed (C : Tree → Prop) : Prop where
  marked : ∀ {mark tree}, C (.marked mark tree) → C tree
  sequence : ∀ {origin trees}, C (.sequence origin trees) → ∀ tree ∈ trees, C tree
  mapping : ∀ {origin entries}, C (.mapping origin entries) → ∀ entry ∈ entries, C entry.2

theorem Tree.closed_true : Closed fun _ => True :=
  ⟨fun _ => trivial, fun _ _ _ => trivial, fun _ _ _ => trivial⟩

/-- The tree of a JSON value. -/
def Tree.IsJson (tree : Tree) : Prop := ∃ v, tree = .ofValue v

private theorem isJson_of_mem_ofItems {items : List Json.Value} {tree : Tree}
    (h : tree ∈ Tree.ofItems items) : tree.IsJson := by
  induction items with
  | nil => cases h
  | cons v rest ih =>
    rcases List.mem_cons.mp h with rfl | h
    · exact ⟨v, rfl⟩
    · exact ih h

private theorem isJson_of_mem_ofMembers {members : Json.Members} {entry : Tree × Tree}
    (h : entry ∈ Tree.ofMembers members) : entry.2.IsJson := by
  induction members with
  | nil => cases h
  | cons m rest ih =>
    rcases List.mem_cons.mp h with rfl | h
    · exact ⟨m.2, rfl⟩
    · exact ih h

theorem Tree.closed_isJson : Closed IsJson where
  marked := by
    rintro mark tree ⟨v, h⟩
    cases v <;> cases h
  sequence := by
    rintro origin trees ⟨v, h⟩ tree inside
    cases v with
    | array items =>
      cases h
      exact isJson_of_mem_ofItems inside
    | null | bool _ | number _ | string _ | object _ => cases h
  mapping := by
    rintro origin entries ⟨v, h⟩ entry inside
    cases v with
    | object members =>
      cases h
      exact isJson_of_mem_ofMembers inside
    | null | bool _ | number _ | string _ | array _ => cases h

/-- Every value that a decoder gives for a tree of the kind has the property. -/
def Decoder.EnsuresOn (C : Tree → Prop) (P : α → Prop) (decode : Decoder α) : Prop :=
  ∀ tree, C tree → ∀ a, decode tree = .ok a → P a

theorem Decoder.Ensures.on {C : Tree → Prop} {P : α → Prop} {decode : Decoder α}
    (h : decode.Ensures P) : decode.EnsuresOn C P :=
  fun tree _ => h tree

section Closed

variable {C : Tree → Prop} {P : α → Prop} {decode : Decoder α}

theorem ensuresOn_located (closed : Tree.Closed C) (h : Decoder.EnsuresOn C P decode) :
    Decoder.EnsuresOn C P (located decode) := by
  intro tree hC a ok
  unfold located at ok
  split at ok
  · exact h _ (closed.marked hC) a (except_mapError_ok.mp ok)
  · exact h _ hC a ok

theorem ensures_located (h : decode.Ensures P) : Decoder.Ensures P (located decode) := by
  have on := ensuresOn_located Tree.closed_true h.on
  exact fun tree => on tree trivial

private theorem ensuresOn_items (h : decode.EnsuresOn C P) {trees : List Tree}
    (hC : ∀ tree ∈ trees, C tree) {place : Nat} {as : List α}
    (ok : items decode place trees = .ok as) : ∀ a ∈ as, P a := by
  induction trees generalizing place as with
  | nil =>
    cases ok
    simp
  | cons tree rest ih =>
    rw [List.forall_mem_cons] at hC
    obtain ⟨first, read, ok⟩ := except_bind_ok.mp ok
    obtain ⟨others, more, ok⟩ := except_bind_ok.mp ok
    cases ok
    exact List.forall_mem_cons.mpr ⟨h tree hC.1 first (except_mapError_ok.mp read), ih hC.2 more⟩

theorem ensuresOn_list (closed : Tree.Closed C) (h : decode.EnsuresOn C P) :
    (list decode).EnsuresOn C fun as => ∀ a ∈ as, P a := by
  refine ensuresOn_located closed fun tree hC as ok => ?_
  split at ok
  · exact ensuresOn_items h (closed.sequence hC) ok
  · cases ok
    simp
  · exact absurd ok unexpected_ne_ok

end Closed

namespace Record

/-- Every record that is made of these fields has the property. -/
def Gives (find : String → Option Tree) (P : α → Prop) (record : Record α) : Prop :=
  ∀ a, record.ofMapping find = .ok a → P a

variable {find : String → Option Tree}

theorem gives_true (record : Record α) : record.Gives find fun _ => True := fun _ _ => trivial

theorem gives_map {P : α → Prop} {Q : β → Prop} {record : Record α} {f : α → β}
    (h : record.Gives find P) (mapped : ∀ a, P a → Q (f a)) : (f <$> record).Gives find Q := by
  intro b ok
  obtain ⟨a, read, rfl⟩ := except_map_ok.mp ok
  exact mapped a (h a read)

theorem gives_seq {P : α → Prop} {Q : β → Prop} {f : Record (α → β)} {record : Record α}
    (hf : f.Gives find fun g => ∀ a, P a → Q (g a)) (h : record.Gives find P) :
    (f <*> record).Gives find Q := by
  intro b ok
  obtain ⟨g, readG, ok⟩ := except_bind_ok.mp ok
  obtain ⟨a, readA, ok⟩ := except_bind_ok.mp ok
  cases ok
  exact hf g readG a (h a readA)

/-- A field that is there is what its decoder gives. -/
theorem gives_withDefault {decode : Decoder α} {name : String} {default : α} {tree : Tree}
    (found : find name = some tree) :
    (withDefault name default decode).Gives find fun a => decode tree = .ok a := by
  intro a ok
  simpa only [withDefault, found] using ok

/-- Every record that is read has the property. -/
structure Ensures (P : α → Prop) (record : Record α) : Prop where
  mapping : ∀ find, record.Gives find P
  items : ∀ kind place trees a rest, record.ofItems kind place trees = .ok (a, rest) → P a

theorem ensures_true (record : Record α) : record.Ensures fun _ => True :=
  ⟨fun _ => gives_true record, fun _ _ _ _ _ _ => trivial⟩

/-- Every record that is read from trees of the kind has the property, and leaves such trees. -/
structure EnsuresOn (C : Tree → Prop) (P : α → Prop) (record : Record α) : Prop where
  mapping : ∀ find, (∀ name, ∀ tree ∈ find name, C tree) → record.Gives find P
  items : ∀ kind place trees a rest, (∀ tree ∈ trees, C tree) →
    record.ofItems kind place trees = .ok (a, rest) → P a ∧ ∀ tree ∈ rest, C tree

theorem ensures_iff {P : α → Prop} {record : Record α} :
    record.Ensures P ↔ record.EnsuresOn (fun _ => True) P where
  mp h := ⟨fun find _ => h.mapping find, fun kind place trees a rest _ ok =>
    ⟨h.items kind place trees a rest ok, fun _ _ => trivial⟩⟩
  mpr h := ⟨fun find => h.mapping find fun _ _ _ => trivial, fun kind place trees a rest ok =>
    (h.items kind place trees a rest (fun _ _ => trivial) ok).1⟩

section Closed

variable {C : Tree → Prop} {P : α → Prop} {Q : β → Prop}

theorem ensuresOn_map {record : Record α} {f : α → β} (h : record.EnsuresOn C P)
    (mapped : ∀ a, P a → Q (f a)) : (f <$> record).EnsuresOn C Q where
  mapping find hC := gives_map (h.mapping find hC) mapped
  items kind place trees b rest hC ok := by
    obtain ⟨⟨a, others⟩, read, eq⟩ := except_map_ok.mp ok
    cases eq
    obtain ⟨ha, others⟩ := h.items _ _ _ _ _ hC read
    exact ⟨mapped a ha, others⟩

theorem ensuresOn_seq {f : Record (α → β)} {record : Record α}
    (hf : f.EnsuresOn C fun g => ∀ a, P a → Q (g a)) (h : record.EnsuresOn C P) :
    (f <*> record).EnsuresOn C Q where
  mapping find hC := gives_seq (hf.mapping find hC) (h.mapping find hC)
  items kind place trees b rest hC ok := by
    obtain ⟨⟨g, middle⟩, readG, ok⟩ := except_bind_ok.mp ok
    obtain ⟨⟨a, last⟩, readA, ok⟩ := except_bind_ok.mp ok
    cases ok
    obtain ⟨hg, hC⟩ := hf.items _ _ _ _ _ hC readG
    obtain ⟨ha, hC⟩ := h.items _ _ _ _ _ hC readA
    exact ⟨hg a ha, hC⟩

private theorem ensuresOn_item {decode : Decoder α} (h : decode.EnsuresOn C P) {tree : Tree}
    {others rest : List Tree} {place : Nat} {a : α} (hC : ∀ t ∈ tree :: others, C t)
    (ok : (within (.index place) (decode tree)).map (·, others) = .ok (a, rest)) :
    P a ∧ ∀ t ∈ rest, C t := by
  rw [List.forall_mem_cons] at hC
  obtain ⟨a', read, eq⟩ := except_map_ok.mp ok
  cases eq
  exact ⟨h _ hC.1 a (except_mapError_ok.mp read), hC.2⟩

theorem ensuresOn_required {decode : Decoder α} (h : decode.EnsuresOn C P) (name : String) :
    (required name decode).EnsuresOn C P where
  mapping find hC a ok := by
    unfold required requiredAs at ok
    dsimp only at ok
    split at ok
    · next found => exact h _ (hC name _ found) a ok
    · cases ok
  items kind place trees a rest hC ok := by
    unfold required requiredAs at ok
    dsimp only at ok
    split at ok
    · exact ensuresOn_item h hC ok
    · cases ok

theorem ensuresOn_withDefault {decode : Decoder α} (h : decode.EnsuresOn C P) (name : String)
    {default : α} (hd : P default) : (withDefault name default decode).EnsuresOn C P where
  mapping find hC a ok := by
    unfold withDefault at ok
    dsimp only at ok
    split at ok
    · next found => exact h _ (hC name _ found) a ok
    · cases ok
      exact hd
  items kind place trees a rest hC ok := by
    unfold withDefault at ok
    dsimp only at ok
    split at ok
    · exact ensuresOn_item h hC ok
    · cases ok
      exact ⟨hd, by simp⟩

theorem ensuresOn_required_true {decode : Decoder α} (name : String) :
    (required name decode).EnsuresOn C fun _ => True :=
  ensuresOn_required decode.ensures_true.on name

theorem ensuresOn_withDefault_true {decode : Decoder α} {default : α} (name : String) :
    (withDefault name default decode).EnsuresOn C fun _ => True :=
  ensuresOn_withDefault decode.ensures_true.on name trivial

private theorem mem_of_findEntry {fields : List Field} {entries : List (Tree × Tree)} {name : String}
    {tree : Tree} (found : findEntry fields entries name = some tree) :
    ∃ entry ∈ entries, entry.2 = tree := by
  unfold findEntry at found
  split at found
  · obtain ⟨entry, first, rfl⟩ := Option.map_eq_some_iff.mp found
    exact ⟨entry, List.mem_of_find?_eq_some first, rfl⟩
  · cases found

theorem ensuresOn_decode (closed : Tree.Closed C) {record : Record α} (h : record.EnsuresOn C P)
    (kind : String) : (record.decode kind).EnsuresOn C P := by
  unfold Record.decode decodeWith
  refine ensuresOn_located closed fun tree hC a ok => ?_
  dsimp only at ok
  split at ok
  · obtain ⟨_, _, ok⟩ := except_bind_ok.mp ok
    refine h.mapping _ (fun name tree found => ?_) a ok
    obtain ⟨entry, known, rfl⟩ := mem_of_findEntry found
    exact closed.mapping hC entry known
  · obtain ⟨⟨a', rest⟩, read, ok⟩ := except_bind_ok.mp ok
    dsimp only at ok
    split at ok
    · cases ok
      exact (h.items _ _ _ _ _ (closed.sequence hC) read).1
    · cases ok
  · exact h.mapping _ (by simp) a ok
  · exact absurd ok unexpected_ne_ok

end Closed

theorem ensures_map {P : α → Prop} {Q : β → Prop} {record : Record α} {f : α → β}
    (h : record.Ensures P) (mapped : ∀ a, P a → Q (f a)) : (f <$> record).Ensures Q :=
  ensures_iff.mpr (ensuresOn_map (ensures_iff.mp h) mapped)

theorem ensures_seq {P : α → Prop} {Q : β → Prop} {f : Record (α → β)} {record : Record α}
    (hf : f.Ensures fun g => ∀ a, P a → Q (g a)) (h : record.Ensures P) :
    (f <*> record).Ensures Q :=
  ensures_iff.mpr (ensuresOn_seq (ensures_iff.mp hf) (ensures_iff.mp h))

theorem ensures_withDefault {P : α → Prop} {decode : Decoder α} (h : decode.Ensures P)
    (name : String) {default : α} (hd : P default) : (withDefault name default decode).Ensures P :=
  ensures_iff.mpr (ensuresOn_withDefault h.on name hd)

theorem ensures_maybe {P : α → Prop} {decode : Decoder α} (h : decode.Ensures P) (name : String) :
    (maybe name decode).Ensures fun found => ∀ a ∈ found, P a :=
  ensures_withDefault (ensures_optional h) name (by simp)

theorem ensures_decode {P : α → Prop} {record : Record α} (h : record.Ensures P) (kind : String) :
    (record.decode kind).Ensures P := by
  have on := ensuresOn_decode Tree.closed_true (ensures_iff.mp h) kind
  exact fun tree => on tree trivial

end Record
end Automation.Decode
