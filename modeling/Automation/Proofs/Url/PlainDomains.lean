import Automation.Proofs.Text.LowerCase
import Automation.Url.Host

/-!
Domains as they are mostly written: ASCII characters without escapes, and no label that stands for another. Such
a domain is read as it stands, in small letters.
-/
namespace Automation

open Text (pieces)

variable {cs label : List Char} {c sep : Char}

namespace Text

theorem pieces_ne_nil (sep : Char) (cs : List Char) : pieces sep cs ≠ [] := by
  unfold pieces
  split
  · exact nofun
  · split
    · exact nofun
    · split <;> exact nofun

theorem intercalate_pieces : [sep].intercalate (pieces sep cs) = cs := by
  induction cs with
  | nil => rfl
  | cons c rest ih =>
    obtain ⟨piece, others, cut⟩ := List.exists_cons_of_ne_nil (pieces_ne_nil sep rest)
    rw [cut] at ih
    rw [pieces, cut]
    split
    · next here =>
      rw [← ih, here]
      rfl
    · rw [← ih]
      cases others <;> rfl

theorem mem_of_mem_pieces (h : label ∈ pieces sep cs) (mem : c ∈ label) : c ∈ cs := by
  induction cs generalizing label with
  | nil =>
    rw [List.mem_singleton.mp h] at mem
    exact mem
  | cons d rest ih =>
    obtain ⟨piece, others, cut⟩ := List.exists_cons_of_ne_nil (pieces_ne_nil sep rest)
    rw [cut] at ih
    rw [pieces, cut] at h
    split at h
    · rcases List.mem_cons.mp h with rfl | h
      · cases mem
      · exact List.mem_cons_of_mem _ (ih h mem)
    · rcases List.mem_cons.mp h with rfl | h
      · rcases List.mem_cons.mp mem with rfl | mem
        · exact List.mem_cons_self
        · exact List.mem_cons_of_mem _ (ih List.mem_cons_self mem)
      · exact List.mem_cons_of_mem _ (ih (List.mem_cons_of_mem _ h) mem)

end Text

namespace Url

namespace Percent

/-- Without percent signs there is nothing to decode. -/
theorem decode_literal (literal : '%' ∉ cs) : decode cs = cs.flatMap String.utf8EncodeChar := by
  induction cs with
  | nil => rfl
  | cons c rest ih =>
    rw [List.mem_cons, not_or] at literal
    obtain ⟨other, literal⟩ := literal
    rw [decode, ih literal, List.flatMap_cons]
    intro a b more same
    exact absurd same.symm other

theorem ofBytes?_encoded : ofBytes? (cs.flatMap String.utf8EncodeChar) = some cs := by
  have bytes : (⟨(cs.flatMap String.utf8EncodeChar).toArray⟩ : ByteArray) = (String.ofList cs).toByteArray := by
    rw [String.toByteArray_ofList, List.utf8Encode]
    exact ByteArray.ext List.data_toByteArray.symm
  rw [ofBytes?, bytes, String.fromUTF8?, dif_pos (String.ofList cs).isValidUTF8]
  exact congrArg some String.toList_ofList

end Percent

namespace Idna

/-- Small ASCII letters and all other ASCII characters but capitals. -/
def IsSmall (c : Char) : Prop := c.toNat < 128 ∧ c.isUpper = false

instance : DecidablePred IsSmall := fun _ => inferInstanceAs (Decidable (_ ∧ _))

theorem isSmall_toLower (ascii : c.toNat < 128) : IsSmall c.toLower :=
  Text.forall_ascii (P := fun c => IsSmall c.toLower) (by decide +kernel) (decide_eq_true ascii)

theorem joinersFit_of_ascii {before : List Char} (ascii : ∀ c ∈ cs, c.toNat < 128) : joinersFit before cs = true := by
  induction cs generalizing before with
  | nil => rfl
  | cons c rest ih =>
    obtain ⟨here, others⟩ := List.forall_mem_cons.mp ascii
    rw [joinersFit, ih others, joinerFits, if_neg (by omega), if_neg (by omega)]
    rfl

theorem compose_of_ascii (ascii : ∀ c ∈ cs, c.toNat < 128) : Text.compose cs = cs := by
  rw [Text.compose, if_pos]
  refine List.all_eq_true.mpr fun c mem => ?_
  have here := ascii c mem
  simp only [decide_eq_true_eq]
  omega

theorem isValidLabel_of_small (small : ∀ c ∈ label, IsSmall c) : isValidLabel label = true := by
  have ascii : ∀ c ∈ label, c.toNat < 128 := fun c mem => (small c mem).1
  have valid : label.all isValid = true := by
    refine List.all_eq_true.mpr fun c mem => ?_
    rw [isValid, if_pos (small c mem).1, (small c mem).2]
    rfl
  have unmarked : label.head?.any Text.isMark = false := by
    cases label with
    | nil => rfl
    | cons c rest =>
      have here := ascii c List.mem_cons_self
      simp [Text.isMark, show ¬ 768 ≤ c.toNat by omega]
  rw [isValidLabel, valid, compose_of_ascii ascii, unmarked, joinersFit_of_ascii ascii]
  simp

theorem isBidirectional_of_ascii (ascii : ∀ c ∈ label, c.toNat < 128) : isBidirectional label = false := by
  rw [isBidirectional, List.any_eq_false]
  intro c mem
  rw [Text.direction_of_ascii (ascii c mem)]
  exact nofun

/-- Domains of ASCII characters whose labels all stand for themselves. -/
structure IsPlain (cs : List Char) : Prop where
  ascii : ∀ c ∈ cs, c.toNat < 128
  labels : ∀ label ∈ pieces '.' (cs.map Char.toLower), acePrefix.isPrefixOf label = false

instance : Decidable (IsPlain cs) :=
  decidable_of_iff (cs.all Text.isAscii = true ∧
      (pieces '.' (cs.map Char.toLower)).all (fun label => !acePrefix.isPrefixOf label) = true) <| by
    simp only [List.all_eq_true, Bool.not_eq_true']
    exact ⟨fun ⟨ascii, labels⟩ => ⟨fun c mem => of_decide_eq_true (ascii c mem), labels⟩,
      fun h => ⟨fun c mem => decide_eq_true (h.ascii c mem), h.labels⟩⟩

namespace IsPlain

theorem small (h : IsPlain cs) (mem : label ∈ pieces '.' (cs.map Char.toLower)) : ∀ c ∈ label, IsSmall c := by
  intro c inside
  obtain ⟨d, known, rfl⟩ := List.mem_map.mp (Text.mem_of_mem_pieces mem inside)
  exact isSmall_toLower (h.ascii d known)

theorem mapM_mapChar? (ascii : ∀ c ∈ cs, c.toNat < 128) :
    cs.mapM mapChar? = some (cs.map fun c => [c.toLower]) := by
  induction cs with
  | nil => rfl
  | cons c rest ih =>
    obtain ⟨here, others⟩ := List.forall_mem_cons.mp ascii
    rw [List.mapM_cons, ih others, mapChar?, if_pos here]
    rfl

theorem mapM_decodeLabel? {labels : List (List Char)} (h : ∀ label ∈ labels, acePrefix.isPrefixOf label = false) :
    labels.mapM decodeLabel? = some labels := by
  induction labels with
  | nil => rfl
  | cons label rest ih =>
    obtain ⟨here, others⟩ := List.forall_mem_cons.mp h
    rw [List.mapM_cons, ih others, decodeLabel?, here]
    rfl

theorem labels? (h : IsPlain cs) : labels? cs = some (pieces '.' (cs.map Char.toLower)) := by
  have ascii : ∀ c ∈ cs.map Char.toLower, c.toNat < 128 := by
    rw [List.forall_mem_map]
    exact fun c mem => (isSmall_toLower (h.ascii c mem)).1
  have valid : (pieces '.' (cs.map Char.toLower)).all isValidLabel = true :=
    List.all_eq_true.mpr fun label mem => isValidLabel_of_small (h.small mem)
  have forward : (pieces '.' (cs.map Char.toLower)).any isBidirectional = false := by
    rw [List.any_eq_false]
    intro label mem
    rw [isBidirectional_of_ascii fun c inside => (h.small mem c inside).1]
    exact nofun
  have flat : (cs.map fun c => [c.toLower]).flatten = cs.map Char.toLower := by
    rw [← List.flatMap_def, List.map_eq_flatMap]
  unfold Idna.labels?
  rw [mapM_mapChar? h.ascii]
  dsimp only [bind, Option.bind]
  rw [flat, compose_of_ascii ascii, mapM_decodeLabel? h.labels]
  dsimp only
  rw [valid, forward]
  rfl

theorem toAscii? (h : IsPlain cs) : toAscii? cs = some (cs.map Char.toLower) := by
  have same : (pieces '.' (cs.map Char.toLower)).map encodeLabel = pieces '.' (cs.map Char.toLower) := by
    have all (label : List Char) (mem : label ∈ pieces '.' (cs.map Char.toLower)) : encodeLabel label = id label := by
      have ascii : label.all isAscii = true :=
        List.all_eq_true.mpr fun c inside => decide_eq_true (h.small mem c inside).1
      rw [encodeLabel, if_pos ascii, id]
    rw [List.map_congr_left all, List.map_id]
  rw [Idna.toAscii?, h.labels?, Option.map_some, same, Text.intercalate_pieces]

end IsPlain
end Idna

namespace Host

variable {name : String}

theorem domainOf?_of_plain (h : Idna.IsPlain cs) (literal : '%' ∉ cs) : domainOf? cs =
    if (cs.map Char.toLower).any isForbidden then none else some (cs.map Char.toLower) := by
  rw [domainOf?, Percent.decode_literal literal, Percent.ofBytes?_encoded]
  dsimp only [bind, Option.bind]
  rw [h.toAscii?]

theorem not_mem_of_allowed (allowed : (cs.map Char.toLower).any isForbidden = false)
    (forbidden : isForbidden c.toLower = true) : c ∉ cs := fun mem =>
  List.any_eq_false.mp allowed _ (List.mem_map_of_mem mem) forbidden

/-- A plain host without forbidden characters is the address that it spells, if it ends in a number, and the
domain in small letters if it does not. -/
theorem parse_of_plain (h : Idna.IsPlain cs) (filled : cs ≠ [])
    (allowed : (cs.map Char.toLower).any isForbidden = false) : Host.parse cs =
      if Ipv4.endsInNumber (cs.map Char.toLower) then
        match Ipv4.parse? (cs.map Char.toLower) with
        | some address => .ok (.ipv4 address)
        | none => .error .invalidIpv4
      else .ok (.domain (String.ofList (cs.map Char.toLower))) := by
  have literal : '%' ∉ cs := not_mem_of_allowed allowed (by decide)
  have bare : cs.head? ≠ some '[' := fun first =>
    not_mem_of_allowed allowed (by decide) (List.mem_of_mem_head? first)
  have filled : cs.map Char.toLower ≠ [] := by simpa using filled
  rw [Host.parse, if_neg bare, domainOf?_of_plain h literal, allowed]
  generalize cs.map Char.toLower = name at filled ⊢
  cases name with
  | nil => contradiction
  | cons c rest => rfl

private theorem bracketed_ne_domain (cs : List Char) (name : String) : bracketed cs ≠ .ok (.domain name) := by
  unfold bracketed
  split
  · split <;> exact nofun
  · exact nofun

/-- The domain that is read from a plain host is the host in small letters. -/
theorem eq_of_parse_plain (h : Idna.IsPlain cs) (literal : '%' ∉ cs) (read : Host.parse cs = .ok (.domain name)) :
    name = String.ofList (cs.map Char.toLower) := by
  unfold Host.parse at read
  rw [domainOf?_of_plain h literal] at read
  generalize cs.map Char.toLower = small at read
  split at read
  · exact absurd read (bracketed_ne_domain cs name)
  · split at read
    · cases read
    · cases read
    · next known =>
      obtain ⟨-, rfl⟩ := by simpa using known
      split at read
      · split at read <;> cases read
      · cases read
        rfl

end Host
end Url
end Automation
