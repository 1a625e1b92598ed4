import Automation.Proofs.Text.Blank
import Automation.Proofs.Url.Targets

/-!
What a guard refuses once a host is added to those it blocks: all that it refused before, and besides it the
domain that the host spells out in any case, with whatever is inside the domain. Nothing is done to the text of
the host but to make its letters small, so that one that spells its domain in another way changes nothing, and
neither does an address.
-/
namespace Automation.Url

open Text (lowerBetween)

namespace Guard

variable {guard : Guard} {entry text : String} {url : Url} {reason : Refusal}

/-- What is compared of a domain: its name in small letters, without points at the end. -/
def compared (name : String) : List Char := Text.lowerChars (Text.dropEndWhile (· == '.') name.toList)

/-- One domain is another or inside it. -/
def Within (host name : List Char) : Prop := name = host ∨ ∃ front, name = front ++ '.' :: host

theorem isWithin_iff {host name : List Char} : isWithin host name = true ↔ Within host name := by
  rw [isWithin, Bool.or_eq_true, beq_iff_eq, List.isSuffixOf_iff_suffix]
  exact or_congr_right ⟨fun ⟨front, cut⟩ => ⟨front, cut.symm⟩, fun ⟨front, cut⟩ => ⟨front, cut.symm⟩⟩

theorem blocksDomain_blockHost {name : String} : (guard.blockHost entry).blocksDomain name = true ↔
    guard.blocksDomain name = true ∨ Within (Text.lowerChars entry.toList) (compared name) := by
  have entries : localHosts ++ (guard.blockHost entry).hosts = localHosts ++ guard.hosts ++ [Text.lower entry] :=
    (List.append_assoc ..).symm
  rw [← isWithin_iff]
  unfold blocksDomain
  dsimp only
  rw [entries, List.any_append]
  simp only [Bool.or_eq_true, or_assoc, List.any_cons, List.any_nil, Text.lower, String.toList_ofList, compared,
    Bool.false_eq_true, or_false]

/-- Whatever was refused is refused for the same reason. -/
theorem refusal?_of_refused (entry : String) (refused : guard.refusal? text = some reason) :
    (guard.blockHost entry).refusal? text = some reason := by
  refine refusal?_mono (fun host barred => ?_) refused
  cases host with
  | domain name => exact blocksDomain_blockHost.mpr (.inl barred)
  | ipv4 ip => exact barred
  | ipv6 ip => exact barred

/-- What was not refused is refused for its domain, if the new entry is that domain or has it inside. -/
theorem refusal?_blockHost (read : Url.parse text = .ok url) (free : guard.refusal? text = none) :
    (guard.blockHost entry).refusal? text = some reason ↔ ∃ name, url.host = some (.domain name) ∧
      Within (Text.lowerChars entry.toList) (compared name) ∧ .host name = reason := by
  obtain ⟨callable, host, found⟩ := callable_of_refusal? read free
  have unbarred := ((judge_eq_allowed_iff_of_host read found).mp (judge_eq_allowed_iff.mpr free)).2
  rw [refusal?_eq_some_iff read callable found, found]
  cases host with
  | domain name =>
    have open' : guard.blocksDomain name ≠ true := unbarred
    rw [Bars, blocksDomain_blockHost, or_iff_right open']
    constructor
    · rintro ⟨within, same⟩
      exact ⟨name, rfl, within, same⟩
    · rintro ⟨_, same, within⟩
      cases same
      exact within
  | ipv4 ip =>
    refine iff_of_false (fun h => unbarred h.1) ?_
    rintro ⟨_, other, -⟩
    cases other
  | ipv6 ip =>
    refine iff_of_false (fun h => unbarred h.1) ?_
    rintro ⟨_, other, -⟩
    cases other

end Guard

/-- A domain is another or inside it, and may have points at its end. -/
def Host.Within (name : String) (host : Host) : Prop :=
  ∃ front points, host = .domain (front ++ name ++ points) ∧ (front = "" ∨ front.toList.getLast? = some '.') ∧
    ∀ c ∈ points.toList, c = '.'

/-- The text spells out a domain, which has no point at its end, in any case. -/
structure SpellsOut (text name : String) : Prop where
  whole : IsWholeHost text (.domain name)
  small : Text.lower text = name
  unpointed : ∃ last, name.toList.getLast? = some last ∧ last ≠ '.'

namespace SpellsOut

variable {entry name : String} {host : Host}

private theorem toLower_ne_point {c : Char} (ascii : c.toNat < 128) (other : c ≠ '.') : c.toLower ≠ '.' :=
  Text.forall_ascii (P := fun c => c ≠ '.' → c.toLower ≠ '.') (by decide +kernel) (decide_eq_true ascii) other

/-- Domains as they are mostly written are spelled out. -/
theorem of_plain (whole : IsWholeHost entry (.domain name)) (plain : Idna.IsPlain entry.toList)
    (literal : '%' ∉ entry.toList) (unpointed : entry.toList.getLast? ≠ some '.') : SpellsOut entry name := by
  have known : name = String.ofList (entry.toList.map Char.toLower) :=
    Host.eq_of_parse_plain plain literal whole.read
  have ascii : ∀ c ∈ entry.toList, Text.isAscii c = true := fun c mem => decide_eq_true (plain.ascii c mem)
  refine ⟨whole, ?_, ?_⟩
  · rw [known, Text.lower, Text.lowerChars_eq, Text.lowerBetween_of_ascii ascii]
  · obtain ⟨last, final⟩ := Option.ne_none_iff_exists'.mp (mt List.getLast?_eq_none_iff.mp whole.filled)
    refine ⟨last.toLower, ?_, ?_⟩
    · rw [known, String.toList_ofList, List.getLast?_map, final]
      rfl
    · refine toLower_ne_point (plain.ascii _ (List.mem_of_getLast? final)) fun point => unpointed ?_
      rw [final, point]

/-- What is compared of a domain inside the one that is spelled out ends as the text does in small letters. -/
theorem within_compared (h : SpellsOut entry name) {shown : String} (within : Host.Within name (.domain shown)) :
    Guard.Within (Text.lowerChars entry.toList) (Guard.compared shown) := by
  obtain ⟨front, points, same, edge, all⟩ := within
  cases same
  obtain ⟨last, final, other⟩ := h.unpointed
  have entryChars : Text.lowerChars entry.toList = name.toList := by
    rw [← h.small, Text.lower, String.toList_ofList]
  have small : ∀ c ∈ name.toList, Text.IsSmall c := by
    rw [← entryChars, Text.lowerChars_eq]
    exact Text.isSmall_of_mem_lowerBetween
  have ending : (front.toList ++ name.toList).getLast? = some last := by
    rw [List.getLast?_append, final]
    rfl
  have kept : (last == '.') = false := beq_eq_false_iff_ne.mpr other
  have compared : Guard.compared (front ++ name ++ points) =
      lowerBetween [] front.toList name.toList ++ name.toList := by
    rw [Guard.compared, String.toList_append, String.toList_append,
      Text.dropEndWhile_append fun c mem => beq_iff_eq.mpr (all c mem),
      Text.dropEndWhile_of_last ending kept, Text.lowerChars_eq, Text.lowerBetween_append,
      Text.lowerBetween_of_small small, List.append_nil]
  rw [entryChars, compared]
  rcases edge with rfl | point
  · exact .inl rfl
  · obtain ⟨labels, cut⟩ := List.getLast?_eq_some_iff.mp point
    have pointed : ∀ c ∈ ['.'], Text.IsSmall c := by
      rw [List.forall_mem_singleton]
      unfold Text.IsSmall
      decide
    refine .inr ⟨lowerBetween [] labels ('.' :: name.toList), ?_⟩
    rw [cut, Text.lowerBetween_append, Text.lowerBetween_of_small pointed, List.append_assoc]
    rfl

end SpellsOut

/-- What another entry does to a guard. All refusals stay; of the URLs that were allowed just those are refused whose
domain is compared equal to the entry in small letters, or inside it, so that none is whose host is an address; and if
the entry spells out a domain, as all do that are mostly written, no URL is allowed any more whose host is the domain
or inside it. -/
theorem blockHost_effect (guard : Guard) (entry : String) :
    (∀ text reason, guard.refusal? text = some reason → (guard.blockHost entry).refusal? text = some reason) ∧
    (∀ text url reason, Url.parse text = .ok url → guard.refusal? text = none →
      ((guard.blockHost entry).refusal? text = some reason ↔ ∃ name, url.host = some (.domain name) ∧
        Guard.Within (Text.lowerChars entry.toList) (Guard.compared name) ∧ .host name = reason)) ∧
    (∀ name, SpellsOut entry name → ∀ text url host, Url.parse text = .ok url → url.host = some host →
      host.Within name → (guard.blockHost entry).judge text ≠ .allowed) ∧
    ∀ name, IsWholeHost entry (.domain name) → Idna.IsPlain entry.toList → '%' ∉ entry.toList →
      entry.toList.getLast? ≠ some '.' → SpellsOut entry name := by
  refine ⟨?_, ?_, ?_, ?_⟩
  · intro text reason refused
    exact Guard.refusal?_of_refused entry refused
  · intro text url reason read free
    exact Guard.refusal?_blockHost read free
  · intro name spelled text url host read found within allowed
    obtain ⟨-, free⟩ := (Guard.judge_eq_allowed_iff_of_host read found).mp allowed
    have ⟨front, points, same, _⟩ := within
    subst same
    exact free (Guard.blocksDomain_blockHost.mpr (.inr (spelled.within_compared within)))
  · intro name whole plain literal unpointed
    exact .of_plain whole plain literal unpointed

private theorem wholeHost_of_domain {text name : String} (plain : Idna.IsPlain text.toList)
    (allowed : (text.toList.map Char.toLower).any Host.isForbidden = false) (filled : text.toList ≠ [])
    (named : Ipv4.endsInNumber (text.toList.map Char.toLower) = false)
    (known : String.ofList (text.toList.map Char.toLower) = name) : IsWholeHost text (.domain name) := by
  refine isWholeHost_of_allowed allowed ?_
  rw [Host.parse_of_plain plain filled allowed, named, known]
  rfl

/-- A host inside the domain of a company that is written with capitals. -/
theorem blockHost_effect_company :
    (({} : Guard).blockHost "Corp.Example.com").judge "http://intranet.corp.example.com/" ≠ .allowed := by
  have company : IsWholeHost "Corp.Example.com" (.domain "corp.example.com") :=
    wholeHost_of_domain (by decide) (by decide) (by decide) (by decide) (by decide)
  have inside : IsWholeHost "intranet.corp.example.com" (.domain "intranet.corp.example.com") :=
    wholeHost_of_domain (by decide) (by decide) (by decide) (by decide) (by decide)
  obtain ⟨-, -, effective, spelledOut⟩ := blockHost_effect {} "Corp.Example.com"
  have spelled := spelledOut _ company (by decide) (by decide) (by decide)
  have parts : "http://intranet.corp.example.com/" = "http://" ++ "intranet.corp.example.com" ++ "/" := by decide
  rw [parts]
  exact effective _ spelled _ _ _ (parse_wholeHost inside) rfl
    ⟨"intranet.", "", by decide, .inr (by decide), nofun⟩

/-- A domain with a point at its end is not blocked by its own entry. -/
theorem pointedEntry_allowed : ¬ ∀ (guard : Guard) (entry text : String) (host : Host) (url : Url),
    IsWholeHost entry host → Url.parse text = .ok url → url.IsCallable → url.host = some host →
      (guard.blockHost entry).judge text ≠ .allowed := by
  intro effective
  have whole : IsWholeHost "corp.example.com." (.domain "corp.example.com.") :=
    wholeHost_of_domain (by decide) (by decide) (by decide) (by decide) (by decide)
  have read := parse_wholeHost whole
  have free : ¬ (({} : Guard).blockHost "corp.example.com.").Bars (.domain "corp.example.com.") := by
    unfold Guard.Bars
    decide
  exact effective {} "corp.example.com." "http://corp.example.com./" _ _ whole read ⟨.inl rfl, rfl⟩ rfl
    ((Guard.judge_eq_allowed_iff_of_host read rfl).mpr ⟨⟨.inl rfl, rfl⟩, free⟩)

end Automation.Url
