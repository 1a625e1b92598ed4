import Automation.Proofs.Url.PlainDomains
import Automation.Url.Guard
import Mathlib.Data.List.TakeWhile

/-!
What a guard sees of a URL: its scheme, whether it has credentials, and its host. A text that is a host and
nothing else is the host of the URL that is written around it.
-/
namespace Automation.Url

/-- HTTP without credentials. -/
def IsCallable (url : Url) : Prop :=
  (url.scheme = "http" ∨ url.scheme = "https") ∧ url.hasCredentials = false

/-- Why a host is refused, if it is. -/
def Host.refusal : Host → Refusal
  | .domain name => .host name
  | .ipv4 ip => .address ip.toText
  | .ipv6 ip => .address ip.toMixedText

namespace Guard

variable {guard : Guard} {text : String} {url : Url} {host : Host} {reason : Refusal}

/-- Hosts that are not to be called. -/
def Bars (guard : Guard) : Host → Prop
  | .domain name => guard.blocksDomain name = true
  | .ipv4 ip => ip.isBlocked = true
  | .ipv6 ip => ip.isBlocked = true

theorem judge_eq_allowed_iff : guard.judge text = .allowed ↔ guard.refusal? text = none := by
  unfold judge
  cases guard.refusal? text with
  | none => exact ⟨fun _ => rfl, fun _ => rfl⟩
  | some refusal => exact ⟨nofun, nofun⟩

/-- A URL over HTTP without credentials is refused for its host alone. -/
theorem refusal?_eq_some_iff (read : Url.parse text = .ok url) (callable : url.IsCallable)
    (found : url.host = some host) : guard.refusal? text = some reason ↔ guard.Bars host ∧ host.refusal = reason := by
  obtain ⟨scheme, given⟩ := callable
  have known : ¬ (url.scheme ≠ "http" ∧ url.scheme ≠ "https") := fun other => scheme.elim other.1 other.2
  unfold refusal?
  rw [read]
  dsimp only
  rw [if_neg known, given, if_neg nofun, found]
  cases host <;> simp [Bars, Host.refusal]

/-- Any other URL is refused, and one without host, whatever the guard. -/
theorem refused_anyhow (read : Url.parse text = .ok url)
    (other : ¬ (url.IsCallable ∧ ∃ host, url.host = some host)) :
    ∃ reason, ∀ guard : Guard, guard.refusal? text = some reason := by
  unfold refusal?
  rw [read]
  dsimp only
  by_cases scheme : url.scheme ≠ "http" ∧ url.scheme ≠ "https"
  · simp only [if_pos scheme]
    exact ⟨_, fun _ => rfl⟩
  · simp only [if_neg scheme]
    cases given : url.hasCredentials with
    | true => exact ⟨.credentials, fun _ => rfl⟩
    | false =>
      have known : url.scheme = "http" ∨ url.scheme = "https" := by simpa [or_iff_not_imp_left] using scheme
      cases found : url.host with
      | none => exact ⟨.noHost, fun _ => rfl⟩
      | some host => exact absurd ⟨⟨known, given⟩, host, found⟩ other

theorem callable_of_refusal? (read : Url.parse text = .ok url) (free : guard.refusal? text = none) :
    url.IsCallable ∧ ∃ host, url.host = some host := by
  by_contra other
  obtain ⟨reason, refused⟩ := refused_anyhow read other
  rw [refused guard] at free
  cases free

/-- A guard that bars more hosts refuses what another one refuses, for the same reason. -/
theorem refusal?_mono {guard' : Guard} (bars : ∀ host, guard.Bars host → guard'.Bars host)
    (refused : guard.refusal? text = some reason) : guard'.refusal? text = some reason := by
  cases read : Url.parse text with
  | error e =>
    unfold refusal? at refused ⊢
    rwa [read] at refused ⊢
  | ok url =>
    by_cases callable : url.IsCallable ∧ ∃ host, url.host = some host
    · obtain ⟨callable, host, found⟩ := callable
      rw [refusal?_eq_some_iff read callable found] at refused ⊢
      exact ⟨bars host refused.1, refused.2⟩
    · obtain ⟨other, anyhow⟩ := refused_anyhow read callable
      rwa [anyhow] at refused ⊢

/-- A URL may be called just if it is one over HTTP without credentials, and its host is not barred. -/
theorem judge_eq_allowed_iff_of_host (read : Url.parse text = .ok url) (found : url.host = some host) :
    guard.judge text = .allowed ↔ url.IsCallable ∧ ¬ guard.Bars host := by
  rw [judge_eq_allowed_iff]
  constructor
  · intro free
    obtain ⟨callable, -⟩ := callable_of_refusal? read free
    refine ⟨callable, fun barred => ?_⟩
    rw [(refusal?_eq_some_iff read callable found).mpr ⟨barred, rfl⟩] at free
    cases free
  · rintro ⟨callable, free⟩
    exact Option.eq_none_iff_forall_ne_some.mpr fun reason refused =>
      free ((refusal?_eq_some_iff read callable found).mp refused).1

end Guard

/-- The text is a host, and nothing in it would be read as another part of a URL. -/
structure IsWholeHost (text : String) (host : Host) : Prop where
  read : Host.parse text.toList = .ok host
  undivided : ∀ c ∈ text.toList, c ∉ ['/', '\\', '?', '#', '@', '\t', '\n', '\r']
  portless : hostLength false text.toList = text.toList.length

section Reading

variable {text : String} {host : Host} {cs : List Char}

private theorem cleaned_around (kept : ∀ c ∈ text.toList, c ∉ ['\t', '\n', '\r']) :
    cleaned ("http://" ++ text ++ "/") = "http://".toList ++ text.toList ++ "/".toList := by
  have inner : text.toList.filter (fun c => !(c == '\t' || c == '\n' || c == '\r')) = text.toList :=
    List.filter_eq_self.mpr fun c mem => by simpa [and_assoc] using kept c mem
  have start (cs : List Char) : ("http://".toList ++ cs).dropWhile (fun c => decide (c.toNat ≤ 32)) =
      "http://".toList ++ cs := rfl
  have finish (cs : List Char) : (cs ++ "/".toList).reverse.dropWhile (fun c => decide (c.toNat ≤ 32)) =
      (cs ++ "/".toList).reverse := by
    rw [List.reverse_append]
    rfl
  rw [cleaned, String.toList_append, String.toList_append, List.append_assoc, start, ← List.append_assoc, finish,
    List.reverse_reverse, List.filter_append, List.filter_append, inner]
  rfl

private theorem credentialsOf_bare (bare : '@' ∉ cs) : credentialsOf cs = ([], [], cs) := by
  have all : ∀ c ∈ cs.reverse, (c != '@') = true := by
    intro c mem
    refine bne_iff_ne.mpr ?_
    rintro rfl
    exact bare (List.mem_reverse.mp mem)
  have same : (cs.reverse.takeWhile (· != '@')).reverse = cs := by
    rw [List.takeWhile_eq_self_iff.mpr all, List.reverse_reverse]
  rw [credentialsOf, same, if_pos rfl]

namespace IsWholeHost

theorem filled (whole : IsWholeHost text host) : text.toList ≠ [] := by
  intro empty
  have read := whole.read
  rw [empty, show Host.parse [] = .error .emptyHost by decide] at read
  cases read

theorem not_endsAuthority (whole : IsWholeHost text host) :
    ∀ c ∈ text.toList, endsAuthority true c = false := by
  intro c mem
  have apart := whole.undivided c mem
  simp only [List.mem_cons, not_or] at apart
  obtain ⟨slash, backslash, question, hash, -⟩ := apart
  simp [endsAuthority, isSlash, endsPath, slash, backslash, question, hash]

theorem withAuthority (whole : IsWholeHost text host) : withAuthority "http" (text.toList ++ "/".toList) =
    .ok { scheme := "http", host := some host, path := .segments [""] } := by
  have inside : ∀ c ∈ text.toList, (!endsAuthority true c) = true := fun c mem => by
    rw [whole.not_endsAuthority c mem]
    rfl
  have front : (text.toList ++ "/".toList).takeWhile (!endsAuthority true ·) = text.toList := by
    rw [List.takeWhile_append_of_pos inside]
    exact List.append_nil _
  have back : (text.toList ++ "/".toList).dropWhile (!endsAuthority true ·) = "/".toList :=
    List.dropWhile_append_of_pos inside
  have bare : '@' ∉ text.toList := fun mem => whole.undivided '@' mem (by decide)
  have special : isSpecial "http" = true := by decide
  have first : text.toList.head? ≠ some '@' := fun same => bare (List.mem_of_mem_head? same)
  have filled : text.toList.isEmpty = false := by simpa using whole.filled
  unfold Url.withAuthority
  dsimp only
  rw [special, front, back, credentialsOf_bare bare]
  dsimp only
  rw [if_neg fun same => first same.1, whole.portless, List.take_length, List.drop_length, filled, whole.read]
  rfl

end IsWholeHost

/-- A host and nothing else, between two slashes and one, makes a URL with that host. -/
theorem parse_wholeHost (whole : IsWholeHost text host) : Url.parse ("http://" ++ text ++ "/") =
    .ok { scheme := "http", host := some host, path := .segments [""] } := by
  have kept : ∀ c ∈ text.toList, c ∉ ['\t', '\n', '\r'] := fun c mem known =>
    whole.undivided c mem (List.mem_append_right ['/', '\\', '?', '#', '@'] known)
  have scheme : scheme? ("http://".toList ++ text.toList ++ "/".toList) =
      some ("http", "//".toList ++ (text.toList ++ "/".toList)) := rfl
  have slashes : ("//".toList ++ (text.toList ++ "/".toList)).dropWhile (isSlash true) =
      text.toList ++ "/".toList := by
    obtain ⟨c, rest, cut⟩ := List.exists_cons_of_ne_nil whole.filled
    have other : ¬ isSlash true c = true := by
      have inside := whole.not_endsAuthority c (cut ▸ List.mem_cons_self)
      rw [endsAuthority, Bool.or_eq_false_iff] at inside
      rw [inside.1]
      exact nofun
    rw [cut]
    exact List.dropWhile_cons_of_neg other
  rw [Url.parse, cleaned_around kept, scheme]
  dsimp only
  rw [if_neg (by decide), if_pos (by decide), slashes, whole.withAuthority]

private theorem hostLength_of_portless {inside : Bool} (portless : ':' ∉ cs) : hostLength inside cs = cs.length := by
  induction cs generalizing inside with
  | nil => rfl
  | cons c rest ih =>
    rw [List.mem_cons, not_or] at portless
    obtain ⟨other, portless⟩ := portless
    rw [hostLength, if_neg fun same => other same.1.symm, ih portless, List.length_cons]

/-- A host that is read from a text without forbidden characters is read from all of it. -/
theorem isWholeHost_of_allowed (allowed : (text.toList.map Char.toLower).any Host.isForbidden = false)
    (read : Host.parse text.toList = .ok host) : IsWholeHost text host where
  read := read
  undivided c mem divider := by
    have forbidden : ['/', '\\', '?', '#', '@', '\t', '\n', '\r'].all (Host.isForbidden ·.toLower) = true := by
      decide
    exact Host.not_mem_of_allowed allowed (List.all_eq_true.mp forbidden c divider) mem
  portless := hostLength_of_portless (Host.not_mem_of_allowed allowed (by decide))

end Reading
end Automation.Url
