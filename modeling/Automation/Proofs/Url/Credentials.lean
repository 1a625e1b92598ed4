import Automation.Proofs.Decode.Ensures
import Automation.Url.Guard

/-!
URLs with credentials. They have a host, and no guard lets them pass; why it does not is all that is said of
them, whatever the credentials are.
-/
namespace Automation.Url

open Decode (except_bind_ok)

section

variable {α β ε : Type}

private theorem of_throw {c : Prop} [Decidable c] {e : ε} {next : PUnit → Except ε α} {a : α}
    (ok : (if c then throw e >>= next else next ⟨⟩) = .ok a) : ¬c ∧ next ⟨⟩ = .ok a := by
  split at ok
  · cases ok
  · next h => exact ⟨h, ok⟩

private theorem of_either {c : Prop} [Decidable c] {x y : Except ε α} {next : α → Except ε β} {b : β}
    (ok : (if c then x >>= next else y >>= next) = .ok b) :
    ∃ a, (if c then x else y) = .ok a ∧ next a = .ok b := by
  split at ok
  · next h => simpa only [if_pos h] using except_bind_ok.mp ok
  · next h => simpa only [if_neg h] using except_bind_ok.mp ok

end

variable {url url' : Url} {text text' : String} {cs : List Char}

/-- The URLs have the same credentials and the same host. -/
private structure SameFront (url url' : Url) : Prop where
  username : url.username = url'.username
  password : url.password = url'.password
  host : url.host = url'.host

private theorem sameFront_withQueryAndFragment (url : Url) (cs : List Char) :
    SameFront (url.withQueryAndFragment cs) url := by
  unfold withQueryAndFragment
  extract_lets escapes fragmentOf
  split
  · exact ⟨rfl, rfl, rfl⟩
  · exact ⟨rfl, rfl, rfl⟩

private theorem sameFront_withRest (url : Url) (cs : List Char) : SameFront (url.withRest cs) url :=
  let same := sameFront_withQueryAndFragment { url with path := _ } _
  ⟨same.username, same.password, same.host⟩

private theorem SameFront.bare {scheme : String} {path : Path} {host : Option Host}
    (h : SameFront url { scheme, host, path }) : url.hasCredentials = false := by
  rw [hasCredentials, h.username, h.password]
  rfl

private theorem encode_ne_nil {escapes : Char → Bool} (filled : cs ≠ []) : Percent.encode escapes cs ≠ [] := by
  obtain ⟨c, rest, rfl⟩ := List.exists_cons_of_ne_nil filled
  rw [Percent.encode, List.flatMap_cons]
  refine List.append_ne_nil_of_left_ne_nil ?_ _
  split
  · rw [Percent.encodeChar]
    obtain ⟨b, more, bytes⟩ := List.exists_cons_of_ne_nil (String.utf8EncodeChar_ne_nil (c := c))
    rw [bytes]
    exact nofun
  · exact nofun

private theorem ofList_ne_empty (filled : cs ≠ []) : String.ofList cs ≠ "" := by
  simpa using filled

private theorem Host.bracketed_filled {host : Host} (ok : Host.bracketed cs = .ok host) :
    host ≠ .domain "" := by
  unfold Host.bracketed at ok
  split at ok
  · split at ok
    · cases ok
      exact nofun
    · cases ok
  · cases ok

/-- A host that could be read is not empty. -/
private theorem Host.parse_filled {host : Host} (ok : Host.parse cs = .ok host) : host ≠ .domain "" := by
  unfold Host.parse at ok
  split at ok
  · exact bracketed_filled ok
  · split at ok
    · cases ok
    · cases ok
    · next name filled _ =>
      split at ok
      · split at ok
        · cases ok
          exact nofun
        · cases ok
      · cases ok
        intro same
        exact ofList_ne_empty filled (Host.domain.inj same)

private theorem Host.parseBare_filled {host : Host} (filled : cs ≠ []) (ok : Host.parseBare cs = .ok host) :
    host ≠ .domain "" := by
  unfold Host.parseBare at ok
  split at ok
  · exact bracketed_filled ok
  · split at ok
    · cases ok
    · cases ok
      intro same
      exact ofList_ne_empty (encode_ne_nil filled) (Host.domain.inj same)

private theorem hasHost_of_filled {host : Host} (read : url.host = some host) (filled : host ≠ .domain "") :
    url.hasHost = true := by
  unfold hasHost
  rw [read]
  split
  · next none => cases none
  · next empty => exact absurd (Option.some.inj empty) filled
  · rfl

private theorem hasHost_withAuthority {scheme : String} (ok : withAuthority scheme cs = .ok url)
    (given : url.hasCredentials = true) : url.hasHost = true := by
  unfold withAuthority at ok
  extract_lets special authority rest encoded at ok
  generalize credentialsOf authority = parts at ok
  obtain ⟨name, password, address⟩ := parts
  obtain ⟨-, ok⟩ := of_throw ok
  obtain ⟨named, ok⟩ := of_throw ok
  obtain ⟨host, read, ok⟩ := of_either ok
  obtain ⟨-, ok⟩ := of_throw ok
  have front : SameFront url
      { scheme, username := encoded name, password := encoded password, host := some host
        path := .segments [] } := by
    split at ok
    all_goals
      obtain ⟨⟨port, behind⟩, -, ok⟩ := except_bind_ok.mp ok
      cases ok
      obtain ⟨username, password, host⟩ := sameFront_withRest _ _
      exact ⟨username, password, host⟩
  -- without a text for the host there was an error, since there are credentials in front of it
  have filled : address.take (hostLength false address) ≠ [] := by
    intro empty
    obtain ⟨-, rfl, rfl⟩ : special = false ∧ name = [] ∧ password = [] := by
      simpa [empty, and_assoc] using named
    rw [hasCredentials, front.username, front.password] at given
    cases given
  refine hasHost_of_filled front.host ?_
  split at read
  · exact Host.parse_filled read
  · exact Host.parseBare_filled filled read

private theorem sameFront_file (ok : file cs = .ok url) :
    ∃ host, SameFront url { scheme := "file", host, path := .segments [] } := by
  unfold file at ok
  extract_lets empty slash at ok
  split at ok
  · split at ok
    · extract_lets hostText behind at ok
      split at ok
      · cases ok
        exact ⟨_, sameFront_withRest empty _⟩
      · obtain ⟨host, -, ok⟩ := except_bind_ok.mp ok
        split at ok
        · cases ok
          exact ⟨_, sameFront_withRest empty _⟩
        · cases ok
          exact ⟨some host, sameFront_withRest { empty with host := some host } _⟩
    · cases ok
      exact ⟨_, sameFront_withRest empty _⟩
  · cases ok
    exact ⟨_, sameFront_withRest empty _⟩

/-- Credentials stand in front of a host. -/
theorem hasHost_of_hasCredentials (ok : parse text = .ok url) (given : url.hasCredentials = true) :
    url.hasHost = true := by
  have bare {scheme : String} {path : Path} {host : Option Host} {url : Url}
      (front : SameFront url { scheme, host, path }) (given : url.hasCredentials = true) :
      url.hasHost = true := by
    rw [front.bare] at given
    cases given
  unfold parse at ok
  split at ok
  · cases ok
  · split at ok
    · obtain ⟨host, front⟩ := sameFront_file ok
      exact bare front given
    · split at ok
      · exact hasHost_withAuthority ok given
      · split at ok
        · exact hasHost_withAuthority ok given
        · cases ok
          exact bare (sameFront_withRest _ _) given
        · cases ok
          exact bare (sameFront_withQueryAndFragment _ _) given

/-- The texts stand for the same URL, with some credentials or other. -/
def ReadAlike (text text' : String) : Prop :=
  ∃ url url', parse text = .ok url ∧ parse text' = .ok url' ∧ url.hasCredentials = true ∧
    url'.hasCredentials = true ∧ url.withoutCredentials = url'.withoutCredentials

/-- Whatever the credentials, a guard refuses the URL, and for the same reason. -/
theorem Guard.refusal?_of_readAlike (guard : Guard) (alike : ReadAlike text text') :
    ∃ refusal, guard.refusal? text = some refusal ∧ guard.refusal? text' = some refusal := by
  obtain ⟨url, url', read, read', given, given', same⟩ := alike
  have scheme : url.withoutCredentials.scheme = url'.withoutCredentials.scheme := congrArg Url.scheme same
  change url.scheme = url'.scheme at scheme
  unfold refusal?
  rw [read, read']
  dsimp only
  rw [given, given', scheme]
  by_cases other : url'.scheme ≠ "http" ∧ url'.scheme ≠ "https"
  · rw [if_pos other, if_pos other]
    exact ⟨_, rfl, rfl⟩
  · rw [if_neg other, if_neg other]
    exact ⟨_, rfl, rfl⟩

end Automation.Url
