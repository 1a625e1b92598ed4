import Automation.Proofs.Program.Correspondence
import Automation.Webhook.Delivery

/-!
What becomes of a webhook when its secrets have other values. As far as they may stand in headers at all,
the request differs in the value of one header, and what is said when it cannot be sent does not differ.
-/
namespace Automation

namespace Http

theorem isHeaderValue_append (text more : String) :
    isHeaderValue (text ++ more) = (isHeaderValue text && isHeaderValue more) := by
  simp [isHeaderValue, List.all_append]

/-- The requests are the same but for the value of their last header. -/
def Request.Twins (request request' : Request) : Prop :=
  request = request' ∨ ∃ headers name value value',
    request.headers = headers ++ [(name, value)] ∧
      request' = { request with headers := headers ++ [(name, value')] }

theorem Request.Twins.url {request request' : Request} (h : request.Twins request') :
    request.url = request'.url := by
  rcases h with rfl | ⟨headers, name, value, value', -, rfl⟩
  · rfl
  · rfl

namespace Base64

/-- What base 64 consists of may stand in the value of a header. -/
private theorem printable_digit (n : Nat) : 32 ≤ (digit n).toNat ∧ (digit n).toNat ≠ 127 := by
  have small : ∀ k : Fin 64, 32 ≤ (digit k).toNat ∧ (digit k).toNat ≠ 127 := by decide
  have same : digit (n % 64) = digit n := by simp [digit]
  rw [← same]
  exact small ⟨n % 64, Nat.mod_lt n (by decide)⟩

private theorem printable_encode (bytes : List UInt8) :
    ∀ c ∈ encode bytes, 32 ≤ c.toNat ∧ c.toNat ≠ 127 := by
  have filler : 32 ≤ '='.toNat ∧ '='.toNat ≠ 127 := by decide
  induction bytes using encode.induct with
  | case1 => exact nofun
  | case2 a =>
    simp only [encode, List.forall_mem_cons]
    exact ⟨printable_digit _, printable_digit _, filler, filler, nofun⟩
  | case3 a b =>
    simp only [encode, List.forall_mem_cons]
    exact ⟨printable_digit _, printable_digit _, printable_digit _, filler, nofun⟩
  | case4 a b c rest ih =>
    simp only [encode, List.forall_mem_cons]
    exact ⟨printable_digit _, printable_digit _, printable_digit _, printable_digit _, ih⟩

theorem isHeaderValue_encodeText (text : String) : isHeaderValue (encodeText text) = true := by
  rw [isHeaderValue, encodeText, String.toList_ofList, List.all_eq_true]
  intro c known
  obtain ⟨low, high⟩ := printable_encode _ c known
  simp [low, high]

end Base64
end Http

namespace Webhook

/-- Secrets that have the same names and whose values may stand in headers. -/
structure Secrets.Interchangeable (first second : Secrets) : Prop where
  names : ∀ name, (first name).isSome = (second name).isSome
  first : ∀ name, ∀ value ∈ first name, Http.isHeaderValue value = true
  second : ∀ name, ∀ value ∈ second name, Http.isHeaderValue value = true

/-- Credentials that travel in the same header and may do so. -/
inductive Credentials.Twins : Credentials → Credentials → Prop
  | none : Twins .none .none
  | header {c c' : Credentials} {name value value' : String} (sent : c.headers = [(name, value)])
      (sent' : c'.headers = [(name, value')]) (valid : Http.isHeaderValue value = true)
      (valid' : Http.isHeaderValue value' = true) (told : c.header? = c'.header?) : Twins c c'

theorem Credentials.Twins.header? {c c' : Credentials} (h : c.Twins c') : c.header? = c'.header? := by
  cases h with
  | none => rfl
  | header _ _ _ _ told => exact told

variable {first second : Secrets}

/-- May stand in the value of a header, both of them. -/
private abbrev Valid (value value' : String) : Prop :=
  Http.isHeaderValue value = true ∧ Http.isHeaderValue value' = true

private theorem secret_twins (same : first.Interchangeable second) (name : String) :
    Paired Valid (Auth.secret first name) (Auth.secret second name) := by
  have names := same.names name
  unfold Auth.secret
  cases found : first name with
  | none =>
    have absent : second name = none := by simpa [found] using names.symm
    rw [absent]
    exact .failed _
  | some value =>
    rw [found] at names
    obtain ⟨value', found'⟩ := Option.isSome_iff_exists.mp names.symm
    rw [found']
    exact .given ⟨same.first name value found, same.second name value' found'⟩

private theorem twins_bearer {token token' : String} (valid : Valid token token') :
    Credentials.Twins (.bearer token) (.bearer token') := by
  refine .header rfl rfl ?_ ?_ rfl
  · rw [Http.isHeaderValue_append, valid.1]
    decide
  · rw [Http.isHeaderValue_append, valid.2]
    decide

/-- Whatever they are, a name and a password travel encoded. -/
theorem isHeaderValue_basicValue (username password : String) :
    Http.isHeaderValue (basicValue username password) = true := by
  have start : Http.isHeaderValue "Basic " = true := by decide
  rw [basicValue, Http.isHeaderValue_append, start, Http.Base64.isHeaderValue_encodeText]
  rfl

private theorem twins_basic (username username' password password' : String) :
    Credentials.Twins (.basic username password) (.basic username' password') :=
  .header rfl rfl (isHeaderValue_basicValue _ _) (isHeaderValue_basicValue _ _) rfl

theorem resolve_twins (same : first.Interchangeable second) (auth : Auth) :
    Paired Credentials.Twins (auth.resolve first) (auth.resolve second) := by
  cases auth with
  | none => exact .given .none
  | bearer tokenEnv => exact (secret_twins same tokenEnv).map fun _ _ => twins_bearer
  | basic usernameEnv passwordEnv =>
    have names : Paired (fun give give' => ∀ password password',
          Credentials.Twins (give password) (give' password'))
        (Credentials.basic <$> Auth.secret first usernameEnv)
        (Credentials.basic <$> Auth.secret second usernameEnv) :=
      (secret_twins same usernameEnv).map fun username username' _ => twins_basic username username'
    exact names.seq (secret_twins same passwordEnv) fun _ _ _ _ basic _ => basic _ _
  | apiKey headerName valueEnv =>
    exact (secret_twins same valueEnv).map fun _ _ valid => .header rfl rfl valid.1 valid.2 rfl

theorem request_twins (w : Webhook) {c c' : Credentials} (h : c.Twins c') :
    Paired Http.Request.Twins (w.request c) (w.request c') := by
  have same (result : Except Http.BuildError Http.Request) : Paired Http.Request.Twins result result := by
    cases result with
    | error e => exact .failed e
    | ok request => exact .given (.inl rfl)
  cases h with
  | none => exact same _
  | header sent sent' valid valid' told =>
    unfold request
    cases Url.parse w.url with
    | error e => exact .failed _
    | ok url =>
      dsimp only
      rw [sent, sent']
      generalize urlHeaders url ++ w.headerTexts ++ w.bodyHeaders = headers
      by_cases hosted : (!url.hasHost) = true
      · rw [if_pos hosted, if_pos hosted]
        exact .failed _
      · rw [if_neg hosted, if_neg hosted]
        simp only [List.all_append, List.all_cons, List.all_nil, valid, valid']
        split
        · split
          · exact .given (.inr ⟨headers, _, _, _, rfl, rfl⟩)
          · exact .failed _
        · exact .failed _

/-- The response but for the time it took. -/
def Response.untimed (r : Response) : Response := { r with duration := ⟨0⟩ }

/-- The attempt but for the time it took. -/
def Attempt.untimed (a : Attempt) : Attempt := { a with outcome := a.outcome.map (·.untimed) }

/-- The log but for the time that the attempt took. -/
def Log.untimed (log : Log) : Log := { log with duration := ⟨0⟩ }

/-- The log and what came of the attempt, but for the time it took. -/
def Delivery.untimed (d : Delivery) : Delivery := ⟨d.log.untimed, d.outcome.map (·.untimed)⟩

namespace Sender

theorem outcome_untimed (s : Sender) (w : Webhook) {response response' : Response}
    (same : response.untimed = response'.untimed) :
    (s.outcome w response).map (·.untimed) = (s.outcome w response').map (·.untimed) := by
  obtain ⟨status, body, duration⟩ := response
  obtain ⟨status', body', duration'⟩ := response'
  injection same with status body
  subst status body
  unfold outcome Response.ok
  dsimp only
  split
  · rfl
  · rfl

/-- What is logged of attempts tells no more of them than what came of them. -/
theorem log_untimed (w : Webhook) (duration duration' : Duration) {attempt attempt' : Attempt}
    (same : attempt.untimed = attempt'.untimed) :
    (log w duration attempt).untimed = (log w duration' attempt').untimed := by
  obtain ⟨header, status, outcome⟩ := attempt
  obtain ⟨header', status', outcome'⟩ := attempt'
  injection same with headers statuses outcomes
  dsimp only at headers statuses outcomes
  subst headers statuses
  cases outcome with
  | error e =>
    cases outcome' with
    | error e' =>
      cases outcomes
      rfl
    | ok response' => cases outcomes
  | ok response =>
    cases outcome' with
    | error e' => cases outcomes
    | ok response' =>
      injection outcomes with responses
      have status := congrArg Response.status responses
      have ok : response.ok = response'.ok := congrArg Http.isSuccess status
      simp only [log, Log.untimed, ok]

end Sender
end Webhook
end Automation
