import Automation.Proofs.Engine.DeliveryLogs
import Automation.Proofs.Url.Credentials
import Automation.Proofs.Webhook.Twins

/-!
Credentials in the URL of a webhook. The log has the URL as it was given, and with it the credentials, also
when it was refused for having them. Nothing else in the log depends on what they are.
-/
namespace Automation

open Json (Members)

namespace Http

/-- The requests are the same but for the value of the header that comes first and says who asks. -/
def Request.AskAlike (request request' : Request) : Prop :=
  ∃ headers value value', request.headers = ("Authorization", value) :: headers ∧
    request' = { request with headers := ("Authorization", value') :: headers }

end Http

/-- Peers make nothing of who asks. -/
def Program.Environment.Discreet {σ : Type} (environment : Environment σ) : Prop :=
  ∀ request request' deadline s, request.AskAlike request' →
    environment (.exchange request deadline) s = environment (.exchange request' deadline) s

namespace Webhook

variable {w : Webhook} {text' : String}

/-- The headers that do not come from the URL. -/
private def otherHeaders (w : Webhook) (credentials : Credentials) : List (String × String) :=
  w.headerTexts ++ w.bodyHeaders ++ credentials.headers

/-- Credentials of a URL go into the first header, and nowhere else. -/
private theorem request_of_hasCredentials {url : Url} (read : Url.parse w.url = .ok url)
    (given : url.hasCredentials = true) (credentials : Credentials) :
    ∃ value, w.request credentials =
      if (w.otherHeaders credentials).all fun (name, value) => Http.isHeaderName name && Http.isHeaderValue value then
        if isSuitable url.withoutCredentials then
          .ok ⟨w.method, url.withoutCredentials, ("Authorization", value) :: w.otherHeaders credentials,
            w.body.map bodyText⟩
        else .error (.unsuitable url.withoutCredentials)
      else .error .malformed := by
  have named : Http.isHeaderName "Authorization" = true := by decide
  have hosted := Url.hasHost_of_hasCredentials read given
  unfold request
  rw [read]
  dsimp only
  rw [hosted, urlHeaders, given, if_pos rfl]
  generalize decoded : basicValue _ _ = value
  have valid : Http.isHeaderValue value = true := by
    rw [← decoded]
    exact isHeaderValue_basicValue _ _
  refine ⟨value, ?_⟩
  simp only [List.cons_append, List.nil_append, List.all_cons, named, valid, Bool.and_true, Bool.true_and]
  rfl

/-- URLs that differ in their credentials make for requests that do in a header. -/
theorem request_readAlike (alike : Url.ReadAlike w.url text') (credentials : Credentials) :
    Paired Http.Request.AskAlike (w.request credentials) ({ w with url := text' }.request credentials) := by
  obtain ⟨url, url', read, read', given, given', target⟩ := alike
  obtain ⟨value, sent⟩ := request_of_hasCredentials read given credentials
  obtain ⟨value', sent'⟩ := request_of_hasCredentials (w := { w with url := text' }) read' given' credentials
  have others : { w with url := text' }.otherHeaders credentials = w.otherHeaders credentials := rfl
  rw [sent, sent', others, target]
  split
  · split
    · exact .given ⟨_, value, value', rfl, rfl⟩
    · exact .failed _
  · exact .failed _

namespace Sender

variable {σ : Type} {s : Sender} {environment : Program.Environment σ}

private theorem exchange_readAlike (header : Option String) {request request' : Http.Request}
    (alike : request.AskAlike request') (discreet : environment.Discreet) (t : σ) :
    (s.exchange w header request).run environment t =
      (s.exchange { w with url := text' } header request').run environment t := by
  have concluded (url : Url) (started : Time.Instant) :
      s.conclude { w with url := text' } header url started = s.conclude w header url started := by
    funext reply
    cases reply <;> rfl
  have urls : request'.url = request.url := by
    obtain ⟨headers, value, value', -, rfl⟩ := alike
    rfl
  rw [exchange_eq_ask, exchange_eq_ask, urls]
  simp only [Program.run, concluded]
  rw [discreet request request' (s.deadline w) _ alike]
  rfl

/-- What is tried is the same for both URLs, where the verdict on them is. -/
private theorem attempt_readAlike (alike : Url.ReadAlike w.url text') (judged : s.judge w.url = s.judge text')
    (discreet : s.judge w.url = .allowed → environment.Discreet) (t : σ) :
    (s.attempt w).run environment t = (s.attempt { w with url := text' }).run environment t := by
  unfold attempt
  dsimp only
  rw [← judged]
  cases verdict : s.judge w.url with
  | refused reason => rfl
  | allowed =>
    dsimp only
    cases (w.auth.getD .none).resolve s.secrets with
    | error e => rfl
    | ok credentials =>
      have requests := request_readAlike alike credentials
      dsimp only
      generalize w.request credentials = request at requests
      generalize { w with url := text' }.request credentials = request' at requests
      cases requests with
      | failed e => rfl
      | given same => exact exchange_readAlike credentials.header? same (discreet verdict) t

/-- The log has the URL as it was given, whatever becomes of the webhook. -/
theorem url_log (s : Sender) (w : Webhook) (environment : Program.Environment σ) (t : σ) :
    ((s.send w).run environment t).1.log.url = w.url := by
  unfold send
  rw [Program.run_bind, Program.run_bind, Program.run_bind]
  rfl

/-- What is delivered to URLs that differ in their credentials is logged alike but for the URL. -/
theorem send_readAlike (alike : Url.ReadAlike w.url text') (judged : s.judge w.url = s.judge text')
    (discreet : s.judge w.url = .allowed → environment.Discreet) (t : σ) :
    let sent := (s.send w).run environment t
    let sent' := (s.send { w with url := text' }).run environment t
    { sent.1.log with url := text' } = sent'.1.log ∧ sent.1.outcome = sent'.1.outcome ∧ sent.2 = sent'.2 := by
  unfold send
  rw [Program.run_bind, Program.run_bind, Program.run_bind, Program.run_bind, Program.run_bind,
    Program.run_bind, attempt_readAlike alike judged discreet]
  exact ⟨rfl, rfl, rfl⟩

end Sender

/-- Logs that differ in their URL have the same under all other keys. -/
theorem Log.member?_withUrl {key : String} (log : Log) (text : String) (apart : "url" ≠ key) :
    log.encode.member? key = { log with url := text }.encode.member? key := by
  have other : (key == "url") = false := beq_eq_false_iff_ne.mpr apart.symm
  rw [member?_encode, member?_encode]
  simp only [members, List.lookup_cons, other]

end Webhook

namespace Engine

/-- A webhook has its URL in the log as it was given, with the credentials that are in it, and so it is
stored, even if the URL is refused for them as every guard does. All else that is logged and stored of it is
the same for any other credentials, if the verdict on the URL is and, where it is allowed, peers make nothing
of who asks. -/
theorem urlCredentials_logged {σ : Type} (environment : Program.Environment σ) {w : Webhook} {text' : String}
    (alike : Url.ReadAlike w.url text') :
    (∀ (s : Webhook.Sender) (t : σ), ((s.send w).run environment t).1.log.url = w.url) ∧
    (∀ (s : Webhook.Sender) (t : σ), s.judge w.url = s.judge text' →
      (s.judge w.url = .allowed → environment.Discreet) →
      let sent := (s.send w).run environment t
      let sent' := (s.send { w with url := text' }).run environment t
      { sent.1.log with url := text' } = sent'.1.log ∧ sent.1.outcome = sent'.1.outcome ∧ sent.2 = sent'.2) ∧
    (∀ guard : Url.Guard, ∃ reason, guard.judge w.url = .refused (some reason) ∧
      guard.judge text' = .refused (some reason)) ∧
    ∀ (engine : Engine) (step step' : Step) (ctx : Context) (t : σ), step'.id = step.id →
      Command.parse step.type step.id (Template.resolve ctx step.config) = .ok (.primitive (.sendWebhook w)) →
      Command.parse step'.type step'.id (Template.resolve ctx step'.config) =
        .ok (.primitive (.sendWebhook { w with url := text' })) →
      ∃ fields fields', handedLogs ((engine.runStep step ctx).asked environment t) = [fields] ∧
        handedLogs ((engine.runStep step' ctx).asked environment t) = [fields'] ∧
        fields.get? "url" = some (.string w.url) ∧ fields'.get? "url" = some (.string text') ∧
        (engine.judge w.url = engine.judge text' → (engine.judge w.url = .allowed → environment.Discreet) →
          fields.erase "url" = fields'.erase "url") := by
  refine ⟨?_, ?_, ?_, ?_⟩
  · intro s t
    exact s.url_log w environment t
  · intro s t judged discreet
    exact Webhook.Sender.send_readAlike alike judged discreet t
  · intro guard
    obtain ⟨refusal, refused, refused'⟩ := guard.refusal?_of_readAlike alike
    refine ⟨refusal.message, ?_, ?_⟩
    · rw [Url.Guard.judge, refused]
    · rw [Url.Guard.judge, refused']
  · intro engine step step' ctx t id parsed parsed'
    obtain ⟨fields, stored, -, handed, -⟩ := primitiveOutcome_handsLog engine environment ctx step.id w t
    obtain ⟨fields', stored', -, handed', -⟩ :=
      primitiveOutcome_handsLog engine environment ctx step.id { w with url := text' } t
    rw [runStep_primitive parsed, runStep_primitive parsed', id]
    refine ⟨fields, fields', handed, handed', ?_, ?_, fun judged discreet => ?_⟩
    · rw [get?_url_loggedFields stored, engine.sender.url_log]
    · rw [get?_url_loggedFields stored', engine.sender.url_log]
    · obtain ⟨logs, -, -⟩ := Webhook.Sender.send_readAlike (s := engine.sender) alike judged discreet t
      rw [← logs] at stored'
      exact erase_loggedFields (fun key apart => Webhook.Log.member?_withUrl _ _ apart) stored stored'

section

/-- A webhook to a public address, by a user with the password. -/
private def byUser (password : String) : Webhook :=
  ⟨"https://user:" ++ password ++ "@[2606:4700::1111]/hook", .post, [], none, none, none, none⟩

private theorem readAlike_byUser : Url.ReadAlike (byUser "hunter2").url (byUser "swordfish").url :=
  ⟨_, _, rfl, rfl, by decide +kernel, by decide +kernel, by decide +kernel⟩

/-- Welcomes everybody. -/
private def welcoming : Program.Environment (MemoryStore × Unit) :=
  Program.Environment.facing Surroundings.still.environment fun _ _ => .answers ⟨10⟩ 200 ""

/-- The webhook is sent and answered, and the log does not tell the one user from the other but by the URL. -/
theorem urlCredentials_logged_welcomed :
    let s : Webhook.Sender := ⟨fun _ => .allowed, fun _ => none, ⟨30000⟩, true⟩
    let log (password : String) := ((s.send (byUser password)).run welcoming ({}, ())).1.log
    (log "hunter2").status = some 200 ∧ (log "hunter2").url = "https://user:hunter2@[2606:4700::1111]/hook" ∧
    { log "hunter2" with url := (byUser "swordfish").url } = log "swordfish" := by
  intro s log
  have discreet : welcoming.Discreet := fun _ _ _ _ _ => rfl
  obtain ⟨kept, logged, -⟩ := urlCredentials_logged welcoming readAlike_byUser
  exact ⟨by decide +kernel, kept s ({}, ()), (logged s ({}, ()) rfl fun _ => discreet).1⟩

/-- The guard refuses the URL for its password, which stands in the log and in the stored one all the same. -/
theorem urlPassword_logged :
    let engine := { bareEngine with judge := Url.Guard.judge {} }
    let log := ((engine.sender.send (byUser "hunter2")).run Surroundings.still.environment ({}, ())).1.log
    let step : Step :=
      ⟨"hook", .sendWebhook, none, .ofPairs [("url", .string (byUser "hunter2").url)], [], [], []⟩
    let ran := (engine.runStep step (.initial "w" none none none)).run Surroundings.still.environment ({}, ())
    (Url.parse (byUser "hunter2").url).toOption.map (·.password) = some "hunter2" ∧
    log.error = some "Validation error: SSRF protection: credentials in URL are not allowed" ∧
    Text.contains log.url.toList "hunter2".toList = true ∧
    ran.2.1.webhookLogs.map (·.get? "url") = [some (.string "https://user:hunter2@[2606:4700::1111]/hook")] := by
  decide +kernel

end

end Engine
end Automation
