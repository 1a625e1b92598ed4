import Automation.Json.Parser
import Automation.Program
import Automation.Redaction
import Automation.Url.Guard
import Automation.Webhook.Request

/-!
Sending webhooks. Each attempt leaves a log without secrets, also one that was refused.
-/
namespace Automation.Webhook

/-- An answer of the peer, which need not tell of success. -/
structure Response where
  status : Nat
  body : Json.Value
  duration : Duration
  deriving DecidableEq

namespace Response

def ok (r : Response) : Bool := Http.isSuccess r.status

def encode (r : Response) : Json.Value :=
  .ofPairs [("statusCode", .ofNat r.status), ("ok", .bool r.ok), ("body", r.body),
    ("durationMs", .ofNat r.duration.milliseconds)]

end Response

structure Log where
  url : String
  method : Http.Method
  headers : Json.Members
  body : Option Json.Value
  status : Option Nat
  duration : Duration
  success : Bool
  error : Option String
  deriving DecidableEq

namespace Log

def encode (log : Log) : Json.Value :=
  .ofPresent [("url", some (.string log.url)), ("method", some (.string log.method.name)),
    ("requestHeaders", some (.object log.headers)), ("requestBody", log.body),
    ("statusCode", log.status.map .ofNat), ("durationMs", some (.ofNat log.duration.milliseconds)),
    ("success", some (.bool log.success)), ("error", log.error.map .string)]

end Log

/-- What is known of an attempt when it ends. -/
structure Attempt where
  credentialHeader : Option String := none
  status : Option Nat := none
  outcome : Except StepError Response

structure Delivery where
  log : Log
  outcome : Except StepError Response

/-- No request may take longer than `maxTimeout`. -/
structure Sender where
  judge : String → Url.Verdict
  secrets : Secrets
  maxTimeout : Duration
  failOnError : Bool

namespace Sender

def defaultRefusal : String := "SSRF protection: URL rejected"

def deadline (s : Sender) (w : Webhook) : Duration :=
  match w.timeout with
  | some t => min t s.maxTimeout
  | none => s.maxTimeout

/-- A body that is no JSON is a text, and a blank one is nothing. -/
def readBody (text : String) : Json.Value :=
  if Text.trim text = "" then .null else (Json.parse? text).getD (.string text)

def unreachable (url : Url) : StepError :=
  .externalCall ("error sending request for url (" ++ url.toText ++ ")")

def timedOut (deadline : Duration) : StepError :=
  .externalCall ("Webhook timed out after " ++ toString deadline.milliseconds ++ "ms")

/-- What a response means for the sender. -/
def outcome (s : Sender) (w : Webhook) (response : Response) : Except StepError Response :=
  if !response.ok && w.failOnError.getD s.failOnError then
    .error (.externalCall ("Webhook returned HTTP " ++ toString response.status))
  else .ok response

/-- Sends a request that could be built. -/
def exchange (s : Sender) (w : Webhook) (header : Option String) (request : Http.Request) :
    Program Attempt := do
  let started ← Program.now
  match ← Program.exchange request (s.deadline w) with
  | .expired => return ⟨header, none, .error (timedOut (s.deadline w))⟩
  | .unreachable => return ⟨header, none, .error (unreachable request.url)⟩
  | .response status body =>
    let ended ← Program.now
    let response : Response := ⟨status, readBody body, started.elapsed ended⟩
    return ⟨header, some status, s.outcome w response⟩

/-- Checks the URL, looks the secrets up and sends the request, in this order. -/
def attempt (s : Sender) (w : Webhook) : Program Attempt :=
  match s.judge w.url with
  | .refused reason =>
    return { outcome := .error (.validation (reason.getD defaultRefusal)) }
  | .allowed => match (w.auth.getD .none).resolve s.secrets with
    | .error e => return { outcome := .error e }
    | .ok credentials => match w.request credentials with
      | .error e =>
        return {
          credentialHeader := credentials.header?
          outcome := .error (.externalCall e.message) }
      | .ok request => s.exchange w credentials.header? request

/-- The headers of a log; the one with the credentials is in it in any case. -/
def loggedHeaders (w : Webhook) (credentialHeader : Option String) : Json.Members :=
  let headers := Redaction.redactHeaders w.headerTexts
  match credentialHeader with
  | some name => headers.insert name Redaction.redacted
  | none => headers

/-- The log of an attempt that took so long. -/
def log (w : Webhook) (duration : Duration) (attempt : Attempt) : Log where
  url := w.url
  method := w.method
  headers := loggedHeaders w attempt.credentialHeader
  body := w.body.map Redaction.redact
  status := attempt.status
  duration := duration
  success := match attempt.outcome with
    | .ok response => response.ok
    | .error _ => false
  error := match attempt.outcome with
    | .ok _ => none
    | .error e => some e.message

def send (s : Sender) (w : Webhook) : Program Delivery := do
  let started ← Program.now
  let attempt ← s.attempt w
  let ended ← Program.now
  return ⟨log w (started.elapsed ended) attempt, attempt.outcome⟩

end Sender
end Automation.Webhook
