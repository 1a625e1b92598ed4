import Automation.Duration
import Automation.Http.Basic
import Automation.Webhook.Auth

/-!
Webhooks: a request that a definition asks for.
-/
namespace Automation

/-- What is absent is left to the sender. -/
structure Webhook where
  url : String
  method : Http.Method
  headers : Json.Members
  body : Option Json.Value
  auth : Option Webhook.Auth
  timeout : Option Duration
  failOnError : Option Bool
  deriving DecidableEq

namespace Webhook

def Method.decode : Decode.Decoder Http.Method :=
  Decode.choice (Http.Method.all.map fun method => (method.name, method))

def record : Decode.Record Webhook :=
  Webhook.mk <$> .required "url" Decode.text <*> .withDefault "method" .post Method.decode <*>
    .withDefault "headers" [] Decode.members <*> .maybe "body" Decode.value <*>
    .maybe "auth" Auth.decode <*>
    (Option.map Duration.mk <$> .maybe "timeoutMs" Decode.nat64) <*>
    .maybe "failOnError" Decode.bool

def decode : Decode.Decoder Webhook := record.decodeStrict "struct WebhookConfig"

def encode (w : Webhook) : Json.Value :=
  .ofPresent [("url", some (.string w.url)), ("method", some (.string w.method.name)),
    ("headers", some (.object w.headers)), ("body", w.body), ("auth", w.auth.map (·.encode)),
    ("timeoutMs", w.timeout.map fun d => .ofNat d.milliseconds),
    ("failOnError", w.failOnError.map .bool)]

end Webhook
end Automation
