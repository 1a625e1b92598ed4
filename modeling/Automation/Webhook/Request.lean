import Automation.Http.Basic
import Automation.Json.View
import Automation.Url.Parser
import Automation.Webhook.Basic

/-!
The request that a webhook is sent as.
-/
namespace Automation.Webhook

def basicValue (username password : String) : String :=
  "Basic " ++ Http.Base64.encodeText (username ++ ":" ++ password)

def Credentials.headers : Credentials → List (String × String)
  | none => []
  | bearer token => [("Authorization", "Bearer " ++ token)]
  | basic username password => [("Authorization", basicValue username password)]
  | apiKey header value => [(header, value)]

/-- Headers as they are sent. -/
def headerTexts (w : Webhook) : List (String × String) :=
  w.headers.map fun (name, value) => (name, value.toText)

private def decoded (text : String) : String :=
  ((Url.Percent.ofBytes? (Url.Percent.decode text.toList)).map String.ofList).getD text

/-- Credentials of a URL travel in a header instead. -/
def urlHeaders (url : Url) : List (String × String) :=
  if url.hasCredentials then
    [("Authorization", basicValue (decoded url.username) (decoded url.password))]
  else []

/-- A text is the body itself; any other value is sent as JSON. -/
def bodyText : Json.Value → String
  | .string text => text
  | value => value.compact

/-- What the body asks for where no header says it. -/
def bodyHeaders (w : Webhook) : List (String × String) :=
  match w.body with
  | none | some (.string _) => []
  | some _ =>
    if w.headers.any fun header => header.1.toLower == "content-type" then []
    else [("Content-Type", "application/json")]

private def isHostChar (c : Char) : Bool := !(['"', '\x60', '\x7b', '\x7d'].contains c)

/-- Only hosts can be asked, and only over HTTP. -/
def isSuitable (url : Url) : Bool :=
  url.hasHost && (url.scheme == "http" || url.scheme == "https") &&
    match url.host with
    | some (.domain name) => name.toList.all isHostChar
    | _ => true

/-- The whole request, if it can be sent. -/
def request (w : Webhook) (credentials : Credentials) : Except Http.BuildError Http.Request :=
  match Url.parse w.url with
  | .error _ => .error .malformed
  | .ok url =>
    let target := url.withoutCredentials
    if !url.hasHost then .error (.unsuitable url)
    else
      let headers := urlHeaders url ++ w.headerTexts ++ w.bodyHeaders ++ credentials.headers
      if headers.all fun (name, value) => Http.isHeaderName name && Http.isHeaderValue value then
        if isSuitable target then
          .ok ⟨w.method, target, headers, w.body.map bodyText⟩
        else .error (.unsuitable target)
      else .error .malformed

end Automation.Webhook
