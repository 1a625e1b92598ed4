import Automation.Json.Value
import Automation.Text.Case
import Automation.Text.Split

/-!
Leaving secrets out of what is logged: values below keys that name a secret, texts that look like
one, and whatever is nested too deep to be looked at.
-/
namespace Automation.Redaction

/-- Stands where a secret was. -/
def placeholder : String := "[REDACTED]"

def redacted : Json.Value := .string placeholder

/-- Levels that are looked at. -/
def maxLevels : Nat := 20

/-- What gives away the key of a secret, in small letters and with underscores. -/
def keyFragments : List String :=
  ["password", "passwd", "secret", "token", "bearer", "api_key", "apikey", "authorization",
    "credential", "private_key", "client_secret", "session", "signature"]

/-- Headers that always carry credentials. -/
def credentialHeaders : List String :=
  ["authorization", "proxy-authorization", "cookie", "set-cookie", "x-api-key", "x-auth-token",
    "x-access-token"]

def isSecretKey (key : String) : Bool :=
  let name := Text.replaceChar '-' '_' (Text.lowerChars key.toList)
  keyFragments.any fun fragment => Text.contains name fragment.toList

/-- Three parts between points behind the start that every encoded object has. -/
def isSignedToken (text : String) : Bool :=
  "eyJ".toList.isPrefixOf text.toList && Text.count '.' text.toList == 2 &&
    50 < Text.utf8Size text

def isPrivateKey (text : String) : Bool :=
  Text.contains text.toList "-----BEGIN".toList &&
    Text.contains text.toList "PRIVATE KEY-----".toList

def isSecretText (text : String) : Bool :=
  let small := Text.lowerChars text.toList
  "bearer ".toList.isPrefixOf small || "basic ".toList.isPrefixOf small || isSignedToken text ||
    isPrivateKey text

mutual
/-- A value of which so many levels are looked at. -/
def redactWithin (levels : Nat) : Json.Value → Json.Value
  | .object members =>
    match levels with
    | 0 => redacted
    | levels + 1 => .object (redactMembers levels members)
  | .array items =>
    match levels with
    | 0 => redacted
    | levels + 1 => .array (redactItems levels items)
  | .string text => if levels = 0 ∨ isSecretText text then redacted else .string text
  | .null => if levels = 0 then redacted else .null
  | .bool b => if levels = 0 then redacted else .bool b
  | .number n => if levels = 0 then redacted else .number n
termination_by structural value => value

def redactItems (levels : Nat) : List Json.Value → List Json.Value
  | [] => []
  | item :: rest => redactWithin levels item :: redactItems levels rest
termination_by structural items => items

def redactMembers (levels : Nat) : List (String × Json.Value) → List (String × Json.Value)
  | [] => []
  | (key, value) :: rest =>
    (key, if isSecretKey key then redacted else redactWithin levels value) ::
      redactMembers levels rest
termination_by structural members => members
end

/-- The value without its secrets. -/
def redact (value : Json.Value) : Json.Value := redactWithin maxLevels value

def isSecretHeader (name value : String) : Bool :=
  credentialHeaders.contains (Text.lower name) || isSecretKey name || isSecretText value

/-- Headers without their secrets; of several with one name the last one counts. -/
def redactHeaders (headers : List (String × String)) : Json.Members :=
  Json.Members.ofList (headers.map fun (name, value) =>
    (name, if isSecretHeader name value then redacted else .string value))

end Automation.Redaction
