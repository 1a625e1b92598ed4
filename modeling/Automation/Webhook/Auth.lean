import Automation.Decode.Record
import Automation.Step.Error

/-!
How a webhook proves who sends it. Definitions name their secrets and never hold them.
-/
namespace Automation.Webhook

inductive Auth where
  | none
  | bearer (tokenEnv : String)
  | basic (usernameEnv passwordEnv : String)
  | apiKey (headerName valueEnv : String)
  deriving DecidableEq

/-- Looks a secret up by its name. -/
abbrev Secrets := String → Option String

/-- Variables of an environment as secrets; an empty one counts as unset. -/
def Secrets.ofEnvironment (env : List (String × String)) : Secrets := fun name =>
  (env.lookup name).filter (!·.isEmpty)

def Secrets.ofList (secrets : List (String × String)) : Secrets := fun name => secrets.lookup name

inductive Credentials where
  | none
  | bearer (token : String)
  | basic (username password : String)
  | apiKey (header value : String)
  deriving DecidableEq

namespace Credentials

/-- The header that carries the credentials. -/
def header? : Credentials → Option String
  | none => .none
  | bearer _ | basic _ _ => some "Authorization"
  | apiKey header _ => some header

/-- A description that gives no secret away. -/
def toText : Credentials → String
  | none => "None"
  | bearer _ => "Bearer([REDACTED])"
  | basic username _ => "Basic(" ++ username ++ ", [REDACTED])"
  | apiKey header _ => "ApiKey(" ++ header ++ ", [REDACTED])"

end Credentials

namespace Auth

/-- Where an API key goes unless a header is named. -/
def defaultHeader : String := "X-API-Key"

def names : List String := ["none", "bearer", "basic", "apiKey"]

def encode : Auth → Json.Value
  | none => .ofPairs [("type", .string "none")]
  | bearer tokenEnv => .ofPairs [("type", .string "bearer"), ("tokenEnv", .string tokenEnv)]
  | basic usernameEnv passwordEnv =>
    .ofPairs [("type", .string "basic"), ("usernameEnv", .string usernameEnv),
      ("passwordEnv", .string passwordEnv)]
  | apiKey headerName valueEnv =>
    .ofPairs [("type", .string "apiKey"), ("headerName", .string headerName),
      ("valueEnv", .string valueEnv)]

open Decode

private def kind : String := "internally tagged enum WebhookAuth"

private def bearerFields : Record Auth := bearer <$> .required "tokenEnv" text

private def basicFields : Record Auth :=
  basic <$> .required "usernameEnv" text <*> .required "passwordEnv" text

private def apiKeyFields : Record Auth :=
  apiKey <$> .withDefault "headerName" defaultHeader text <*> .required "valueEnv" text

private def plural (n : Nat) : String := toString n ++ if n = 1 then " element" else " elements"

/-- The name of the kind of authentication. -/
private def tag : Decoder String := located fun
  | .text s | .plain s => .ok s
  | tree => unexpected "variant identifier" tree

private def isTag (entry : Tree × Tree) : Bool := entry.1.keyText? == some "type"

/-- The rest behind the tag is a list of the fields of the kind. -/
private def ofList (items : List Tree) (variant : String) (record : Record Auth) :
    Except Error Auth := do
  let count := record.fields.length
  let expected := "struct variant WebhookAuth::" ++ variant ++ " with " ++ plural count
  let (auth, rest) ← record.ofItems expected 0 items
  if rest.isEmpty then return auth
  else fail (.invalidLength items.length (plural count ++ " in sequence"))

/-- The fields of the kind of authentication that the tag names. -/
private def ofTag (fields : String → Record Auth → Except Error Auth)
    (bare : Except Error Auth) : String → Except Error Auth
  | "none" => bare
  | "bearer" => fields "Bearer" bearerFields
  | "basic" => fields "Basic" basicFields
  | "apiKey" => fields "ApiKey" apiKeyFields
  | name => fail (.unknownVariant name names)

/-- The tag stands in a field of its own, or in front of a list. -/
def decode : Decoder Auth := located fun
  | .mapping origin entries => do
    match entries.find? isTag with
    | .none => fail (.missingField "type")
    | some (_, tree) =>
      let rest := Tree.mapping origin (entries.filter (!isTag ·))
      let fields (variant : String) (record : Record Auth) : Except Error Auth :=
        record.decode ("struct variant WebhookAuth::" ++ variant) rest
      ofTag fields (.ok none) (← tag tree)
  | .sequence _ trees => do
    match trees with
    | [] => fail (.missingField "type")
    | tree :: items =>
      let bare : Except Error Auth :=
        if items.isEmpty then .ok none
        else fail (.invalidLength items.length (plural 0 ++ " in sequence"))
      ofTag (ofList items) bare (← tag tree)
  | tree => unexpected kind tree

/-- The secret of a name. -/
def secret (secrets : Secrets) (name : String) : Except StepError String :=
  match secrets name with
  | some value => .ok value
  | .none => .error (.validation ("Environment variable '" ++ name ++ "' is not set"))

/-- Looks up all secrets that are named. -/
def resolve (secrets : Secrets) : Auth → Except StepError Credentials
  | none => .ok .none
  | bearer tokenEnv => .bearer <$> secret secrets tokenEnv
  | basic usernameEnv passwordEnv =>
    .basic <$> secret secrets usernameEnv <*> secret secrets passwordEnv
  | apiKey headerName valueEnv => .apiKey headerName <$> secret secrets valueEnv

end Auth
end Automation.Webhook
