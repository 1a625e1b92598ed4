import Automation.Url.Host

/-!
URLs in their parts, and their normal form as text.
-/
namespace Automation

namespace Url

/-- Segments behind slashes, or a text that does not begin with a slash. -/
inductive Path where
  | segments (list : List String)
  | rootless (text : String)
  deriving DecidableEq

end Url

/-- An empty domain stands for an authority without host. -/
structure Url where
  scheme : String
  username : String := ""
  password : String := ""
  host : Option Url.Host := none
  port : Option Nat := none
  path : Url.Path
  query : Option String := none
  fragment : Option String := none
  deriving DecidableEq

namespace Url

/-- Ports of the special schemes; files have none. -/
def defaultPort? : String → Option Nat
  | "http" | "ws" => some 80
  | "https" | "wss" => some 443
  | "ftp" => some 21
  | _ => none

def isSpecial (scheme : String) : Bool := (defaultPort? scheme).isSome || scheme == "file"

def hasHost (url : Url) : Bool :=
  match url.host with
  | none | some (.domain "") => false
  | some _ => true

def hasCredentials (url : Url) : Bool := url.username != "" || url.password != ""

def withoutCredentials (url : Url) : Url := { url with username := "", password := "" }

private def authority (url : Url) (host : Host) : String :=
  let credentials :=
    if !url.hasCredentials then ""
    else if url.password = "" then url.username ++ "@"
    else url.username ++ ":" ++ url.password ++ "@"
  let port := match url.port with
    | some n => ":" ++ toString n
    | none => ""
  "//" ++ credentials ++ host.toText ++ port

/-- Without an authority a path must not look like one. -/
private def front (url : Url) : String :=
  match url.host with
  | some host => url.authority host
  | none => match url.path with
    | .segments ("" :: _ :: _) => "/."
    | _ => ""

def Path.toText : Path → String
  | segments list => String.join (list.map ("/" ++ ·))
  | rootless text => text

private def optional (mark : String) : Option String → String
  | some text => mark ++ text
  | none => ""

def toText (url : Url) : String :=
  url.scheme ++ ":" ++ url.front ++ url.path.toText ++ optional "?" url.query ++
    optional "#" url.fragment

end Url
end Automation
