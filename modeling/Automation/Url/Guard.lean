import Automation.Text.Blank
import Automation.Text.Case
import Automation.Url.Parser

/-!
Which URLs may be called: those of public hosts, over HTTP, without credentials. Names are taken as
they stand and are not resolved.
-/
namespace Automation.Url

namespace Ipv4

def unspecified : Ipv4 := ⟨0, 0, 0, 0⟩

def broadcast : Ipv4 := ⟨255, 255, 255, 255⟩

def isLoopback (ip : Ipv4) : Bool := ip.a == 127

def isPrivate (ip : Ipv4) : Bool :=
  ip.a == 10 || (ip.a == 172 && 16 ≤ ip.b && ip.b ≤ 31) || (ip.a == 192 && ip.b == 168)

def isLinkLocal (ip : Ipv4) : Bool := ip.a == 169 && ip.b == 254

/-- Addresses that stand in for others in texts. -/
def isDocumentation (ip : Ipv4) : Bool :=
  (ip.a == 192 && ip.b == 0 && ip.c == 2) || (ip.a == 198 && ip.b == 51 && ip.c == 100) ||
    (ip.a == 203 && ip.b == 0 && ip.c == 113)

/-- Shared by the customers of a carrier. -/
def isShared (ip : Ipv4) : Bool := ip.a == 100 && ip.b &&& 0xC0 == 64

def isProtocolAssignment (ip : Ipv4) : Bool := ip.a == 192 && ip.b == 0 && ip.c == 0

def isBenchmark (ip : Ipv4) : Bool := ip.a == 198 && ip.b &&& 0xFE == 18

/-- Not to be called. -/
def isBlocked (ip : Ipv4) : Bool :=
  ip.isLoopback || ip.isPrivate || ip.isLinkLocal || ip = unspecified || ip = broadcast ||
    ip.isDocumentation || ip.a == 0 || ip.isShared || ip.isProtocolAssignment || ip.isBenchmark ||
    240 ≤ ip.a

end Ipv4

namespace Ipv6

def unspecified : Ipv6 := ⟨0, 0, 0, 0, 0, 0, 0, 0⟩

def loopback : Ipv6 := ⟨0, 0, 0, 0, 0, 0, 0, 1⟩

def isMulticast (ip : Ipv6) : Bool := ip.w0 &&& 0xFF00 == 0xFF00

def isUniqueLocal (ip : Ipv6) : Bool := ip.w0 &&& 0xFE00 == 0xFC00

def isLinkLocal (ip : Ipv6) : Bool := ip.w0 &&& 0xFFC0 == 0xFE80

/-- All of the address but its last two words is zero. -/
def isCompatible (ip : Ipv6) : Bool :=
  ip.w0 == 0 && ip.w1 == 0 && ip.w2 == 0 && ip.w3 == 0 && ip.w4 == 0 && ip.w5 == 0

/-- Not to be called. An address of four bytes inside decides for the whole. -/
def isBlocked (ip : Ipv6) : Bool :=
  match ip.mapped? with
  | some inner => inner.isBlocked
  | none =>
    if ip.isCompatible ∧ ip ≠ loopback ∧ ip ≠ unspecified then ip.embedded.isBlocked
    else
      ip = loopback || ip = unspecified || ip.isMulticast || ip.isUniqueLocal || ip.isLinkLocal

end Ipv6

/-- Whether a URL may be called; a refusal may come without a reason. -/
inductive Verdict where
  | allowed
  | refused (reason : Option String)
  deriving DecidableEq

inductive Refusal where
  | unreadable (error : UrlError)
  | scheme (name : String)
  | credentials
  | noHost
  | host (name : String)
  | address (text : String)
  deriving DecidableEq

def Refusal.message (refusal : Refusal) : String :=
  "SSRF protection: " ++ match refusal with
    | unreadable error => "invalid URL: " ++ error.message
    | scheme name => "scheme '" ++ name ++ "' is not allowed"
    | credentials => "credentials in URL are not allowed"
    | noHost => "URL has no host"
    | host name => "host '" ++ name ++ "' is not allowed"
    | address text => "address " ++ text ++ " is not publicly routable"

/-- Hosts that are refused besides those that always are, in small letters. -/
structure Guard where
  hosts : List String := []
  deriving DecidableEq

namespace Guard

def blockHost (guard : Guard) (host : String) : Guard :=
  { hosts := guard.hosts ++ [Text.lower host] }

/-- Names of this machine, and of services that hand out credentials to it. -/
def localHosts : List String :=
  ["localhost", "metadata", "metadata.google.internal", "metadata.goog", "instance-data"]

/-- `name` is `host` or inside it. -/
def isWithin (host name : List Char) : Bool :=
  name == host || ('.' :: host).isSuffixOf name

def blocksDomain (guard : Guard) (domain : String) : Bool :=
  let name := Text.lowerChars (Text.dropEndWhile (· == '.') domain.toList)
  ".localhost".toList.isSuffixOf name || ".internal".toList.isSuffixOf name ||
    (localHosts ++ guard.hosts).any fun host => isWithin host.toList name

/-- Why a URL may not be called, if so. -/
def refusal? (guard : Guard) (text : String) : Option Refusal :=
  match Url.parse text with
  | .error e => some (.unreadable e)
  | .ok url =>
    if url.scheme ≠ "http" ∧ url.scheme ≠ "https" then some (.scheme url.scheme)
    else if url.hasCredentials then some .credentials
    else match url.host with
      | none => some .noHost
      | some (.domain name) => if guard.blocksDomain name then some (.host name) else none
      | some (.ipv4 ip) => if ip.isBlocked then some (.address ip.toText) else none
      | some (.ipv6 ip) => if ip.isBlocked then some (.address ip.toMixedText) else none

def judge (guard : Guard) (text : String) : Verdict :=
  match guard.refusal? text with
  | some refusal => .refused (some refusal.message)
  | none => .allowed

end Guard
end Automation.Url
