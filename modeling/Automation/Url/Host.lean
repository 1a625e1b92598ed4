import Automation.Url.Idna.Domain
import Automation.Url.Ipv6
import Automation.Url.Percent

/-!
Hosts of URLs: domain names and addresses. Schemes that are not special allow almost any text.
-/
namespace Automation

inductive UrlError where
  | relativeWithoutBase
  | emptyHost
  | invalidDomain
  | invalidPort
  | invalidIpv4
  | invalidIpv6
  | invalidHostCharacter
  deriving DecidableEq

def UrlError.message : UrlError → String
  | relativeWithoutBase => "relative URL without a base"
  | emptyHost => "empty host"
  | invalidDomain => "invalid international domain name"
  | invalidPort => "invalid port number"
  | invalidIpv4 => "invalid IPv4 address"
  | invalidIpv6 => "invalid IPv6 address"
  | invalidHostCharacter => "invalid domain character"

namespace Url

inductive Host where
  | domain (name : String)
  | ipv4 (address : Ipv4)
  | ipv6 (address : Ipv6)
  deriving DecidableEq

namespace Host

def toText : Host → String
  | domain name => name
  | ipv4 address => address.toText
  | ipv6 address => "[" ++ address.toText ++ "]"

/-- May not stand in the ASCII form of a domain. -/
def isForbidden (c : Char) : Bool :=
  c.toNat ≤ 32 || c.toNat == 127 ||
    ['%', '#', '/', ':', '<', '>', '?', '@', '[', '\\', ']', '^', '|'].contains c

/-- May not stand in the host of a scheme that is not special. -/
def isForbiddenBare (c : Char) : Bool :=
  c.toNat == 0 ||
    ['\t', '\n', '\r', ' ', '#', '/', ':', '<', '>', '?', '@', '[', '\\', ']', '^', '|'].contains c

/-- An address between brackets. -/
def bracketed (cs : List Char) : Except UrlError Host :=
  match cs.getLast? with
  | some ']' => match Ipv6.parse? cs.tail.dropLast with
    | some address => .ok (.ipv6 address)
    | none => .error .invalidIpv6
  | _ => .error .invalidIpv6

/-- The ASCII form of a domain with escapes. -/
def domainOf? (cs : List Char) : Option (List Char) := do
  let decoded ← Percent.ofBytes? (Percent.decode cs)
  let name ← Idna.toAscii? decoded
  if name.any isForbidden then none else some name

/-- The host of a special scheme; one that ends in a number is an address. -/
def parse (cs : List Char) : Except UrlError Host :=
  if cs.head? = some '[' then bracketed cs
  else match domainOf? cs with
    | none => .error .invalidDomain
    | some [] => .error .emptyHost
    | some name =>
      if Ipv4.endsInNumber name then
        match Ipv4.parse? name with
        | some address => .ok (.ipv4 address)
        | none => .error .invalidIpv4
      else .ok (.domain (String.ofList name))

/-- The host of any other scheme. -/
def parseBare (cs : List Char) : Except UrlError Host :=
  if cs.head? = some '[' then bracketed cs
  else if cs.any isForbiddenBare then .error .invalidHostCharacter
  else .ok (.domain (String.ofList (Percent.encode Percent.isControl cs)))

end Host
end Url
end Automation
