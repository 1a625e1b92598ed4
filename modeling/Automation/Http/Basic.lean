import Automation.Url.Basic

/-!
Requests to HTTP peers and what may come back.
-/
namespace Automation.Http

inductive Method where
  | get
  | post
  | put
  | patch
  | delete
  deriving DecidableEq

namespace Method

def name : Method → String
  | get => "GET"
  | post => "POST"
  | put => "PUT"
  | patch => "PATCH"
  | delete => "DELETE"

def all : List Method := [get, post, put, patch, delete]

end Method

/-- Headers stand in the order in which they were set. -/
structure Request where
  method : Method
  url : Url
  headers : List (String × String)
  body : Option String
  deriving DecidableEq

/-- What came back before the deadline. -/
inductive Reply where
  | response (status : Nat) (body : String)
  | unreachable
  | expired
  deriving DecidableEq

/-- Why a request cannot be sent at all. -/
inductive BuildError where
  | malformed
  | unsuitable (url : Url)
  deriving DecidableEq

def BuildError.message : BuildError → String
  | malformed => "builder error"
  | unsuitable url => "builder error for url (" ++ url.toText ++ ")"

/-- A status that tells of success. -/
def isSuccess (status : Nat) : Bool := 200 ≤ status && status < 300

/-- May stand in the name of a header. -/
def isTokenChar (c : Char) : Bool :=
  c.isAlphanum ||
    ['!', '#', '$', '%', '&', '\x27', '*', '+', '-', '.', '^', '_', '\x60', '|', '~'].contains c

def isHeaderName (name : String) : Bool := !name.isEmpty && name.toList.all isTokenChar

/-- Control characters have no place in the value of a header, a tab aside. -/
def isHeaderValue (value : String) : Bool :=
  value.toList.all fun c => c == '\t' || (32 ≤ c.toNat && c.toNat != 127)

end Automation.Http

/-!
Bytes in base 64.
-/
namespace Automation.Http.Base64

/-- The character of a digit. -/
def digit (n : Nat) : Char :=
  let n := n % 64
  if n < 26 then Char.ofNat (65 + n)
  else if n < 52 then Char.ofNat (71 + n)
  else if n < 62 then Char.ofNat (n - 4)
  else if n = 62 then '+'
  else '/'

/-- Three bytes make four characters; what is missing at the end is filled up. -/
def encode : List UInt8 → List Char
  | [] => []
  | [a] =>
    let n := a.toNat * 0x10000
    [digit (n / 0x40000), digit (n / 0x1000), '=', '=']
  | [a, b] =>
    let n := a.toNat * 0x10000 + b.toNat * 0x100
    [digit (n / 0x40000), digit (n / 0x1000), digit (n / 0x40), '=']
  | a :: b :: c :: rest =>
    let n := a.toNat * 0x10000 + b.toNat * 0x100 + c.toNat
    digit (n / 0x40000) :: digit (n / 0x1000) :: digit (n / 0x40) :: digit n :: encode rest

def encodeText (text : String) : String := String.ofList (encode text.toUTF8.toList)

end Automation.Http.Base64
