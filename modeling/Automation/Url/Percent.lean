/-!
Percent-encoding: bytes of UTF-8 written as two hexadecimal digits behind a percent sign.
-/
namespace Automation.Url.Percent

def hexDigit (n : Nat) : Char := (Nat.digitChar (n % 16)).toUpper

def encodeByte (b : UInt8) : List Char := ['%', hexDigit (b.toNat / 16), hexDigit b.toNat]

/-- Every byte of a character. -/
def encodeChar (c : Char) : List Char := (String.utf8EncodeChar c).flatMap encodeByte

/-- Encodes what is not ASCII or not plain enough. -/
def encode (escapes : Char → Bool) (cs : List Char) : List Char :=
  cs.flatMap fun c => if 128 ≤ c.toNat || escapes c then encodeChar c else [c]

def isControl (c : Char) : Bool := c.toNat < 32 || c.toNat == 127

def isFragmentEscape (c : Char) : Bool :=
  isControl c || [' ', '"', '<', '>', '\x60'].contains c

def isPathEscape (c : Char) : Bool :=
  isFragmentEscape c || ['#', '?', '\x7b', '\x7d'].contains c

def isUserinfoEscape (c : Char) : Bool :=
  isPathEscape c || ['/', ':', ';', '=', '@', '[', '\\', ']', '^', '|'].contains c

def isQueryEscape (c : Char) : Bool := isControl c || [' ', '"', '#', '<', '>'].contains c

/-- Queries of special schemes escape a little more. -/
def isSpecialQueryEscape (c : Char) : Bool := isQueryEscape c || c == '\x27'

private def hexValue? (c : Char) : Option Nat :=
  if c.isDigit then some (c.toNat - 48)
  else if 'a' ≤ c ∧ c ≤ 'f' then some (c.toNat - 87)
  else if 'A' ≤ c ∧ c ≤ 'F' then some (c.toNat - 55)
  else none

/-- Bytes with each escape replaced by its byte; other percent signs stay. -/
def decode : List Char → List UInt8
  | '%' :: a :: b :: rest =>
    match hexValue? a, hexValue? b with
    | some x, some y => UInt8.ofNat (x * 16 + y) :: decode rest
    | _, _ => (String.utf8EncodeChar '%') ++ decode (a :: b :: rest)
  | c :: rest => String.utf8EncodeChar c ++ decode rest
  | [] => []

/-- The text of bytes, if they are UTF-8. -/
def ofBytes? (bytes : List UInt8) : Option (List Char) :=
  (String.fromUTF8? ⟨bytes.toArray⟩).map String.toList

end Automation.Url.Percent
