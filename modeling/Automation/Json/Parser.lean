import Automation.Json.Value

/-!
Reading JSON text. Integers of 64 bits stay exact. Any other number is its leading digits, as many
as fit 64 bits, scaled by one power of ten in binary64 arithmetic, so a long number can differ from
the nearest binary64 number in its last bit.
-/
namespace Automation.Json.Parser

/-- Reads a value off the front of a text and returns the text behind it. -/
abbrev Reader (α : Type) := List Char → Option (α × List Char)

/-- The white space of JSON. -/
def skipBlanks (cs : List Char) : List Char :=
  cs.dropWhile fun c => c == ' ' || c == '\n' || c == '\t' || c == '\r'

def hexValue? (c : Char) : Option Nat :=
  if '0' ≤ c ∧ c ≤ '9' then some (c.toNat - 48)
  else if 'a' ≤ c ∧ c ≤ 'f' then some (c.toNat - 87)
  else if 'A' ≤ c ∧ c ≤ 'F' then some (c.toNat - 55)
  else none

/-- Four hexadecimal digits. -/
def hexWord : Reader Nat
  | a :: b :: c :: d :: rest => do
    let a ← hexValue? a
    let b ← hexValue? b
    let c ← hexValue? c
    let d ← hexValue? d
    some (((a * 16 + b) * 16 + c) * 16 + d, rest)
  | _ => none

/-- The character of one or two `\u` escapes; a surrogate needs its partner. -/
def unicodeEscape : Reader Char := fun cs => do
  let (high, rest) ← hexWord cs
  if 0xDC00 ≤ high ∧ high ≤ 0xDFFF then none
  else if 0xD800 ≤ high ∧ high ≤ 0xDBFF then
    match rest with
    | '\\' :: 'u' :: rest =>
      let (low, rest) ← hexWord rest
      if 0xDC00 ≤ low ∧ low ≤ 0xDFFF then
        some (Char.ofNat (0x10000 + (high - 0xD800) * 0x400 + (low - 0xDC00)), rest)
      else none
    | _ => none
  else some (Char.ofNat high, rest)

/-- What follows a backslash. -/
def escape : Reader Char
  | '"' :: rest => some ('"', rest)
  | '\\' :: rest => some ('\\', rest)
  | '/' :: rest => some ('/', rest)
  | 'b' :: rest => some (Char.ofNat 8, rest)
  | 'f' :: rest => some (Char.ofNat 12, rest)
  | 'n' :: rest => some ('\n', rest)
  | 'r' :: rest => some ('\r', rest)
  | 't' :: rest => some ('\t', rest)
  | 'u' :: rest => unicodeEscape rest
  | _ => none

/-- The inside of a quoted text, up to and with the closing quote; `fuel` bounds its length. -/
def quoted (fuel : Nat) (read : List Char) : Reader String := fun cs =>
  match fuel, cs with
  | 0, _ | _, [] => none
  | fuel + 1, c :: rest =>
    if c = '"' then some (String.ofList read.reverse, rest)
    else if c = '\\' then do
      let (c, rest) ← escape rest
      quoted fuel (c :: read) rest
    else if c.toNat < 32 then none
    else quoted fuel (c :: read) rest

def digitValue (c : Char) : Nat := c.toNat - 48

/-- A significand of at most 64 bits and the exponent of ten that belongs to it. -/
structure Scaled where
  significand : Nat
  exponent : Int
  exact : Bool

/-- Appends a digit in front of the point; one that does not fit counts in the exponent. -/
def Scaled.pushWhole (s : Scaled) (c : Char) : Scaled :=
  let next := s.significand * 10 + digitValue c
  if s.exact && next < 0x10000000000000000 then { s with significand := next }
  else { s with exponent := s.exponent + 1, exact := false }

/-- Appends a digit behind the point; one that does not fit is dropped, and all after it. -/
def Scaled.pushFraction (s : Scaled) (c : Char) : Scaled :=
  let next := s.significand * 10 + digitValue c
  if s.exact && next < 0x10000000000000000 then
    { s with significand := next, exponent := s.exponent - 1 }
  else { s with exact := false }

/-- Multiplies or divides by `10 ^ exponent`, in steps of at most 308; overflow has no value. -/
def scaleByTens (negative : Bool) : Nat → Binary64 → Int → Option Binary64.Finite
  | 0, _, _ => none
  | fuel + 1, x, exponent =>
    if exponent.natAbs ≤ 308 then
      let power := Binary64.ofNat (Nat.pow 10 exponent.natAbs)
      match if 0 ≤ exponent then x.mul power else x.div power with
      | .finite y => some { y with negative }
      | _ => none
    else if x = .zero then some (.zero negative)
    else if 0 ≤ exponent then none
    else scaleByTens negative fuel (x.div (Binary64.ofNat (Nat.pow 10 308))) (exponent + 308)

def floatOf (negative : Bool) (s : Scaled) : Option Binary64.Finite :=
  scaleByTens negative (s.exponent.natAbs / 308 + 2) (Binary64.ofNat s.significand) s.exponent

/-- A number behind its sign. -/
def number (negative : Bool) : Reader Number := fun cs => do
  let whole := cs.takeWhile Char.isDigit
  let rest := cs.dropWhile Char.isDigit
  guard (!whole.isEmpty && (whole.length == 1 || whole.head? != some '0'))
  let s := whole.foldl Scaled.pushWhole ⟨0, 0, true⟩
  let (s, fractional, rest) ← match rest with
    | '.' :: rest =>
      let digits := rest.takeWhile Char.isDigit
      if digits.isEmpty then none
      else
        let s := digits.foldl Scaled.pushFraction { s with exact := true }
        some (s, true, rest.dropWhile Char.isDigit)
    | _ => some (s, false, rest)
  let (power, rest) ← match rest with
    | c :: rest' =>
      if c = 'e' ∨ c = 'E' then
        let (minus, rest') := match rest' with
          | '+' :: r => (false, r)
          | '-' :: r => (true, r)
          | r => (false, r)
        let digits := rest'.takeWhile Char.isDigit
        if digits.isEmpty then none
        else
          let value := digits.foldl (fun n c => n * 10 + digitValue c) 0
          some (some (if minus then -(value : Int) else value), rest'.dropWhile Char.isDigit)
      else some (none, rest)
    | [] => some (none, rest)
  match power with
  | none =>
    if fractional || !s.exact then (floatOf negative s).map fun x => (.float x, rest)
    else if !negative then some (.int s.significand, rest)
    else if s.significand = 0 ∨ 0x8000000000000000 < s.significand then
      (floatOf true s).map fun x => (.float x, rest)
    else some (.int (-s.significand), rest)
  | some power =>
    if power.natAbs < 0x80000000 then
      (floatOf negative { s with exponent := s.exponent + power }).map fun x => (.float x, rest)
    else if s.significand = 0 ∨ power < 0 then some (.float (.zero negative), rest)
    else none

def literal (word : List Char) (value : Value) : Reader Value := fun cs =>
  if word.isPrefixOf cs then some (value, cs.drop word.length) else none

/-- Items behind an opening bracket, at least one, up to and with the closing one. -/
def items (item : Reader Value) : Nat → List Value → Reader (List Value)
  | 0, _, _ => none
  | fuel + 1, read, cs => do
    let (value, rest) ← item (skipBlanks cs)
    match skipBlanks rest with
    | ',' :: rest => items item fuel (value :: read) rest
    | ']' :: rest => some ((value :: read).reverse, rest)
    | _ => none

/-- Members behind an opening brace, at least one, up to and with the closing one. -/
def members (item : Reader Value) : Nat → Members → Reader Members
  | 0, _, _ => none
  | fuel + 1, read, cs =>
    match skipBlanks cs with
    | '"' :: rest => do
      let (key, rest) ← quoted (rest.length + 1) [] rest
      match skipBlanks rest with
      | ':' :: rest =>
        let (value, rest) ← item (skipBlanks rest)
        match skipBlanks rest with
        | ',' :: rest => members item fuel (read.insert key value) rest
        | '\x7d' :: rest => some (read.insert key value, rest)
        | _ => none
      | _ => none
    | _ => none

/-- A value whose containers nest at most `depth` deep; leading blanks are already skipped. -/
def value : Nat → Reader Value
  | depth, cs =>
    match cs with
    | '"' :: rest => (quoted (rest.length + 1) [] rest).map fun (text, rest) => (.string text, rest)
    | '-' :: rest => (number true rest).map fun (n, rest) => (.number n, rest)
    | 't' :: _ => literal ['t', 'r', 'u', 'e'] (.bool true) cs
    | 'f' :: _ => literal ['f', 'a', 'l', 's', 'e'] (.bool false) cs
    | 'n' :: _ => literal ['n', 'u', 'l', 'l'] .null cs
    | '[' :: rest =>
      match depth with
      | 0 => none
      | depth + 1 =>
        match skipBlanks rest with
        | ']' :: rest => some (.array [], rest)
        | rest => (items (value depth) (rest.length + 1) [] rest).map fun (xs, rest) =>
            (.array xs, rest)
    | '\x7b' :: rest =>
      match depth with
      | 0 => none
      | depth + 1 =>
        match skipBlanks rest with
        | '\x7d' :: rest => some (.object [], rest)
        | rest =>
          (members (value depth) (rest.length + 1) [] rest).map fun (ms, rest) =>
            (.object ms, rest)
    | cs => (number false cs).map fun (n, rest) => (.number n, rest)

end Parser

/-- Containers nest at most this deep in a text. -/
def maxDepth : Nat := 127

/-- The value a whole text stands for. -/
def parse? (text : String) : Option Value :=
  match Parser.value maxDepth (Parser.skipBlanks text.toList) with
  | some (value, rest) => if (Parser.skipBlanks rest).isEmpty then some value else none
  | none => none

end Automation.Json
