import Automation.Yaml.Scalar

/-!
The signs and scalars that a document is made of. Indentation is a matter of signs, too: a block
begins where the text moves to the right and ends where it moves back.
-/
namespace Automation.Yaml

inductive Token where
  | blockSequence
  | blockMapping
  | blockEnd
  | flowSequence
  | flowSequenceEnd
  | flowMapping
  | flowMappingEnd
  /-- A dash in front of an item. -/
  | item
  /-- A comma. -/
  | separator
  | key
  | value
  | reference (name : String)
  | anchor (name : String)
  | tag (handle suffix : String)
  | scalar (text : String) ( isPlain : Bool)
  | version (major minor : Nat)
  | tagPrefix (handle text : String)
  | documentStart
  | documentEnd
  | streamEnd
  deriving DecidableEq

/-- A token and the part of the text it takes up. -/
structure Placed where
  token : Token
  start : Mark
  finish : Mark

end Automation.Yaml

/-!
Anchors, aliases, tags and directives.
-/
namespace Automation.Yaml

def isNameChar (c : Char) : Bool := c.isAlphanum || c == '_' || c == '-'

/-- A token that was read, and the place behind it. -/
abbrev Read := Except Fault (Token × Cursor)

namespace Label

/-- An anchor or an alias without the sign in front of it. -/
private def name (kind : String) (make : String → Token) (c : Cursor) : Read :=
  let name := (c.advance 1).rest.takeWhile isNameChar
  let next := c.advance (name.length + 1)
  let closed := endsWord next.rest ||
    next.rest.head?.any fun d => ['?', ':', ',', ']', '\x7d', '%', '@', '\x60'].contains d
  if name.isEmpty || !closed then
    .error (next.fault "did not find expected alphabetic or numeric character"
      ("while scanning " ++ kind, c.mark))
  else .ok (make (String.ofList name), next)

def anchor (c : Cursor) : Read := name "an anchor" .anchor c

def reference (c : Cursor) : Read := name "an alias" .reference c

private def isAddressChar (c : Char) : Bool :=
  isNameChar c || ";/?:@&=+$.!~*()%\x27".toList.contains c

/-- What stands between two exclamation marks, with them, or the first alone. -/
private def handle (cs : List Char) : List Char :=
  let name := cs.tail.takeWhile isNameChar
  if (cs.drop (name.length + 1)).head? = some '!' then '!' :: name ++ ['!'] else ['!']

private def required (start : Mark) (part : List Char) (c : Cursor) : Except Fault Unit :=
  if part.isEmpty then
    .error (c.fault "did not find expected tag URI" ("while parsing a tag", start))
  else .ok ()

/-- The tag itself; `inFlow` tells that a comma may follow. -/
def tag (inFlow : Bool) (c : Cursor) : Read := do
  let context := ("while scanning a tag", c.mark)
  let (token, next) ← match c.rest with
    | _ :: '<' :: rest =>
      let address := rest.takeWhile fun d => isAddressChar d || [',', '[', ']'].contains d
      let next := c.advance (address.length + 2)
      required c.mark address next
      if next.rest.head? ≠ some '>' then
        .error (next.fault "did not find the expected '>'" context)
      pure (Token.tag "" (String.ofList address), next.advance 1)
    | cs =>
      let handle := handle cs
      let suffix := (cs.drop handle.length).takeWhile isAddressChar
      let next := c.advance (handle.length + suffix.length)
      if handle.length > 1 then required c.mark suffix next
      pure <| if handle.length = 1 && suffix.isEmpty then (Token.tag "" "!", next)
        else (Token.tag (String.ofList handle) (String.ofList suffix), next)
  if endsWord next.rest || (inFlow && next.rest.head? == some ',') then return (token, next)
  .error (next.fault "did not find expected whitespace or line break" context)

private def versionContext (start : Mark) : String × Mark :=
  ("while scanning a %YAML directive", start)

private def versionNumber (start : Mark) (c : Cursor) : Except Fault (Nat × Cursor) :=
  let digits := c.rest.takeWhile Char.isDigit
  if digits.isEmpty then
    .error (c.fault "did not find expected version number" (versionContext start))
  else if digits.length > 9 then
    .error ((c.advance 9).fault "found extremely long version number" (versionContext start))
  else .ok (digits.foldl (fun n d => n * 10 + (d.toNat - 48)) 0, c.advance digits.length)

private def version (start : Mark) (c : Cursor) : Read := do
  let (major, c) ← versionNumber start (c.skipWhile isBlank)
  if c.rest.head? ≠ some '.' then
    .error (c.fault "did not find expected digit or '.' character" (versionContext start))
  let (minor, c) ← versionNumber start (c.advance 1)
  return (.version major minor, c)

private def tagPrefix (start : Mark) (c : Cursor) : Read := do
  let c := c.skipWhile isBlank
  if c.rest.head? ≠ some '!' then
    .error (c.fault "did not find expected '!'" ("while scanning a directive", start))
  let handle := handle c.rest
  let next := c.advance handle.length
  if !next.rest.head?.any isBlank then
    .error (next.fault "did not find expected whitespace"
      ("while scanning a %TAG directive", start))
  let next := next.skipWhile isBlank
  let text := next.rest.takeWhile fun d => isAddressChar d || [',', '[', ']'].contains d
  let behind := next.advance text.length
  if text.isEmpty then
    .error (behind.fault "did not find expected tag URI" ("while parsing a %TAG directive", start))
  if !endsWord behind.rest then
    .error (behind.fault "did not find expected whitespace or line break"
      ("while scanning a %TAG directive", start))
  return (.tagPrefix (String.ofList handle) (String.ofList text), behind)

/-- A line with a percent sign in front. -/
def directive (c : Cursor) : Read := do
  let context := ("while scanning a directive", c.mark)
  let name := (c.advance 1).rest.takeWhile isNameChar
  let behind := c.advance (name.length + 1)
  if name.isEmpty then .error (behind.fault "could not find expected directive name" context)
  if !endsWord behind.rest then
    .error (behind.fault "found unexpected non-alphabetical character" context)
  let (token, next) ← match String.ofList name with
    | "YAML" => version c.mark behind
    | "TAG" => tagPrefix c.mark behind
    | _ => .error (behind.fault "found unknown directive name" context)
  let next := next.skipWhile isBlank
  let next := if next.rest.head? == some '#' then next.skipWhile (!isBreak ·) else next
  match next.lineBreak? with
  | some (_, next) => return (token, next)
  | none =>
    if next.rest.isEmpty then return (token, next)
    .error (next.fault "did not find expected comment or line break" context)

end Label
end Automation.Yaml
