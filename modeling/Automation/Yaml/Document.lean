import Automation.Decode.Basic
import Automation.Yaml.Lexer

/-!
From tokens to a tree that can be decoded. A document that goes wrong somewhere is a tree that is
broken there, so that what stands in front of the fault is decoded, and refused, first.
-/
namespace Automation.Yaml

open Decode (Tree)

def Fault.error (fault : Fault) : Decode.Error := .of (.malformed fault.message)

def broken (fault : Fault) : Tree := .broken fault.error

/-- Tokens to come, what ends them too early, and what names and tags stand for. -/
structure Reader where
  tokens : List Placed
  fault : Option Fault
  anchors : List (String × Tree) := []
  handles : List (String × String) := []

namespace Reader

def peek (r : Reader) : Except Fault Placed :=
  match r.tokens with
  | t :: _ => .ok t
  | [] => .error (r.fault.getD ⟨"unexpected end of stream", ⟨0, 0⟩, none⟩)

def skip (r : Reader) : Reader := { r with tokens := r.tokens.tail }

def bind (r : Reader) (name : Option String) (tree : Tree) : Reader :=
  match name with
  | some name => { r with anchors := (name, tree) :: r.anchors }
  | none => r

end Reader

/-- What was read, and where to go on unless it is broken. -/
abbrev Part (α : Type) := α × Option Reader

namespace Part

def broken (fault : Fault) : Part Tree := (Yaml.broken fault, none)

def brokenItem (fault : Fault) : Part (List Tree) := ([Yaml.broken fault], none)

def brokenEntry (fault : Fault) : Part (List (Tree × Tree)) := ([(Yaml.broken fault, .null)], none)

/-- A part and, unless it is broken, more of the same kind. -/
def followedBy {α : Type} (part : Part α) (more : Reader → Part (List α)) : Part (List α) :=
  match part.2 with
  | none => ([part.1], none)
  | some r => let (others, next) := more r; (part.1 :: others, next)

end Part

def empty (mark : Mark) : Tree := .marked mark (.plain "")

private def coreTag (name : String) : String := "tag:yaml.org,2002:" ++ name

/-- Only plain scalars without a tag leave open what they stand for. -/
def scalar (tag : Option String) (text : String) (isPlain : Bool) : Tree :=
  let asWritten := if isPlain then Tree.plain text else .text text
  match tag with
  | none => asWritten
  | some tag =>
    if ["null", "bool", "int", "float"].any (coreTag · == tag) then .plain text
    else if tag.startsWith "!" then asWritten
    else .text text

/-- What stands in front of a node. -/
structure Properties where
  start : Option Mark := none
  finish : Mark := ⟨0, 0⟩
  anchor : Option String := none
  tag : Option String := none

namespace Properties

def standardHandles : List (String × String) := [("!", "!"), ("!!", coreTag "")]

private def resolve (r : Reader) (start : Mark) (t : Placed) (handle suffix : String) :
    Except Fault String :=
  if handle.isEmpty then .ok suffix
  else match (r.handles ++ standardHandles).lookup handle with
    | some text => .ok (text ++ suffix)
    | none => .error ⟨"found undefined tag handle", t.start, some ("while parsing a node", start)⟩

/-- At most one anchor and one tag, in any order. -/
def read (properties : Properties) : Nat → Reader → Except Fault (Properties × Reader)
  | 0, r => .ok (properties, r)
  | fuel + 1, r => do
    let t ← r.peek
    let start := properties.start.getD t.start
    match t.token, properties.anchor, properties.tag with
    | .anchor name, none, _ =>
      read { properties with start, finish := t.finish, anchor := some name } fuel r.skip
    | .tag handle suffix, _, none =>
      let tag ← resolve r start t handle suffix
      read { properties with start, finish := t.finish, tag := some tag } fuel r.skip
    | _, _, _ => return (properties, r)

end Properties

/-- Reads a node unless one of the given tokens shows that there is none. -/
def Reader.nodeUnless (r : Reader) (stops : List Token) (absent : Placed → Mark)
    (node : Reader → Part Tree) : Part Tree :=
  match r.peek with
  | .error fault => .broken fault
  | .ok t => if stops.contains t.token then (empty (absent t), some r) else node r

/-- Reads what stands behind a colon. -/
def Reader.valueBehind (r : Reader) (stops : List Token) (absent : Placed → Placed → Mark)
    (node : Reader → Part Tree) : Part Tree :=
  match r.peek with
  | .error fault => .broken fault
  | .ok t =>
    if t.token = .value then r.skip.nodeUnless stops (absent t) node
    else (empty t.start, some r)

/-- How deep collections may be nested. -/
def depthLimit : Nat := 128

def tooDeep (mark : Mark) : Tree :=
  .broken (.of (.malformed ("recursion limit exceeded" ++ mark.suffix)))

mutual
/-- Reads a node in a block or between brackets. `indentless` tells that the items of a sequence may
stand in the same column as the key in front of them. -/
def node (block indentless : Bool) (depth : Nat) : Nat → Reader → Part Tree
  | 0, r => (empty ⟨0, 0⟩, some r)
  | fuel + 1, r => match r.peek, Properties.read {} 2 r with
    | .error fault, _ | _, .error fault => .broken fault
    | .ok first, .ok (properties, r) => match r.peek with
      | .error fault => .broken fault
      | .ok t =>
        let start := properties.start.getD t.start
        let named (r : Reader) (tree : Tree) : Part Tree :=
          (.marked start tree, some (r.bind properties.anchor (.marked start tree)))
        let collection {α : Type} (make : α → Tree) (part : Reader → Part α) : Part Tree :=
          let (content, next) := part (r.bind properties.anchor (tooDeep start))
          let tree := if depth < depthLimit then make content else tooDeep start
          match next with
          | some r => named r tree
          | none => (.marked start tree, none)
        match first.token, t.token with
        | .reference name, _ => match r.anchors.lookup name with
          | some tree => (tree, some r.skip)
          | none => (.broken (.of (.malformed ("unknown anchor" ++ t.start.suffix))), none)
        | _, .scalar text isPlain => named r.skip (scalar properties.tag text isPlain)
        | _, .flowSequence =>
          collection (.sequence .document) fun r => flowItems (depth + 1) true t.start fuel r.skip
        | _, .flowMapping =>
          collection (.mapping .document) fun r => flowEntries (depth + 1) true t.start fuel r.skip
        | _, token =>
          if indentless && token = .item then
            collection (.sequence .document) fun r => indentlessItems (depth + 1) fuel r
          else if block && token = .blockSequence then
            collection (.sequence .document) fun r => blockItems (depth + 1) t.start fuel r.skip
          else if block && token = .blockMapping then
            collection (.mapping .document) fun r => blockEntries (depth + 1) t.start fuel r.skip
          else if properties.start.isSome then
            named r (scalar properties.tag "" true)
          else
            let kind := if block then "block" else "flow"
            .broken ⟨"did not find expected node content", t.start,
              some ("while parsing a " ++ kind ++ " node", start)⟩
termination_by structural fuel => fuel

def blockItems (depth : Nat) (start : Mark) : Nat → Reader → Part (List Tree)
  | 0, r => ([], some r)
  | fuel + 1, r => match r.peek with
    | .error fault => .brokenItem fault
    | .ok t => match t.token with
      | .item =>
        (r.skip.nodeUnless [.item, .blockEnd] (fun _ => t.finish)
          (node true false depth fuel)).followedBy (blockItems depth start fuel)
      | .blockEnd => ([], some r.skip)
      | _ => .brokenItem ⟨"did not find expected '-' indicator", t.start,
          some ("while parsing a block collection", start)⟩
termination_by structural fuel => fuel

def indentlessItems (depth : Nat) : Nat → Reader → Part (List Tree)
  | 0, r => ([], some r)
  | fuel + 1, r => match r.peek with
    | .error fault => .brokenItem fault
    | .ok t => match t.token with
      | .item =>
        (r.skip.nodeUnless [.item, .key, .value, .blockEnd] (fun _ => t.finish)
          (node true false depth fuel)).followedBy (indentlessItems depth fuel)
      | _ => ([], some r)
termination_by structural fuel => fuel

def blockEntries (depth : Nat) (start : Mark) : Nat → Reader → Part (List (Tree × Tree))
  | 0, r => ([], some r)
  | fuel + 1, r => match r.peek with
    | .error fault => .brokenEntry fault
    | .ok t =>
      let stops := [.key, .value, .blockEnd]
      let key (r : Reader) := match t.token with
        | .key => r.skip.nodeUnless stops (fun _ => t.finish) (node true true depth fuel)
        | _ => (empty t.start, some r)
      match t.token with
      | .key | .value => match key r with
        | (key, none) => ([(key, .null)], none)
        | (key, some r) =>
          let (value, next) := r.valueBehind stops (fun colon _ => colon.finish)
            (node true true depth fuel)
          Part.followedBy ((key, value), next) (blockEntries depth start fuel)
      | .blockEnd => ([], some r.skip)
      | _ => .brokenEntry ⟨"did not find expected key", t.start,
          some ("while parsing a block mapping", start)⟩
termination_by structural fuel => fuel

def flowItems (depth : Nat) (first : Bool) (start : Mark) : Nat → Reader → Part (List Tree)
  | 0, r => ([], some r)
  | fuel + 1, r => match r.peek with
    | .error fault => .brokenItem fault
    | .ok t =>
      let r := if first then r else r.skip
      if t.token = .flowSequenceEnd then ([], some (if first then r.skip else r))
      else if !first && t.token ≠ .separator then
        .brokenItem ⟨"did not find expected ',' or ']'", t.start,
          some ("while parsing a flow sequence", start)⟩
      else match r.peek with
        | .error fault => .brokenItem fault
        | .ok t => match t.token with
          | .flowSequenceEnd => ([], some r.skip)
          | .key =>
            let (entries, next) := singleEntry depth fuel r.skip
            let tree := if depth < depthLimit then .mapping .document entries else tooDeep t.start
            Part.followedBy (.marked t.start tree, next) (flowItems depth false start fuel)
          | _ => (node false false depth fuel r).followedBy (flowItems depth false start fuel)
termination_by structural fuel => fuel

/-- A mapping of one entry without brackets of its own. -/
def singleEntry (depth : Nat) : Nat → Reader → Part (List (Tree × Tree))
  | 0, r => ([], some r)
  | fuel + 1, r => match r.peek with
    | .error fault => .brokenEntry fault
    | .ok t =>
      let key :=
        if [.value, .separator, .flowSequenceEnd].contains t.token then
          (empty t.finish, some r.skip)
        else node false false (depth + 1) fuel r
      match key with
      | (key, none) => ([(key, .null)], none)
      | (key, some r) =>
        let (value, next) := r.valueBehind [.separator, .flowSequenceEnd] (fun _ t => t.start)
          (node false false (depth + 1) fuel)
        match next with
        | none => ([(key, value)], none)
        | some r => match r.peek with
          | .error fault => ([(key, value), (broken fault, .null)], none)
          | .ok _ => ([(key, value)], some r)
termination_by structural fuel => fuel

def flowEntries (depth : Nat) (first : Bool) (start : Mark) :
    Nat → Reader → Part (List (Tree × Tree))
  | 0, r => ([], some r)
  | fuel + 1, r => match r.peek with
    | .error fault => .brokenEntry fault
    | .ok t =>
      let r := if first then r else r.skip
      if t.token = .flowMappingEnd then ([], some (if first then r.skip else r))
      else if !first && t.token ≠ .separator then
        .brokenEntry ⟨"did not find expected ',' or '\x7d'", t.start,
          some ("while parsing a flow mapping", start)⟩
      else match r.peek with
        | .error fault => .brokenEntry fault
        | .ok t => match t.token with
          | .flowMappingEnd => ([], some r.skip)
          | .key => match r.skip.nodeUnless [.value, .separator, .flowMappingEnd] (·.start)
              (node false false depth fuel) with
            | (key, none) => ([(key, .null)], none)
            | (key, some r) =>
              let (value, next) := r.valueBehind [.separator, .flowMappingEnd] (fun _ t => t.start)
                (node false false depth fuel)
              Part.followedBy ((key, value), next) (flowEntries depth false start fuel)
          | _ => match node false false depth fuel r with
            | (key, none) => ([(key, .null)], none)
            | (key, some r) =>
              let value := match r.peek with
                | .error fault => Part.broken fault
                | .ok t => (empty t.start, some r)
              Part.followedBy ((key, value.1), value.2) (flowEntries depth false start fuel)
termination_by structural fuel => fuel
end

namespace Document

/-- Directives in front of a document. -/
def directives (version : Bool) : Nat → Reader → Except Fault Reader
  | 0, r => .ok r
  | fuel + 1, r => do
    let t ← r.peek
    match t.token with
    | .version major minor =>
      if version then .error ⟨"found duplicate %YAML directive", t.start, none⟩
      else if major ≠ 1 || (minor ≠ 1 && minor ≠ 2) then
        .error ⟨"found incompatible YAML document", t.start, none⟩
      else directives true fuel r.skip
    | .tagPrefix handle text =>
      if (r.handles.lookup handle).isSome then
        .error ⟨"found duplicate %TAG directive", t.start, none⟩
      else directives version fuel { r.skip with handles := (handle, text) :: r.handles }
    | .documentStart => return r.skip
    | _ => .error ⟨"did not find expected <document start>", t.start, none⟩

/-- The tokens behind which a document has no content. -/
def isOver : Token → Bool
  | .version _ _ | .tagPrefix _ _ | .documentStart | .documentEnd | .streamEnd => true
  | _ => false

/-- The first document of a stream; a stream without any stands for nothing at all. -/
def first (r : Reader) : Part Tree :=
  let fuel := 4 * r.tokens.length + 4
  match r.peek with
  | .error fault => .broken fault
  | .ok t => match t.token with
    | .version _ _ | .tagPrefix _ _ | .documentStart => match directives false fuel r with
      | .error fault => .broken fault
      | .ok r => match r.peek with
        | .error fault => .broken fault
        | .ok t => if isOver t.token then (empty t.start, some r) else node true false 0 fuel r
    | .streamEnd => (empty t.start, some r)
    | _ => node true false 0 fuel r

def several : Decode.Error :=
  .of (.malformed "deserializing from YAML containing more than one document is not supported")

/-- Nothing may follow the first document. -/
def ending (r : Reader) : Except Decode.Error Unit := do
  let _ ← r.peek.mapError Fault.error
  match r.tokens.dropWhile (·.token = .documentEnd) with
  | t :: _ => if t.token = .streamEnd then return () else .error several
  | [] => .error several

/-- A character that may not stand in a text, by the bytes in front of it. -/
def forbidden? (cs : List Char) : Option Nat :=
  match cs.dropWhile isPermitted with
  | [] => none
  | _ => some ((cs.takeWhile isPermitted).foldl (fun n c => n + c.utf8Size) 0)

end Document

/-- Decodes the only document of a text. -/
def decode {α : Type} (decoder : Decode.Decoder α) (text : String) : Except Decode.Error α := do
  if let some place := Document.forbidden? text.toList then
    let suffix := if place = 0 then "" else " at position " ++ toString place
    .error (.of (.malformed ("control characters are not allowed" ++ suffix)))
  let (tokens, fault) := tokens text
  let (tree, next) := Document.first { tokens, fault }
  let result ← decoder tree
  if let some r := next then Document.ending r
  return result

end Automation.Yaml
