import Automation.Yaml.Label

/-!
From text to tokens. Whether a scalar is the key of a mapping shows only at the colon behind it: the
lexer keeps an empty slot in front of what may turn out to be a key, and fills it then.
-/
namespace Automation.Yaml

/-- What may turn out to be a key; `slot` is the place in front of it. -/
structure SimpleKey where
  slot : Nat
  /-- Nothing else can stand here. -/
  required : Bool
  index : Nat
  mark : Mark

structure Lexer where
  cursor : Cursor
  pieces : Array (List Placed) := #[]
  /-- Column of the innermost block. -/
  indent : Int := -1
  /-- Columns of the blocks around it. -/
  outer : List Int := []
  /-- What may be a key at each level of brackets, the innermost first. -/
  keys : List (Option SimpleKey) := [none]
  keyAllowed : Bool := true
  finished : Bool := false

namespace Lexer

variable (l : Lexer)

def inFlow : Bool := l.keys.length > 1

def fault {α : Type} (problem : String) (context : Option (String × Mark)) : Except Fault α :=
  .error (l.cursor.fault problem context)

def push (token : Token) (next : Cursor) : Lexer :=
  { l with
    pieces := l.pieces.push [⟨token, l.cursor.mark, next.mark⟩]
    cursor := next }

private def missingColon {α : Type} (key : SimpleKey) : Except Fault α :=
  l.fault "could not find expected ':'" (some ("while scanning a simple key", key.mark))

/-- A key ends in the line it begins in, and is not too long. -/
def isStale (key : SimpleKey) : Bool :=
  key.mark.line < l.cursor.mark.line || key.index + 1024 < l.cursor.index

/-- Forgets what can no longer be a key. -/
def dropStale : Except Fault Lexer := do
  let keys ← l.keys.mapM fun
    | some key =>
      if !l.isStale key then .ok (some key)
      else if key.required then l.missingColon key
      else .ok none
    | none => .ok none
  return { l with keys }

def setKey (key : Option SimpleKey) : Lexer := { l with keys := key :: l.keys.tail }

def removeKey : Except Fault Lexer :=
  match l.keys.head?.join with
  | some key => if key.required then l.missingColon key else .ok (l.setKey none)
  | none => .ok l

/-- What follows may be a key. -/
def saveKey : Except Fault Lexer := do
  if !l.keyAllowed then return l
  let cleared ← l.removeKey
  let required := !l.inFlow && l.indent = l.cursor.column
  let key : SimpleKey := ⟨l.pieces.size, required, l.cursor.index, l.cursor.mark⟩
  return { cleared.setKey (some key) with pieces := l.pieces.push [] }

/-- Ends the blocks to the right of a column. -/
def unroll (column : Int) : Lexer :=
  if l.inFlow then l else close l.indent l.outer l.pieces
where
  close (indent : Int) : List Int → Array (List Placed) → Lexer
    | [], pieces => { l with indent, outer := [], pieces }
    | next :: rest, pieces =>
      if indent ≤ column then { l with indent, outer := next :: rest, pieces }
      else close next rest (pieces.push [⟨.blockEnd, l.cursor.mark, l.cursor.mark⟩])

/-- Begins a block at a column if it is to the right of the innermost one. -/
def roll (column : Nat) (token : Token) (mark : Mark) : Lexer × List Placed :=
  if l.inFlow || column ≤ l.indent then (l, [])
  else ({ l with indent := column, outer := l.indent :: l.outer }, [⟨token, mark, mark⟩])

/-- Begins a block here for the sign of an item, a key or a value. -/
def rollHere (token : Token) (refusal : String) : Except Fault Lexer := do
  if l.inFlow then return l
  if !l.keyAllowed then l.fault refusal none
  let (rolled, start) := l.roll l.cursor.column token l.cursor.mark
  return { rolled with pieces := rolled.pieces.push start }

/-- Skips blanks, comments and empty lines. -/
def skipGap : Nat → Lexer → Lexer
  | 0, l => l
  | fuel + 1, l =>
    let c := if l.cursor.index = 0 ∧ l.cursor.rest.head? = some '\uFEFF' then l.cursor.advance 1
      else l.cursor
    let tabs := l.inFlow || !l.keyAllowed
    let c := c.skipWhile fun d => d == ' ' || (tabs && d == '\t')
    let c := if c.rest.head? = some '#' then c.skipWhile (!isBreak ·) else c
    match c.lineBreak? with
    | some (_, next) =>
      skipGap fuel { l with cursor := next, keyAllowed := !l.inFlow || l.keyAllowed }
    | none => { l with cursor := c }

/-- Nothing that stands here can be a key, and nothing right behind it. -/
private def closed : Except Fault Lexer := do
  let l ← (l.unroll (-1)).removeKey
  return { l with keyAllowed := false }

private def streamEnd : Except Fault Lexer := do
  let mark := l.cursor.mark
  let c := if mark.column = 0 then l.cursor else { l.cursor with mark := ⟨mark.line + 1, 0⟩ }
  let l ← closed { l with cursor := c }
  return { l.push .streamEnd c with finished := true }

private def openBracket (token : Token) : Except Fault Lexer := do
  let l ← l.saveKey
  return { l.push token (l.cursor.advance 1) with keys := none :: l.keys, keyAllowed := true }

private def closeBracket (token : Token) : Except Fault Lexer := do
  let l ← l.removeKey
  let keys := if l.inFlow then l.keys.tail else l.keys
  return { l.push token (l.cursor.advance 1) with keys, keyAllowed := false }

/-- A sign of one character. -/
private def sign (token : Token) (keyAllowed : Bool) : Except Fault Lexer := do
  let l ← l.removeKey
  return { l.push token (l.cursor.advance 1) with keyAllowed }

private def item : Except Fault Lexer := do
  let l ← l.rollHere .blockSequence "block sequence entries are not allowed in this context"
  l.sign .item true

private def explicitKey : Except Fault Lexer := do
  let l ← l.rollHere .blockMapping "mapping keys are not allowed in this context"
  l.sign .key !l.inFlow

private def value : Except Fault Lexer := do
  match l.keys.head?.join with
  | some key =>
    let (l, start) := l.roll key.mark.column .blockMapping key.mark
    let l := l.setKey none
    let pieces := l.pieces.setIfInBounds key.slot (start ++ [⟨.key, key.mark, key.mark⟩])
    let l := { l with pieces, keyAllowed := false }
    return l.push .value (l.cursor.advance 1)
  | none =>
    let l ← l.rollHere .blockMapping "mapping values are not allowed in this context"
    return { l.push .value (l.cursor.advance 1) with keyAllowed := !l.inFlow }

private def label (read : Cursor → Read) : Except Fault Lexer := do
  let l ← l.saveKey
  let (token, next) ← read l.cursor
  return { l.push token next with keyAllowed := false }

private def scalar (isPlain : Bool) (read : Except Fault (Scanned × Bool)) :
    Except Fault Lexer := do
  let (scanned, keyAllowed) ← read
  return { l.push (.scalar (String.ofList scanned.text) isPlain) scanned.cursor with keyAllowed }

private def block (literal : Bool) : Except Fault Lexer := do
  let l ← l.removeKey
  l.scalar false ((Block.scan literal l.indent l.cursor.mark (l.cursor.advance 1)).map (·, true))

private def quoted (single : Bool) : Except Fault Lexer := do
  let l ← l.saveKey
  let c := l.cursor.advance 1
  l.scalar false ((Quoted.scan single l.cursor.mark (c.rest.length + 1) [] false c).map (·, false))

private def plain : Except Fault Lexer := do
  let l ← l.saveKey
  let c := l.cursor
  l.scalar true
    (Plain.scanWords l.inFlow (l.indent + 1).toNat c.mark c.rest.length [] {} c)

/-- Characters that begin something else than a plain scalar. -/
def signs : List Char := "-?:,[]\x7b\x7d#&*!|>\x27\"%@\x60".toList

/-- A plain scalar may begin with these characters. -/
def beginsPlain (inFlow : Bool) : List Char → Bool
  | [] => false
  | c :: rest =>
    !(isBlank c || isBreak c || signs.contains c) ||
      (c == '-' && !rest.head?.any isBlank) ||
      (!inFlow && (c == '?' || c == ':') && !endsWord rest)

/-- Reads the next token. -/
def next : Except Fault Lexer := do
  let l ← l.dropStale
  let l ← (skipGap (l.cursor.rest.length + 1) l).dropStale
  let l := l.unroll l.cursor.column
  let c := l.cursor
  if c.isDivider '-' || c.isDivider '.' then
    let token := if c.isDivider '-' then Token.documentStart else .documentEnd
    let l ← l.closed
    return l.push token (c.advance 3)
  match c.rest with
  | [] => l.streamEnd
  | '[' :: _ => l.openBracket .flowSequence
  | ']' :: _ => l.closeBracket .flowSequenceEnd
  | '\x7b' :: _ => l.openBracket .flowMapping
  | '\x7d' :: _ => l.closeBracket .flowMappingEnd
  | ',' :: _ => l.sign .separator true
  | '*' :: _ => l.label Label.reference
  | '&' :: _ => l.label Label.anchor
  | '!' :: _ => l.label (Label.tag l.inFlow)
  | '"' :: _ => l.quoted false
  | '\x27' :: _ => l.quoted true
  | d :: rest =>
    if d = '%' ∧ c.column = 0 then
      let l ← l.closed
      let (token, behind) ← Label.directive c
      return l.push token behind
    if d = '-' ∧ endsWord rest then l.item
    else if d = '?' ∧ (l.inFlow ∨ endsWord rest) then l.explicitKey
    else if d = ':' ∧ (l.inFlow ∨ endsWord rest) then l.value
    else if (d = '|' ∨ d = '>') ∧ !l.inFlow then l.block (d = '|')
    else if beginsPlain l.inFlow c.rest then l.plain
    else
      l.fault "found character that cannot start any token"
        (some ("while scanning for the next token", c.mark))

/-- The tokens in front of the first one that may still become a key. -/
def settled : List Placed :=
  let slots := l.keys.filterMap fun key =>
    (key.filter fun key => key.required || !l.isStale key).map (·.slot)
  (l.pieces.toList.take (slots.foldl min l.pieces.size)).flatten

/-- All tokens, or those in front of a fault. -/
def tokens : Nat → Lexer → List Placed × Option Fault
  | 0, l => (l.settled, none)
  | fuel + 1, l => match l.next with
    | .ok l => if l.finished then (l.pieces.toList.flatten, none) else tokens fuel l
    | .error fault => (l.settled, some fault)

end Lexer

/-- Whether a character may stand in a document. -/
def isPermitted (c : Char) : Bool :=
  let n := c.toNat
  n = 0x09 || n = 0x0A || n = 0x0D || (0x20 ≤ n && n ≤ 0x7E) || n = 0x85 ||
    (0xA0 ≤ n && n ≤ 0xD7FF) || (0xE000 ≤ n && n ≤ 0xFFFD) || 0x10000 ≤ n

def tokens (text : String) : List Placed × Option Fault :=
  Lexer.tokens (text.length + 2) { cursor := { rest := text.toList } }

end Automation.Yaml
