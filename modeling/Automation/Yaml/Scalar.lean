import Automation.Yaml.Cursor

/-!
Scalars as they are written: plain, in quotes, or as a block of lines.
-/
namespace Automation.Yaml

/-- A scalar that was read, and the place behind it. -/
structure Scanned where
  text : List Char
  cursor : Cursor

namespace Plain

def context (start : Mark) : String × Mark := ("while scanning a plain scalar", start)

def isFlowSign (c : Char) : Bool := [',', '[', ']', '\x7b', '\x7d'].contains c

/-- The characters up to one that ends a plain scalar, or a blank. -/
def word (flow : Bool) : List Char → List Char
  | [] => []
  | c :: rest =>
    if isBlank c || isBreak c || (c == ':' && endsWord rest) || (flow && isFlowSign c) then []
    else c :: word flow rest

/-- A colon that may not stand in front of what follows, counted from the start of a word. -/
def strayColon? : List Char → List Char → Option Nat
  | [], _ => none
  | ':' :: more, _ :: rest =>
    if rest.head?.any fun c => c == '?' || isFlowSign c then some 0
    else (strayColon? more rest).map (· + 1)
  | _ :: more, rest => (strayColon? more rest.tail).map (· + 1)

/-- Reads words and the gaps between them. Also tells whether a line ended behind the last word. -/
def scanWords (flow : Bool) (indent : Nat) (start : Mark) :
    Nat → List Char → Gap → Cursor → Except Fault (Scanned × Bool)
  | 0, text, gap, c => .ok (⟨text, c⟩, gap.isBroken)
  | fuel + 1, text, gap, c => do
    if c.atDivider || c.rest.head? == some '#' then return (⟨text, c⟩, gap.isBroken)
    let piece := word flow c.rest
    if piece.isEmpty then
      if flow && c.rest.head? == some ':' && (strayColon? [':'] c.rest).isSome then
        .error (c.fault "found unexpected ':'" (context start))
      return (⟨text, c⟩, gap.isBroken)
    if flow then
      if let some n := strayColon? piece c.rest then
        .error ((c.advance n).fault "found unexpected ':'" (context start))
    let text := text ++ gap.fold ++ piece
    let behind := c.advance piece.length
    if !behind.rest.isEmpty && endsWord behind.rest then
      let (gap, next) ← Gap.scan indent (context start) behind.rest.length {} behind
      if !flow && next.column < indent then return (⟨text, next⟩, gap.isBroken)
      scanWords flow indent start fuel text gap next
    else return (⟨text, behind⟩, false)

end Plain

namespace Quoted

def context (start : Mark) : String × Mark := ("while scanning a quoted scalar", start)

private def escapeContext (start : Mark) : String × Mark := ("while parsing a quoted scalar", start)

private def hexValue? (c : Char) : Option Nat :=
  if c.isDigit then some (c.toNat - 48)
  else if 'a' ≤ c ∧ c ≤ 'f' then some (c.toNat - 87)
  else if 'A' ≤ c ∧ c ≤ 'F' then some (c.toNat - 55)
  else none

/-- Characters that stand behind a backslash for others. -/
def escapes : List (Char × Nat) :=
  [('0', 0), ('a', 7), ('b', 8), ('t', 9), ('\t', 9), ('n', 10), ('v', 11), ('f', 12), ('r', 13),
    ('e', 27), (' ', 32), ('"', 34), ('/', 47), ('\\', 92), ('N', 0x85), ('_', 0xA0),
    ('L', 0x2028), ('P', 0x2029)]

/-- How many hexadecimal digits follow. -/
def codeLength? : Char → Option Nat
  | 'x' => some 2
  | 'u' => some 4
  | 'U' => some 8
  | _ => none

/-- The character that a backslash begins. -/
def escape (start : Mark) (c : Cursor) : Except Fault (Char × Cursor) :=
  let failed (c : Cursor) (problem : String) : Except Fault (Char × Cursor) :=
    .error (c.fault problem (escapeContext start))
  match c.rest with
  | _ :: sign :: rest => match escapes.lookup sign with
    | some code => .ok (Char.ofNat code, c.advance 2)
    | none => match codeLength? sign with
      | none => failed c "found unknown escape character"
      | some n => match (rest.take n).mapM hexValue? with
        | none => failed (c.advance 2) "did not find expected hexdecimal number"
        | some digits =>
          let code := digits.foldl (fun code digit => code * 16 + digit) 0
          if digits.length < n then failed (c.advance 2) "did not find expected hexdecimal number"
          else if (0xD800 ≤ code ∧ code ≤ 0xDFFF) ∨ 0x10FFFF < code then
            failed (c.advance 2) "found invalid Unicode character escape code"
          else .ok (Char.ofNat code, c.advance (2 + n))
  | _ => failed c "found unknown escape character"

/-- Reads up to the closing quote, which it skips. `joined` tells that an escaped line break has
just been read, behind which the blanks of the next line do not count. -/
def scan (single : Bool) (start : Mark) :
    Nat → List Char → Bool → Cursor → Except Fault Scanned
  | 0, _, _, c => .error (c.fault "found unexpected end of stream" (context start))
  | fuel + 1, text, joined, c => do
    if c.atDivider then .error (c.fault "found unexpected document indicator" (context start))
    match c.rest with
    | [] => .error (c.fault "found unexpected end of stream" (context start))
    | '\'' :: '\'' :: _ =>
      if single then scan single start fuel (text ++ ['\'']) false (c.advance 2)
      else scan single start fuel (text ++ ['\'']) false (c.advance 1)
    | b :: rest =>
      if b = (if single then '\'' else '"') then return ⟨text, c.advance 1⟩
      else if isBlank b || isBreak b then
        let (gap, next) ← Gap.scan 0 (context start) c.rest.length {} c
        let between :=
          if !joined then gap.fold else if gap.isBroken then gap.breaks else []
        scan single start fuel (text ++ between) false next
      else if !single && b = '\\' then
        if rest.head?.any isBreak then
          match (c.advance 1).lineBreak? with
          | some (_, next) => scan single start fuel text true next
          | none => .error (c.fault "found unknown escape character" (escapeContext start))
        else
          let (e, next) ← escape start c
          scan single start fuel (text ++ [e]) false next
      else scan single start fuel (text ++ [b]) false (c.advance 1)

end Quoted

namespace Block

def context (start : Mark) : String × Mark := ("while scanning a block scalar", start)

/-- What becomes of the line breaks at the end. -/
inductive Chomping where
  | strip
  | clip
  | keep
  deriving DecidableEq

private def sign? : List Char → Option Chomping
  | '+' :: _ => some .keep
  | '-' :: _ => some .strip
  | _ => none

private def digit? (c : Cursor) (start : Mark) : Except Fault (Option Nat) :=
  match c.rest with
  | '0' :: _ =>
    .error (c.fault "found an indentation indicator equal to 0" (context start))
  | d :: _ => .ok (if d.isDigit then some (d.toNat - 48) else none)
  | [] => .ok none

/-- Indicators behind the one that begins the block, in either order. -/
def indicators (start : Mark) (c : Cursor) :
    Except Fault (Chomping × Option Nat × Cursor) := do
  match sign? c.rest with
  | some chomping =>
    let digit ← digit? (c.advance 1) start
    return (chomping, digit, c.advance (if digit.isSome then 2 else 1))
  | none =>
    let digit ← digit? c start
    let c := c.advance (if digit.isSome then 1 else 0)
    match digit, sign? c.rest with
    | some _, some chomping => return (chomping, digit, c.advance 1)
    | _, _ => return (.clip, digit, c)

/-- Skips empty lines up to the given column, or any column where none is given yet. Gives their
line breaks and the largest column seen. -/
def emptyLines (indent : Option Nat) (start : Mark) :
    Nat → List Char → Nat → Cursor → Except Fault (List Char × Nat × Cursor)
  | 0, breaks, widest, c => .ok (breaks, widest, c)
  | fuel + 1, breaks, widest, c =>
    let room := match indent with
      | some n => n - c.column
      | none => c.rest.length
    let c := c.advance ((c.rest.take room).takeWhile (· == ' ')).length
    let widest := max widest c.column
    let inside := match indent with
      | some n => c.column < n
      | none => true
    if inside && c.rest.head? == some '\t' then
      .error (c.fault "found a tab character where an indentation space is expected"
        (context start))
    else match c.lineBreak? with
      | some (b, next) => emptyLines indent start fuel (breaks ++ [b]) widest next
      | none => .ok (breaks, widest, c)

/-- The break behind the last line and the empty lines behind that. -/
structure Tail where
  last : List Char
  empty : List Char

/-- Reads the lines that stand at the indentation of the block. -/
def lines (literal : Bool) (indent : Nat) (start : Mark) :
    Nat → List Char → Tail → Bool → Cursor → Except Fault (List Char × Tail × Cursor)
  | 0, text, tail, _, c => .ok (text, tail, c)
  | fuel + 1, text, tail, afterBlank, c => do
    if c.column ≠ indent || c.rest.isEmpty then return (text, tail, c)
    let blank := c.rest.head?.any isBlank
    let joint :=
      if !literal && tail.last == ['\n'] && !afterBlank && !blank then
        if tail.empty.isEmpty then [' '] else tail.empty
      else tail.last ++ tail.empty
    let line := c.rest.takeWhile (!isBreak ·)
    let behind := c.advance line.length
    let (last, next) := match behind.lineBreak? with
      | some (b, next) => ([b], next)
      | none => ([], behind)
    let (empty, _, next) ← emptyLines (some indent) start next.rest.length [] 0 next
    lines literal indent start fuel (text ++ joint ++ line) ⟨last, empty⟩ blank next

/-- Reads a block behind the character that begins it; `outer` is the column around it. -/
def scan (literal : Bool) (outer : Int) (start : Mark) (c : Cursor) : Except Fault Scanned := do
  let (chomping, digit, c) ← indicators start c
  let c := c.skipWhile isBlank
  let c := if c.rest.head? == some '#' then c.skipWhile (!isBreak ·) else c
  let c ← match c.lineBreak? with
    | some (_, next) => .ok next
    | none =>
      if c.rest.isEmpty then .ok c
      else .error (c.fault "did not find expected comment or line break" (context start))
  let given := digit.map fun n => outer.toNat + n
  let (breaks, widest, c) ← emptyLines given start (c.rest.length + 1) [] 0 c
  let indent := given.getD (max widest (max 1 (outer + 1).toNat))
  let (text, tail, c) ← lines literal indent start c.rest.length [] ⟨[], breaks⟩ false c
  let ending := match chomping with
    | .strip => []
    | .clip => tail.last
    | .keep => tail.last ++ tail.empty
  return ⟨text ++ ending, c⟩

end Block
end Automation.Yaml
