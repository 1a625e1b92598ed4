import Automation.Decode.Error

/-!
A place in the text of a document, and what can be wrong there.
-/
namespace Automation.Yaml

abbrev Mark := Decode.Mark

/-- What is wrong with a document, where, and in the midst of what. -/
structure Fault where
  problem : String
  mark : Mark
  context : Option (String × Mark) := none
  deriving DecidableEq

def Fault.message (f : Fault) : String :=
  f.problem ++ f.mark.suffix ++ match f.context with
    | none => ""
    | some (text, mark) => ", " ++ text ++ if mark = f.mark then "" else mark.suffix

def isBlank (c : Char) : Bool := c == ' ' || c == '\t'

/-- Ends a line. -/
def isBreak (c : Char) : Bool :=
  c == '\n' || c == '\r' || c.toNat == 0x85 || c.toNat == 0x2028 || c.toNat == 0x2029

/-- The text ends here, or a line does, or there is a blank. -/
def endsWord : List Char → Bool
  | [] => true
  | c :: _ => isBlank c || isBreak c

structure Cursor where
  rest : List Char
  index : Nat := 0
  mark : Mark := ⟨0, 0⟩

namespace Cursor

def column (c : Cursor) : Nat := c.mark.column

/-- Some characters further on in the same line. -/
def advance (c : Cursor) (n : Nat) : Cursor where
  rest := c.rest.drop n
  index := c.index + n
  mark := { c.mark with column := c.mark.column + n }

/-- Past the characters on which `p` holds, none of which ends a line. -/
def skipWhile (c : Cursor) (p : Char → Bool) : Cursor := c.advance (c.rest.takeWhile p).length

/-- The line break here as it counts in a text, and the place behind it. -/
def lineBreak? (c : Cursor) : Option (Char × Cursor) :=
  let next (n : Nat) : Cursor := ⟨c.rest.drop n, c.index + n, ⟨c.mark.line + 1, 0⟩⟩
  match c.rest with
  | '\r' :: '\n' :: _ => some ('\n', next 2)
  | b :: _ =>
    if isBreak b then some (if b.toNat = 0x2028 ∨ b.toNat = 0x2029 then b else '\n', next 1)
    else none
  | [] => none

def fault (c : Cursor) (problem : String) (context : Option (String × Mark)) : Fault :=
  ⟨problem, c.mark, context⟩

/-- Three characters at the start of a line that divide documents. -/
def isDivider (c : Cursor) (sign : Char) : Bool :=
  c.column == 0 && match c.rest with
    | a :: b :: d :: rest => a == sign && b == sign && d == sign && endsWord rest
    | _ => false

def atDivider (c : Cursor) : Bool := c.isDivider '-' || c.isDivider '.'

end Cursor
end Automation.Yaml

/-!
Blanks and line breaks inside a scalar. A single line break counts as one blank.
-/
namespace Automation.Yaml

/-- Blanks in front of the first line break, and all line breaks. -/
structure Gap where
  blanks : List Char := []
  breaks : List Char := []

namespace Gap

def isBroken (gap : Gap) : Bool := !gap.breaks.isEmpty

/-- What a gap adds to the text around it. -/
def fold (gap : Gap) : List Char :=
  match gap.breaks with
  | [] => gap.blanks
  | ['\n'] => [' ']
  | '\n' :: more => more
  | breaks => breaks

/-- Reads on to the next character that is neither blank nor ends a line. Tabs may not stand in for
the first `indent` columns of a line; `fuel` bounds the length. -/
def scan (indent : Nat) (context : String × Mark) :
    Nat → Gap → Cursor → Except Fault (Gap × Cursor)
  | 0, gap, c => .ok (gap, c)
  | fuel + 1, gap, c => match c.lineBreak? with
    | some (b, next) => scan indent context fuel { gap with breaks := gap.breaks ++ [b] } next
    | none => match c.rest with
      | b :: _ =>
        if !isBlank b then .ok (gap, c)
        else if gap.isBroken then
          if b = '\t' ∧ c.column < indent then
            .error (c.fault "found a tab character that violates indentation" context)
          else scan indent context fuel gap (c.advance 1)
        else scan indent context fuel { gap with blanks := gap.blanks ++ [b] } (c.advance 1)
      | [] => .ok (gap, c)

end Gap
end Automation.Yaml
