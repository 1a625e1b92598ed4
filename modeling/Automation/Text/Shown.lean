import Automation.Text.HiddenRanges

/-!
Texts in quotes as messages show them, with every character visible.
-/
namespace Automation.Text

/-- Not visible on its own. -/
def isHidden (c : Char) : Bool :=
  let n := c.toNat
  if n < 127 then n < 32 else hiddenRanges.any fun (low, high) => low ≤ n && n ≤ high

private def codeEscape (c : Char) : List Char :=
  '\\' :: 'u' :: '\x7b' :: Nat.toDigits 16 c.toNat ++ ['\x7d']

/-- One character inside the quotes. -/
def shownChar (c : Char) : List Char :=
  match c with
  | '"' => ['\\', '"']
  | '\\' => ['\\', '\\']
  | '\n' => ['\\', 'n']
  | '\r' => ['\\', 'r']
  | '\t' => ['\\', 't']
  | c => if c.toNat = 0 then ['\\', '0'] else if isHidden c then codeEscape c else [c]

def shown (text : String) : String :=
  String.ofList ('"' :: text.toList.flatMap shownChar ++ ['"'])

end Automation.Text
