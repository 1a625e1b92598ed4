/-!
Cutting texts at a separator character, and plain substring tests.
-/
namespace Automation.Text

/-- The parts before and after the first `sep`, if there is one. -/
def cutFirst (sep : Char) : List Char → Option (List Char × List Char)
  | [] => none
  | c :: rest =>
    if c = sep then some ([], rest)
    else (cutFirst sep rest).map fun (before, after) => (c :: before, after)

/-- All pieces between separators; there is always at least one. -/
def pieces (sep : Char) : List Char → List (List Char)
  | [] => [[]]
  | c :: rest =>
    if c = sep then [] :: pieces sep rest
    else match pieces sep rest with
      | [] => [[c]]
      | piece :: others => (c :: piece) :: others

/-- `cutFirst` on strings. -/
def splitOnce (sep : Char) (s : String) : Option (String × String) :=
  (cutFirst sep s.toList).map fun (before, after) => (String.ofList before, String.ofList after)

def splitAll (sep : Char) (s : String) : List String :=
  (pieces sep s.toList).map String.ofList

/-- `part` occurs in `whole` as an unbroken run. -/
def contains (whole part : List Char) : Bool :=
  match whole with
  | [] => part.isEmpty
  | c :: rest => part.isPrefixOf (c :: rest) || contains rest part

def replaceChar (old new : Char) (cs : List Char) : List Char :=
  cs.map fun c => if c = old then new else c

def count (c : Char) (cs : List Char) : Nat := cs.count c

/-- Number of bytes in UTF-8. -/
def utf8Size (s : String) : Nat := s.utf8ByteSize

end Automation.Text
