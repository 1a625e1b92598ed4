import Automation.Context
import Automation.Json.View

/-!
Placeholders in the texts of a value. A placeholder is a path in double braces. A text that is
nothing but one placeholder becomes the value at the path; other placeholders become the text of
theirs. What was filled in is not looked at again.
-/
namespace Automation.Template

/-- The text before the first point and the text behind it. -/
def cutPath (path : String) : String × String := (Text.splitOnce '.' path).getD (path, "")

/-- The value of the triggering record at a path. -/
def recordPath? (record : RecordSnapshot) (path : String) : Option Json.Value :=
  let (field, nested) := cutPath path
  if field = "" then some record.toValue
  else if field = idField then some (.string record.id)
  else if field = creationTimeField then some (.ofInt record.creationTime)
  else (record.data.get? field).bind (·.lookup? nested)

/-- The output of an earlier step at a path that begins with the id of the step. -/
def variablePath? (outputs : Json.Members) (path : String) : Option Json.Value :=
  let (stepId, nested) := cutPath path
  if stepId = "" then none else (outputs.get? stepId).bind (·.lookup? nested)

/-- The value at a path, of which the first segment names the root. -/
def resolvePath? (ctx : Context) (path : String) : Option Json.Value :=
  let (root, rest) := cutPath (Text.trim path)
  if root = "record" then ctx.record.bind (recordPath? · rest)
  else if root = "previous" then ctx.previous.bind (·.lookup? rest)
  else if root = "variables" then variablePath? ctx.stepOutputs rest
  else if root = "loopItem" then ctx.loopItem.bind (·.lookup? rest)
  else if root = "loopIndex" then if rest = "" then ctx.loopIndex.map .ofNat else none
  else none

def isBrace (c : Char) : Bool := c == '\x7b' || c == '\x7d'

/-- The path of a placeholder that begins the text, and the text behind it. -/
def placeholder? : List Char → Option (List Char × List Char)
  | '\x7b' :: '\x7b' :: rest =>
    match rest.dropWhile (!isBrace ·) with
    | '\x7d' :: '\x7d' :: behind =>
      let path := rest.takeWhile (!isBrace ·)
      if path.isEmpty then none else some (path, behind)
    | _ => none
  | _ => none

theorem length_of_placeholder? {cs path behind : List Char}
    (h : placeholder? cs = some (path, behind)) : behind.length < cs.length := by
  unfold placeholder? at h
  split at h
  case h_2 => simp at h
  case h_1 rest =>
    split at h
    case h_2 => simp at h
    case h_1 behind' heq =>
      have hle := (List.dropWhile_sublist (l := rest) (!isBrace ·)).length_le
      rw [heq] at hle
      simp only [List.length_cons] at hle ⊢
      grind

/-- A text cut into placeholders and the characters between them. -/
inductive Piece where
  | literal (c : Char)
  | path (path : List Char)
  deriving DecidableEq

def pieces : List Char → List Piece
  | [] => []
  | c :: rest =>
    match _found : placeholder? (c :: rest) with
    | some (path, behind) => .path path :: pieces behind
    | none => .literal c :: pieces rest
termination_by cs => cs.length
decreasing_by
  · exact length_of_placeholder? _found
  · simp

/-- The text that stands for a piece; an undefined path is empty. -/
def Piece.toText (ctx : Context) : Piece → List Char
  | .literal c => [c]
  | .path p => (((resolvePath? ctx (String.ofList p)).map (·.toText)).getD "").toList

def resolveText (ctx : Context) (text : String) : Json.Value :=
  match pieces text.toList with
  | [.path path] => (resolvePath? ctx (String.ofList path)).getD .null
  | pieces => .string (String.ofList (pieces.flatMap (·.toText ctx)))

/-- The text may hold placeholders. -/
def isTemplate (text : String) : Bool := Text.contains text.toList ['\x7b', '\x7b']

mutual
def resolve (ctx : Context) : Json.Value → Json.Value
  | .string text => resolveText ctx text
  | .array items => .array (resolveItems ctx items)
  | .object members => .object (resolveMembers ctx members)
  | .null => .null
  | .bool b => .bool b
  | .number n => .number n
termination_by structural value => value

def resolveItems (ctx : Context) : List Json.Value → List Json.Value
  | [] => []
  | item :: rest => resolve ctx item :: resolveItems ctx rest
termination_by structural items => items

def resolveMembers (ctx : Context) : List (String × Json.Value) → List (String × Json.Value)
  | [] => []
  | (key, value) :: rest => (key, resolve ctx value) :: resolveMembers ctx rest
termination_by structural members => members
end

end Automation.Template
