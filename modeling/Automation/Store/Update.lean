import Automation.Json.View
import Automation.Store.Document

/-!
Changes to one document as a single write, and look-ups by equality.

A path of an update is a field of the document, or the key of an object in one: all behind the first
point is the key.
-/
namespace Automation

/-- Nothing is written unless every expected value is there. -/
structure DocumentUpdate where
  set : Json.Members := []
  unset : List String := []
  expect : List (String × Json.Value) := []
  deriving DecidableEq

/-- The document has an equal value at the path. -/
def Document.agrees (doc : Document) (path : String) (value : Json.Value) : Bool :=
  (doc.get? path).any (·.same value)

namespace DocumentUpdate

def isExpected (u : DocumentUpdate) (doc : Document) : Bool :=
  u.expect.all fun (path, value) => doc.agrees path value

/-- Removes what is at a path. -/
def unsetPath (fields : Json.Members) (path : String) : Json.Members :=
  match Text.splitOnce '.' path with
  | some (parent, child) => match fields.get? parent with
    | some (.object members) => fields.insert parent (.object (Json.Members.erase child members))
    | _ => fields
  | none => fields.erase path

/-- Puts a value at a path. A parent that is no object becomes one; fields of the store are kept. -/
def setPath (fields : Json.Members) (path : String) (value : Json.Value) : Json.Members :=
  match Text.splitOnce '.' path with
  | some (parent, child) =>
    let members := ((fields.get? parent).bind (·.asObject?)).getD []
    fields.insert parent (.object (Json.Members.insert child value members))
  | none => if path = idField ∨ path = creationTimeField then fields else fields.insert path value

/-- Removals come first, so that a path that is set has its value in the end. -/
def applyFields (u : DocumentUpdate) (fields : Json.Members) : Json.Members :=
  u.set.foldl (fun fields (path, value) => setPath fields path value)
    (u.unset.foldl unsetPath fields)

/-- The changed document, unless an expected value is missing. -/
def applyTo? (u : DocumentUpdate) (doc : Document) : Option Document :=
  if u.isExpected doc then some { doc with fields := u.applyFields doc.fields } else none

end DocumentUpdate

/-- Documents with an equal value at every path, at most `limit` of them. -/
structure Query where
  filters : List (String × Json.Value) := []
  limit : Option Nat := none
  deriving DecidableEq

namespace Query

def byText (pairs : List (String × String)) : Query :=
  { filters := pairs.map fun (path, text) => (path, .string text) }

def accepts (q : Query) (doc : Document) : Bool :=
  q.filters.all fun (path, value) => doc.agrees path value

def select (q : Query) (docs : List Document) : List Document :=
  let found := docs.filter q.accepts
  match q.limit with
  | some n => found.take n
  | none => found

end Query
end Automation
