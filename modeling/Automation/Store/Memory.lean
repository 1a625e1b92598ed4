import Automation.Store.Update
import Automation.Time.Instant

/-!
A store in memory: each table is a list of documents in the order in which their ids were first
inserted.
-/
namespace Automation

/-- `issued` counts the ids that have been made up so far. -/
structure MemoryStore where
  objectTypes : List Document := []
  records : List Document := []
  lists : List Document := []
  listEntries : List Document := []
  actions : List Document := []
  actionExecutions : List Document := []
  auditLogs : List Document := []
  webhookLogs : List Document := []
  issued : Nat := 0
  deriving DecidableEq

/-- Where new documents get their ids and creation times from. -/
structure Stamp where
  idAt : Nat → String
  now : Time.Instant

namespace MemoryStore

def docs (store : MemoryStore) : Table → List Document
  | .objectTypes => store.objectTypes
  | .records => store.records
  | .lists => store.lists
  | .listEntries => store.listEntries
  | .actions => store.actions
  | .actionExecutions => store.actionExecutions
  | .auditLogs => store.auditLogs
  | .webhookLogs => store.webhookLogs

def setDocs (store : MemoryStore) (table : Table) (docs : List Document) : MemoryStore :=
  match table with
  | .objectTypes => { store with objectTypes := docs }
  | .records => { store with records := docs }
  | .lists => { store with lists := docs }
  | .listEntries => { store with listEntries := docs }
  | .actions => { store with actions := docs }
  | .actionExecutions => { store with actionExecutions := docs }
  | .auditLogs => { store with auditLogs := docs }
  | .webhookLogs => { store with webhookLogs := docs }

@[simp] theorem docs_setDocs_self (store : MemoryStore) (table : Table) (docs : List Document) :
    (store.setDocs table docs).docs table = docs := by
  cases table <;> rfl

theorem docs_setDocs_of_ne (store : MemoryStore) {table other : Table} (docs : List Document)
    (h : other ≠ table) : (store.setDocs table docs).docs other = store.docs other := by
  cases table <;> cases other <;> first | rfl | exact absurd rfl h

@[simp] theorem issued_setDocs (store : MemoryStore) (table : Table) (docs : List Document) :
    (store.setDocs table docs).issued = store.issued := by
  cases table <;> rfl

/-- A document takes the place of one with its id, or else the last place. -/
def place (doc : Document) : List Document → List Document
  | [] => [doc]
  | d :: rest => if d.id = doc.id then doc :: rest else d :: place doc rest

def get? (store : MemoryStore) (table : Table) (id : String) : Option Document :=
  (store.docs table).find? (·.id == id)

def query (store : MemoryStore) (table : Table) (q : Query) : List Document :=
  q.select (store.docs table)

/-- A document of the fields, with an id and a creation time made up where the fields have none. -/
def newDocument (store : MemoryStore) (stamp : Stamp) (fields : Json.Members) :
    Document × MemoryStore :=
  let own := Document.withoutSystemFields fields
  let creationTime :=
    ((fields.get? creationTimeField).bind (·.asInt64?)).getD stamp.now.toMilliseconds
  match fields.get? idField with
  | some (.string id) => (⟨id, creationTime, own⟩, store)
  | _ => (⟨stamp.idAt store.issued, creationTime, own⟩, { store with issued := store.issued + 1 })

/-- Stores fields as a document of their own, with the id they bring along or a new one. -/
def add (store : MemoryStore) (stamp : Stamp) (table : Table) (fields : Json.Members) :
    String × MemoryStore :=
  let (doc, store) := store.newDocument stamp fields
  (doc.id, store.setDocs table (place doc (store.docs table)))

/-- Stores fields as a new document. -/
def insert (store : MemoryStore) (stamp : Stamp) (table : Table) (fields : Json.Members) :
    String × MemoryStore :=
  store.add stamp table (Document.withoutSystemFields fields)

/-- Whether the update was applied, and the store behind it. -/
def update (store : MemoryStore) (table : Table) (id : String) (u : DocumentUpdate) :
    Except StoreError (Bool × MemoryStore) :=
  match store.get? table id with
  | none => .error (.notFound table id)
  | some doc => match u.applyTo? doc with
    | none => .ok (false, store)
    | some changed => .ok (true, store.setDocs table (place changed (store.docs table)))

def delete (store : MemoryStore) (table : Table) (id : String) : Except StoreError MemoryStore :=
  match store.get? table id with
  | none => .error (.notFound table id)
  | some _ => .ok (store.setDocs table ((store.docs table).eraseP (·.id == id)))

def count (store : MemoryStore) (table : Table) : Nat := (store.docs table).length

end MemoryStore
end Automation
