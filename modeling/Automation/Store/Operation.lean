import Automation.Store.Memory

/-!
The operations of a store as values, and what a store in memory answers to them.
-/
namespace Automation

inductive StoreOp where
  | get (table : Table) (id : String)
  | query (table : Table) (query : Query)
  | insert (table : Table) (fields : Json.Members)
  | update (table : Table) (id : String) (update : DocumentUpdate)
  | delete (table : Table) (id : String)
  deriving DecidableEq

namespace StoreOp

/-- What an operation answers when it succeeds. -/
abbrev Answer : StoreOp → Type
  | get _ _ => Option Document
  | query _ _ => List Document
  | insert _ _ => String
  | update _ _ _ => Bool
  | delete _ _ => Unit

def table : StoreOp → Table
  | get table _ | query table _ | insert table _ | update table _ _ | delete table _ => table

/-- The document an operation is about, if it names one. -/
def id? : StoreOp → Option String
  | get _ id | update _ id _ | delete _ id => some id
  | query _ _ | insert _ _ => none

end StoreOp

namespace MemoryStore

/-- The answer to an operation and the store behind it. -/
def perform (store : MemoryStore) (stamp : Stamp) :
    (op : StoreOp) → Except StoreError op.Answer × MemoryStore
  | .get table id => (.ok (store.get? table id), store)
  | .query table q => (.ok (store.query table q), store)
  | .insert table fields =>
    let (id, store) := store.insert stamp table fields
    (.ok id, store)
  | .update table id u => match store.update table id u with
    | .ok (applied, store) => (.ok applied, store)
    | .error e => (.error e, store)
  | .delete table id => match store.delete table id with
    | .ok store => (.ok (), store)
    | .error e => (.error e, store)

end MemoryStore
end Automation
