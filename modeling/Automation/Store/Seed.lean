import Automation.Store.Memory
import Automation.Yaml.Document

/-!
What a store holds in the beginning.
-/
namespace Automation

structure SeedData where
  objectTypes : List Json.Members := []
  records : List Json.Members := []
  lists : List Json.Members := []
  listEntries : List Json.Members := []
  actions : List Json.Members := []
  deriving DecidableEq

namespace SeedData

def fields : Decode.Record SeedData :=
  let table (name : String) : Decode.Record (List Json.Members) :=
    .withDefault name [] (Decode.list Decode.members)
  SeedData.mk <$> table "objectTypes" <*> table "records" <*> table "lists" <*>
    table "listEntries" <*> table "actions"

/-- Tables of any other name are refused. -/
def decode : Decode.Decoder SeedData := fields.decodeStrict "struct SeedData"

/-- The seed that a document describes. -/
def parse (text : String) : Except StoreError SeedData :=
  (Yaml.decode decode text).mapError fun e => .serialization (e.message .document)

/-- The tables in the order in which they are filled. -/
def tables (seed : SeedData) : List (Table × List Json.Members) :=
  [(.objectTypes, seed.objectTypes), (.records, seed.records), (.lists, seed.lists),
    (.listEntries, seed.listEntries), (.actions, seed.actions)]

def encode (seed : SeedData) : Json.Value :=
  .ofPairs (seed.tables.map fun (table, docs) => (table.name, .array (docs.map .object)))

end SeedData

/-- A store with the documents of a seed. -/
def MemoryStore.ofSeed (stamp : Stamp) (seed : SeedData) : MemoryStore :=
  seed.tables.foldl (fun store (table, docs) =>
    docs.foldl (fun store fields => (store.add stamp table fields).2) store) {}

end Automation
