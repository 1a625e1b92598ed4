import Automation.Program

/-!
Programs that may fail, and access to the store for them. Each caller says what failures of the
store mean to it.
-/
namespace Automation

/-- Why a program did not get to its end. -/
inductive Stop (ε : Type) where
  | failed (error : ε)
  | crashed (crash : Crash)
  deriving DecidableEq

abbrev Work (ε α : Type) := ExceptT (Stop ε) Program α

namespace Work

variable {ε ε' α : Type}

def fail (error : ε) : Work ε α := throw (.failed error)

def crash (c : Crash) : Work ε α := throw (.crashed c)

def ofExcept : Except ε α → Work ε α
  | .ok a => pure a
  | .error e => fail e

def ofProgram (program : Program α) : Work ε α := ExceptT.lift program

/-- The same work with its failures seen as others. -/
def mapError (f : ε → ε') (work : Work ε α) : Work ε' α := do
  match ← ofProgram work.run with
  | .ok a => pure a
  | .error (.failed e) => fail (f e)
  | .error (.crashed c) => crash c

/-- Work whose failure nobody minds. -/
def ignoring (work : Work ε α) : Work ε' Unit := do
  match ← ofProgram work.run with
  | .error (.crashed c) => crash c
  | _ => pure ()

end Work

/-- What it means to a caller that the store failed, or did not answer in time. -/
structure Connection (ε : Type) where
  failed : StoreError → ε
  stalled : ε

namespace Connection

variable {ε : Type}

/-- A store that has to answer within a time. -/
def timed (limit : Duration) (failed : StoreError → ε) : Connection ε :=
  ⟨failed, failed (.timeout limit)⟩

def ask (c : Connection ε) (op : StoreOp) : Work ε op.Answer := do
  match ← Work.ofProgram (Program.perform (.store op)) with
  | .answered (.ok answer) => pure answer
  | .answered (.error e) => Work.fail (c.failed e)
  | .stalled => Work.fail c.stalled
  | .crashed crash => Work.crash crash

def get (c : Connection ε) (table : Table) (id : String) : Work ε (Option Document) :=
  c.ask (.get table id)

def query (c : Connection ε) (table : Table) (q : Query) : Work ε (List Document) :=
  c.ask (.query table q)

def insert (c : Connection ε) (table : Table) (fields : Json.Members) : Work ε String :=
  c.ask (.insert table fields)

/-- Whether the update was applied. -/
def update (c : Connection ε) (table : Table) (id : String) (u : DocumentUpdate) : Work ε Bool :=
  c.ask (.update table id u)

def delete (c : Connection ε) (table : Table) (id : String) : Work ε Unit :=
  c.ask (.delete table id)

/-- Sets some fields of a document. -/
def patch (c : Connection ε) (table : Table) (id : String) (fields : Json.Members) :
    Work ε Unit := do
  let _ ← c.update table id { set := fields }

/-- The first document that a query finds. -/
def first (c : Connection ε) (table : Table) (q : Query) : Work ε (Option Document) := do
  let docs ← c.query table { q with limit := some 1 }
  return docs.head?

/-- A document that has to be there. -/
def require (c : Connection ε) (table : Table) (id : String) : Work ε Document := do
  match ← c.get table id with
  | some doc => return doc
  | none => Work.fail (c.failed (.notFound table id))

/-- A document that has to be there and in the workspace. -/
def requireIn (c : Connection ε) (workspaceId : String) (table : Table) (id : String) :
    Work ε Document := do
  let doc ← c.require table id
  match doc.ensureWorkspace table workspaceId with
  | .ok () => return doc
  | .error e => Work.fail (c.failed e)

end Connection
end Automation
