import DocumentGraph.Filter.Parser
import DocumentGraph.Store.Basic
set_option autoImplicit false

/-!
# Collections of documents

A collection is what a store holds under one name: JSON objects by id, in the order in which their
ids were first put. Reading a document reads its stored text, which may nest at most
`readingLimit` containers. Arguments are checked before the first statement; each operation that
ends well counts once.
-/

namespace DocumentGraph

structure Document where
  id : String
  data : Json
  createdAt : Int64
  updatedAt : Int64

/-- How many containers may stand around anything in a document that is read. -/
def readingLimit : Nat := 127

structure Collection where
  name : String
deriving DecidableEq

def validId (id : String) : Except StoreError Unit :=
  if id.isEmpty then .error (.invalidId .emptyId) else .ok ()

def validDocument (doc : Json) : Except StoreError Unit :=
  if doc.isObject then .ok () else .error (.invalidDocument doc.kindName)

namespace Collection

def put (c : Collection) (id : String) (doc : Json) : StoreM Unit := do
  Store.check (validId id)
  Store.check (validDocument doc)
  let now ← Store.readClock
  let _ ← Store.observed (.put c.name id doc now)
  Store.record Metrics.recordWrite

def decode (c : Collection) (row : SqlRow) : Except StoreError Document :=
  let id := (row.text? "id").getD ""
  match Json.read readingLimit ((row.text? Statement.dataColumn).getD "null") with
  | .ok data =>
    .ok ⟨id, data, (row.integer? "created_at").getD 0, (row.integer? "updated_at").getD 0⟩
  | .error e => .error (.corrupted c.name id (.unreadable e))

/-- Decodes rows in order; the first one that cannot be read is the error. -/
def decodeAll (c : Collection) : List SqlRow → Except StoreError (List Document)
  | [] => .ok []
  | row :: rest => do
    let doc ← c.decode row
    let docs ← c.decodeAll rest
    .ok (doc :: docs)

def getDocument (c : Collection) (id : String) : StoreM (Option Document) := do
  let cursor ← Store.observed (.fetch c.name id)
  match cursor.one? with
  | some row =>
    let doc ← Store.check (c.decode row)
    Store.record (Metrics.recordRead true)
    return some doc
  | none =>
    Store.record (Metrics.recordRead false)
    return none

def get (c : Collection) (id : String) : StoreM (Option Json) := do
  return (← c.getDocument id).map (·.data)

def has (c : Collection) (id : String) : StoreM Bool := do
  let cursor ← Store.observed (.present c.name id)
  let found := decide (0 < cursor.rowsRead)
  Store.record (Metrics.recordRead found)
  return found

def delete (c : Collection) (id : String) : StoreM Bool := do
  let cursor ← Store.observed (.remove c.name id)
  Store.record Metrics.recordDelete
  return decide (0 < cursor.rowsWritten)

def parsed (filter : Json) : StoreM Filter := fun s =>
  (Filter.ofJson s.config.strictFilters filter, s)

def findDocuments (c : Collection) (filter : Filter) (options : QueryOptions) :
    StoreM (List Document) := do
  let predicate ← Store.check filter.compile
  let tail ← Store.check options.tail
  let cursor ← Store.observed (.find c.name predicate tail)
  let docs ← Store.check (c.decodeAll cursor.rows)
  Store.record (Metrics.recordQuery docs.length)
  return docs

def findWhere (c : Collection) (filter : Filter) (options : QueryOptions) :
    StoreM (List Json) := do
  return (← c.findDocuments filter options).map (·.data)

def find (c : Collection) (filter : Json) (options : QueryOptions) : StoreM (List Json) := do
  c.findWhere (← parsed filter) options

def list (c : Collection) (options : QueryOptions) : StoreM (List Json) :=
  c.findWhere .all options

def countWhere (c : Collection) (filter : Filter) : StoreM Nat := do
  let predicate ← Store.check filter.compile
  let cursor ← Store.observed (.count c.name predicate)
  Store.record (Metrics.recordQuery 0)
  return ((cursor.one?.bind (·.integer? "n")).getD 0).toInt.toNat

def count (c : Collection) (filter : Json) : StoreM Nat := do
  c.countWhere (← parsed filter)

def keys (c : Collection) : StoreM (List String) := do
  let cursor ← Store.observed (.keys c.name)
  let ids := cursor.rows.filterMap (·.text? "id")
  Store.record (Metrics.recordQuery ids.length)
  return ids

def deleteWhere (c : Collection) (filter : Filter) : StoreM Nat := do
  let predicate ← Store.check filter.compile
  let cursor ← Store.observed (.removeWhere c.name predicate)
  Store.record Metrics.recordDelete
  return cursor.rowsWritten

def clear (c : Collection) : StoreM Nat := c.deleteWhere .all

end Collection

end DocumentGraph
