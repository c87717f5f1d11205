import DocumentGraph.Json.Decode
import DocumentGraph.Store.Collection
set_option autoImplicit false

/-!
# Collections of records

A record type says under which id its values are stored, what the members of their documents are
and how a document is decoded. Records are put and read through the collection of their documents;
a document that does not decode is reported with its id.
-/

namespace DocumentGraph

class Record (α : Type) where
  /-- The id under which the record is stored. -/
  key : α → String
  /-- The members of the document in the order in which the record declares them. -/
  members : α → List (String × Json)
  /-- The members that are tested before any is taken. -/
  known : Known
  /-- Takes the record from the members of a document. -/
  build : List (String × Json) → Except DecodeError α

namespace Record

variable {α : Type} [Record α]

def document (r : α) : Json := .ofMembers (members r)

def ofDocument (j : Json) : Except DecodeError α := do
  let ms ← Decoder.members j
  (known (α := α)).check ms
  build ms

end Record

namespace Collection

variable {α : Type} [Record α]

def putRecord (c : Collection) (r : α) : StoreM Unit := c.put (Record.key r) (Record.document r)

def decodeRecord (c : Collection) (id : String) (data : Json) : Except StoreError α :=
  match Record.ofDocument data with
  | .ok r => .ok r
  | .error e => .error (.corrupted c.name id (.undecodable e))

def decodeRecords (c : Collection) : List Document → Except StoreError (List α)
  | [] => .ok []
  | d :: rest => do
    let r ← c.decodeRecord d.id d.data
    let rs ← c.decodeRecords rest
    .ok (r :: rs)

def getRecord (c : Collection) (id : String) : StoreM (Option α) := do
  match ← c.get id with
  | some data => return some (← Store.check (c.decodeRecord id data))
  | none => return none

def findRecords (c : Collection) (filter : Filter) (options : QueryOptions) :
    StoreM (List α) := do
  Store.check (c.decodeRecords (← c.findDocuments filter options))

end Collection

end DocumentGraph
