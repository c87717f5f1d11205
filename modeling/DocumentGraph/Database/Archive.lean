import DocumentGraph.Database.Engine
import DocumentGraph.Json.Decode
set_option autoImplicit false

/-!
# Archives

A database is kept in a file as one JSON value: a list of tables, each its name and its entries in
order, each entry its collection, id, document and two times.
-/

namespace DocumentGraph

namespace Entry

def toJson (e : Entry) : Json :=
  .array [.string e.collection, .string e.id, e.data, .number (.ofInt64 e.createdAt),
    .number (.ofInt64 e.updatedAt)]

def ofJson? : Json → Option Entry
  | .array [.string collection, .string id, data, createdAt, updatedAt] =>
    match Decoder.int64 createdAt, Decoder.int64 updatedAt with
    | .ok c, .ok u => some ⟨collection, id, data, c, u⟩
    | _, _ => none
  | _ => none

end Entry

namespace Database

def tableJson (t : String × Entries) : Json :=
  .array [.string t.1, .array (t.2.map Entry.toJson)]

def table? : Json → Option (String × Entries)
  | .array [.string name, .array entries] => (entries.mapM Entry.ofJson?).map fun es => (name, es)
  | _ => none

/-- More containers than stand around anything in a document that was ever put. -/
def archiveLimit : Nat := 1000000

def archive (db : Database) : String := (Json.array (db.tables.map tableJson)).compact

def ofArchive? (text : String) : Option Database :=
  match Json.read archiveLimit text with
  | .ok (.array tables) => (tables.mapM table?).map fun ts => ⟨ts, true, none⟩
  | _ => none

end Database

end DocumentGraph
