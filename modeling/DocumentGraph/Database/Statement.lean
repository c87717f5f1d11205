import DocumentGraph.Filter.Predicate
import DocumentGraph.Query.Options
set_option autoImplicit false

/-!
# Statements on a table of documents

Every document lies in one table, under the name of its collection and its id. A statement names
what is done to the table; `text` is its wording for a table name and `params` are the values of
its placeholders in the order in which they stand in the text.
-/

namespace DocumentGraph

/-- A document under its collection and id, with the times of its first and its last writing. -/
structure Entry where
  collection : String
  id : String
  data : Json
  createdAt : Int64
  updatedAt : Int64

inductive Statement where
  | put (collection id : String) (data : Json) (now : Int64)
  | fetch (collection id : String)
  | present (collection id : String)
  | remove (collection id : String)
  | find (collection : String) (p : Predicate) (t : Tail)
  | count (collection : String) (p : Predicate)
  | removeWhere (collection : String) (p : Predicate)
  | keys (collection : String)
  | collections

namespace Statement

def dataColumn : String := "data"

def documentColumns : List String := ["id", dataColumn, "created_at", "updated_at"]

def ofCollection : String := " WHERE collection = ?"

def ofDocument : String := ofCollection ++ " AND id = ?"

def selecting (p : Predicate) : String :=
  ofCollection ++ " AND " ++ Condition.parenthesized (p.sql dataColumn)

def selectDocuments (table : String) : String :=
  "SELECT " ++ String.intercalate ", " documentColumns ++ " FROM " ++ table

def text (table : String) : Statement → String
  | .put _ _ _ _ =>
    "INSERT INTO " ++ table ++
      " (collection, id, data, created_at, updated_at) VALUES (?, ?, ?, ?, ?) " ++
      "ON CONFLICT(collection, id) DO UPDATE SET data = excluded.data, " ++
      "updated_at = excluded.updated_at"
  | .fetch _ _ => selectDocuments table ++ ofDocument
  | .present _ _ => "SELECT 1 AS present FROM " ++ table ++ ofDocument
  | .remove _ _ => "DELETE FROM " ++ table ++ ofDocument
  | .find _ p t => selectDocuments table ++ selecting p ++ t.text dataColumn
  | .count _ p => "SELECT COUNT(*) AS n FROM " ++ table ++ selecting p
  | .removeWhere _ p => "DELETE FROM " ++ table ++ selecting p
  | .keys _ => "SELECT id FROM " ++ table ++ ofCollection ++ " ORDER BY id ASC"
  | .collections => "SELECT DISTINCT collection FROM " ++ table ++ " ORDER BY collection ASC"

def params : Statement → List SqlValue
  | .put collection id data now =>
    [.text collection, .text id, .text data.compact, .integer now, .integer now]
  | .fetch collection id => [.text collection, .text id]
  | .present collection id => [.text collection, .text id]
  | .remove collection id => [.text collection, .text id]
  | .find collection p t => .text collection :: (p.params ++ t.params)
  | .count collection p => .text collection :: p.params
  | .removeWhere collection p => .text collection :: p.params
  | .keys collection => [.text collection]
  | .collections => []

def isQuery : Statement → Bool
  | .put _ _ _ _ => false
  | .remove _ _ => false
  | .removeWhere _ _ => false
  | _ => true

end Statement

end DocumentGraph
