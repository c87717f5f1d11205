import DocumentGraph.Graph.Basic
set_option autoImplicit false

namespace DocumentGraph

/-- A name with its fields between braces; the dots say that there is more. -/
def summaryText (name : String) (fields : List (String × String)) : String :=
  let shown := fields.map fun f => f.1 ++ ": " ++ f.2 ++ ", "
  name ++ " \x7b " ++ String.join shown ++ ".. \x7d"

def boolText (b : Bool) : String := if b then "true" else "false"

def Store.summary (s : Store) : String :=
  summaryText "Store"
    [("table", quoted s.config.tableName), ("collections", toString s.opened.length)]

def Collection.summary (c : Collection) (s : Store) : String :=
  summaryText "Collection" [("name", quoted c.name), ("table", quoted s.config.tableName)]

def Graph.summary (g : Graph) : String :=
  summaryText "Graph" [("store", g.store.summary), ("has_matcher", boolText g.hasMatcher)]

end DocumentGraph
