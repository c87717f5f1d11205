import DocumentGraph.Graph.Edges
import DocumentGraph.Graph.Lifecycle
set_option autoImplicit false

namespace DocumentGraph.Graph

def thingsAt : List String → GraphM (List Thing)
  | [] => return []
  | id :: rest => do
    let found ← thing id
    let others ← thingsAt rest
    return found.toList ++ others

def traverse (source verb : String) : GraphM (List Thing) := do
  let edges ← relationsFrom source (some verb)
  thingsAt (edges.map (·.target))

def traverseBack (target verb : String) : GraphM (List Thing) := do
  let edges ← relationsTo target (some verb)
  thingsAt (edges.map (·.source))

end DocumentGraph.Graph
