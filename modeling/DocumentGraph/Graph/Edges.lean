import DocumentGraph.Graph.Log
set_option autoImplicit false

namespace DocumentGraph.Graph

def relate (source verb target : String) (cascade : Cascade) (data : Option Json) :
    GraphM Relationship := do
  check (validId source)
  check (validId verb)
  check (validId target)
  let id ← newId "rel"
  let createdAt ← now
  let r : Relationship := ⟨id, source, verb, target, cascade, data, createdAt⟩
  onStore (relationshipCollection.putRecord r)
  let _ ← log (.relating source verb target data)
  return r

/-- Whether there was a relationship to remove. -/
def unrelate (source verb target : String) : GraphM Bool := do
  let removed ←
    onStore (relationshipCollection.deleteWhere (Relationship.between source verb target))
  let _ ← log (.relating source ("un" ++ verb) target none)
  return decide (0 < removed)

def relationship (id : String) : GraphM (Option Relationship) :=
  onStore (relationshipCollection.getRecord id)

def relationsAt (member id : String) (verb : Option String) : GraphM (List Relationship) :=
  onStore (relationshipCollection.findRecords (Relationship.withEnd member id verb) .unrestricted)

def relationsFrom (source : String) (verb : Option String) : GraphM (List Relationship) :=
  relationsAt "from" source verb

def relationsTo (target : String) (verb : Option String) : GraphM (List Relationship) :=
  relationsAt "to" target verb

def countRelationships : GraphM Nat := onStore (relationshipCollection.countWhere .all)

end DocumentGraph.Graph
