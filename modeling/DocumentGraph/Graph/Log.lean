import DocumentGraph.Graph.Basic
set_option autoImplicit false

namespace DocumentGraph.Graph

def log (entry : ActionEntry) : GraphM Action := do
  let id ← newId "act"
  let time ← now
  let action : Action := ⟨entry, id, time⟩
  onStore (actionCollection.putRecord action)
  return action

def action (id : String) : GraphM (Option Action) := onStore (actionCollection.getRecord id)

def findActions (filter : Json) (options : QueryOptions) : GraphM (List Action) := do
  onStore (actionCollection.findRecords (← parsed filter) options)

def actionsOf (id : String) : GraphM (List Action) :=
  onStore (actionCollection.findRecords (Action.concerning id) .unrestricted)

def countActions (filter : Json) : GraphM Nat := do
  onStore (actionCollection.countWhere (← parsed filter))

end DocumentGraph.Graph
