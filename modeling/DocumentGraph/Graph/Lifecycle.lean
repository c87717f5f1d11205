import DocumentGraph.Graph.Log
import DocumentGraph.Unicode.Lowercase
set_option autoImplicit false

/-!
# Things of the graph

Creating, updating and deleting a thing writes the thing first and logs the action last. Deleting
also removes the relationships that touch the thing. A created thing without an id is given one
that starts with its type in lower case.
-/

namespace DocumentGraph.Graph

def membersOf : Json → List (String × Json)
  | .object ms => ms
  | _ => []

def createThing (type : String) (data : Json) (id : Option String) : GraphM Thing := do
  check (validDocument data)
  check (if type.isEmpty then .error (.invalidId .emptyType) else .ok ())
  let id ← match id with
    | some id => do
      check (validId id)
      pure id
    | none => newId (Unicode.lowercase type)
  let t := Thing.first id type (membersOf data) (← now)
  onStore (thingCollection.putRecord t)
  let _ ← log (.about "created" t.id)
  return t

def thing (id : String) : GraphM (Option Thing) := onStore (thingCollection.getRecord id)

def updateThing (id : String) (changes : Json) : GraphM (Option Thing) := do
  check (validDocument changes)
  match ← thing id with
  | none => return none
  | some old =>
    let t := old.changed (membersOf changes) (← now)
    onStore (thingCollection.putRecord t)
    let _ ← log { ActionEntry.about "updated" id with data := some changes }
    return some t

def deleteThing (id : String) : GraphM Bool := do
  if ← onStore (thingCollection.delete id) then
    let _ ← onStore (relationshipCollection.deleteWhere (Relationship.touching id))
    let _ ← log (.about "deleted" id)
    return true
  else return false

def ofType : Option String → Filter
  | some type => .equals "type" type
  | none => .all

def findThings (type : Option String) (filter : Json) (options : QueryOptions) :
    GraphM (List Thing) := do
  let data := (← parsed filter).within "data"
  onStore (thingCollection.findRecords
    (match type with
      | some type => .and [.equals "type" type, data]
      | none => data) options)

def countThings (type : Option String) : GraphM Nat :=
  onStore (thingCollection.countWhere (ofType type))

def things (options : QueryOptions) : GraphM (List Thing) :=
  onStore (thingCollection.findRecords .all options)

end DocumentGraph.Graph
