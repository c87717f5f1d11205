import DocumentGraph.Graph.Action
import DocumentGraph.Graph.Relationship
import DocumentGraph.Graph.Thing
import DocumentGraph.Identifier
set_option autoImplicit false

/-!
# Graphs

A graph keeps nouns, verbs, things, actions and relationships in five collections of a store. It
remembers the nouns and verbs that it has seen, makes the ids of new records and may have a matcher
that finds similar things. Operations on a graph are made of operations on its store.
-/

namespace DocumentGraph

structure Candidate where
  thing : Thing
  similarity : Binary64

structure Question where
  type : String
  text : String
  threshold : Binary64
deriving DecidableEq

/-- Finds similar things, or fails with a message. -/
abbrev Matcher := Question → Except String (List Candidate)

abbrev Cache (α : Type) := List (String × α)

namespace Cache

def find? {α : Type} (name : String) (c : Cache α) : Option α := List.lookup name c

def insert {α : Type} (name : String) (a : α) (c : Cache α) : Cache α :=
  (name, a) :: c.filter fun entry => entry.1 ≠ name

theorem find?_insert_self {α : Type} (name : String) (a : α) (c : Cache α) :
    (c.insert name a).find? name = some a := by simp [find?, insert]

end Cache

structure Graph where
  store : Store
  ids : Identifier.Source
  nounCache : Cache Noun
  verbCache : Cache Verb
  matcher : Option Matcher
  asked : List Question

abbrev GraphM := ExceptT StoreError (StateM Graph)

namespace Graph

def nounCollection : Collection := ⟨"nouns"⟩

def verbCollection : Collection := ⟨"verbs"⟩

def thingCollection : Collection := ⟨"things"⟩

def actionCollection : Collection := ⟨"actions"⟩

def relationshipCollection : Collection := ⟨"relationships"⟩

def collectionNames : List String :=
  [nounCollection, verbCollection, thingCollection, actionCollection, relationshipCollection].map
    (·.name)

/-- A graph over a store, with its five collections opened and nothing remembered. -/
def ofStore (store : Store) (tails : Nat → Nat) : Graph :=
  ⟨collectionNames.foldl (fun s name => s.opening name) store, ⟨.initial, tails, 0⟩, [], [], none,
    []⟩

def onStore {α : Type} (x : StoreM α) : GraphM α := fun g =>
  match x g.store with
  | (r, s) => (r, { g with store := s })

def check {α : Type} (r : Except StoreError α) : GraphM α := fun g => (r, g)

def newId (name : String) : GraphM String := do
  let now ← onStore Store.readClock
  fun g =>
    let (suffix, ids) := g.ids.next now
    (.ok (Identifier.make name suffix), { g with ids := ids })

def now : GraphM Int64 := onStore Store.readClock

def parsed (filter : Json) : GraphM Filter := onStore (Collection.parsed filter)

def modify (f : Graph → Graph) : GraphM Unit := fun g => (.ok (), f g)

def hasMatcher (g : Graph) : Bool := g.matcher.isSome

structure Stats where
  nouns : Nat
  verbs : Nat
  things : Nat
  actions : Nat
  relationships : Nat
deriving DecidableEq, Repr

def stats : GraphM Stats := do
  let nouns ← onStore (nounCollection.countWhere .all)
  let verbs ← onStore (verbCollection.countWhere .all)
  let things ← onStore (thingCollection.countWhere .all)
  let actions ← onStore (actionCollection.countWhere .all)
  let relationships ← onStore (relationshipCollection.countWhere .all)
  return ⟨nouns, verbs, things, actions, relationships⟩

end Graph

end DocumentGraph
