import DocumentGraph.Proofs.Filter.Validation
import DocumentGraph.Proofs.Store.Legible
import DocumentGraph.Proofs.Store.Shelf
set_option autoImplicit false

/-!
# Calls on collections

A call names an operation with its arguments. It is run on a collection of a store, and it is
answered from a shelf without any store. A run of calls may go to and fro between collections, and
a shelf is kept for each name.
-/

namespace DocumentGraph

inductive CollectionCall where
  | put (id : String) (doc : Json)
  | get (id : String)
  | getDocument (id : String)
  | has (id : String)
  | delete (id : String)
  | findDocuments (filter : Filter) (options : QueryOptions)
  | findWhere (filter : Filter) (options : QueryOptions)
  | find (filter : Json) (options : QueryOptions)
  | list (options : QueryOptions)
  | countWhere (filter : Filter)
  | count (filter : Json)
  | keys
  | deleteWhere (filter : Filter)
  | clear

inductive Reply where
  | done
  | value (found : Option Json)
  | document (found : Option (String × Json))
  | flag (b : Bool)
  | documents (ds : Shelf)
  | values (ds : List Json)
  | number (n : Nat)
  | names (ids : List String)

def Document.pair (d : Document) : String × Json := (d.id, d.data)

namespace Shelf

def find (filter : Filter) (options : QueryOptions) (shelf : Shelf) : Except StoreError Shelf := do
  filter.validated
  let t ← options.tail
  .ok (paged t.page (sorted t.sort (shelf.matching filter)))

def count (filter : Filter) (shelf : Shelf) : Except StoreError Nat := do
  filter.validated
  .ok (Collection.counted (shelf.matching filter).length)

end Shelf

namespace CollectionCall

def run (c : Collection) : CollectionCall → StoreM Reply
  | put id doc => do
    c.put id doc
    return .done
  | get id => do return .value (← c.get id)
  | getDocument id => do return .document ((← c.getDocument id).map Document.pair)
  | has id => do return .flag (← c.has id)
  | delete id => do return .flag (← c.delete id)
  | findDocuments filter options => do
    return .documents ((← c.findDocuments filter options).map Document.pair)
  | findWhere filter options => do return .values (← c.findWhere filter options)
  | find filter options => do return .values (← c.find filter options)
  | list options => do return .values (← c.list options)
  | countWhere filter => do return .number (← c.countWhere filter)
  | count filter => do return .number (← c.count filter)
  | keys => do return .names (← c.keys)
  | deleteWhere filter => do return .number (← c.deleteWhere filter)
  | clear => do return .number (← c.clear)

/-- The answer from a shelf, and the shelf that is left. -/
def onShelf (strict : Bool) : CollectionCall → Shelf → Except StoreError Reply × Shelf
  | put id doc, shelf =>
    match writable id doc with
    | .ok _ => (.ok .done, shelf.put id doc)
    | .error e => (.error e, shelf)
  | get id, shelf => (.ok (.value (shelf.get? id)), shelf)
  | getDocument id, shelf => (.ok (.document ((shelf.get? id).map fun d => (id, d))), shelf)
  | has id, shelf => (.ok (.flag (shelf.get? id).isSome), shelf)
  | delete id, shelf => (.ok (.flag (shelf.get? id).isSome), shelf.remove id)
  | findDocuments filter options, shelf => ((shelf.find filter options).map .documents, shelf)
  | findWhere filter options, shelf =>
    ((shelf.find filter options).map fun found => .values found.docs, shelf)
  | find filter options, shelf =>
    ((do
      let f ← Filter.ofJson strict filter
      (shelf.find f options).map fun found => .values found.docs), shelf)
  | list options, shelf => ((shelf.find .all options).map fun found => .values found.docs, shelf)
  | countWhere filter, shelf => ((shelf.count filter).map .number, shelf)
  | count filter, shelf =>
    ((do
      let f ← Filter.ofJson strict filter
      (shelf.count f).map .number), shelf)
  | keys, shelf => (.ok (.names shelf.keys), shelf)
  | deleteWhere filter, shelf =>
    match filter.validated with
    | .ok _ => (.ok (.number (shelf.matching filter).length), shelf.withoutMatching filter)
    | .error e => (.error e, shelf)
  | clear, shelf => (.ok (.number shelf.length), [])

def Readable : CollectionCall → Prop
  | put _ doc => doc.Legible
  | _ => True

def runAll : List (String × CollectionCall) → Store → List (Except StoreError Reply) × Store
  | [], s => ([], s)
  | (name, call) :: rest, s =>
    let (r, t) := call.run ⟨name⟩ s
    let (rs, u) := runAll rest t
    (r :: rs, u)

/-- The answers to a run of calls from a shelf for each name. -/
def answerAll (strict : Bool) : List (String × CollectionCall) → (String → Shelf) →
    List (Except StoreError Reply) × (String → Shelf)
  | [], shelves => ([], shelves)
  | (name, call) :: rest, shelves =>
    let (r, shelf) := call.onShelf strict (shelves name)
    let (rs, left) := answerAll strict rest (Function.update shelves name shelf)
    (r :: rs, left)

end CollectionCall

end DocumentGraph
