import DocumentGraph.Graph.Traversal
set_option autoImplicit false

namespace DocumentGraph.Scenario

def fill (steps : List (StoreM Unit)) : StoreM Unit := steps.forM id

structure Product where
  id : String
  name : String
  price : UInt32
  category : String
  inStock : Bool

def products : List Product :=
  [⟨"laptop", "Laptop", 999, "electronics", true⟩, ⟨"phone", "Phone", 599, "electronics", true⟩,
    ⟨"headphones", "Headphones", 149, "audio", false⟩,
    ⟨"monitor", "Monitor", 299, "electronics", true⟩, ⟨"speaker", "Speaker", 399, "audio", true⟩]

def Product.document (p : Product) : Json :=
  .ofMembers
    [("name", .string p.name), ("price", .number (.ofUInt32 p.price)),
      ("category", .string p.category), ("inStock", .bool p.inStock),
      ("tags", .array [.string p.category])]

def catalog (s : Store) : Store :=
  (fill (products.map fun p => Collection.put ⟨"products"⟩ p.id p.document)
    (s.opening "products")).2

def fourDigits (n : Nat) : String :=
  String.ofList ((Positional.padded 10 4 n).map Layout.digitChar)

def populated (collection : String) (count : Nat) (s : Store) : Store :=
  let document (i : Nat) : Json := .object [("index", .number (.ofUInt64 (UInt64.ofNat i)))]
  (fill ((List.range count).map fun i =>
      Collection.put ⟨collection⟩ ("doc_" ++ fourDigits i) (document i))
    (s.opening collection)).2

def named (name : String) : Json := .object [("name", .string name)]

def users : List (String × String) := [("ada", "Ada"), ("grace", "Grace"), ("linus", "Linus")]

def companies : List (String × String) := [("acme", "Acme"), ("initech", "Initech")]

def jobs : List (String × String) :=
  [("ada", "acme"), ("grace", "acme"), ("linus", "initech")]

def orgChart (g : Graph) : Graph :=
  let steps : GraphM Unit := do
    for u in users do
      let _ ← Graph.createThing "User" (named u.2) (some u.1)
    for c in companies do
      let _ ← Graph.createThing "Company" (named c.2) (some c.1)
    for j in jobs do
      let _ ← Graph.relate j.1 "worksAt" j.2 .direct none
  (steps g).2

end DocumentGraph.Scenario
