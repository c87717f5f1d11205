import DocumentGraph.Graph.Cascade
import DocumentGraph.Store.Record
set_option autoImplicit false

namespace DocumentGraph

structure Noun where
  name : String
  description : Option String
  schema : Option Json
  createdAt : Int64

structure Verb where
  name : String
  description : Option String
  cascade : Cascade
  fromTypes : Option (List String)
  toTypes : Option (List String)

structure NounDefinition where
  description : Option String
  schema : Option Json

structure VerbDefinition where
  description : Option String
  cascade : Cascade
  fromTypes : Option (List String)
  toTypes : Option (List String)

instance : Record Noun where
  key n := n.name
  members n :=
    textMember "name" n.name :: memberIfSet "description" .string n.description ++
      memberIfSet "schema" id n.schema ++ [timeMember "createdAt" n.createdAt]
  known :=
    [("name", .probe .string), ("description", .probe (.optional .string)),
      ("schema", .probe .any), ("createdAt", .probe .int64)]
  build ms := do
    let name ← requiredMember "name" .string ms
    let description ← optionalMember "description" .string ms
    let schema ← optionalMember "schema" .any ms
    let createdAt ← requiredMember "createdAt" .int64 ms
    .ok ⟨name, description, schema, createdAt⟩

/-- The cascade kind among the members, direct if there is none. -/
def cascadeOrDirect (ms : List (String × Json)) : Except DecodeError Cascade :=
  match Json.lookup "cascade" ms with
  | some j => Cascade.decoder j
  | none => .ok .direct

instance : Record Verb where
  key v := v.name
  members v :=
    textMember "name" v.name :: memberIfSet "description" .string v.description ++
      ("cascade", v.cascade.toJson) :: memberIfSet "fromTypes" textsJson v.fromTypes ++
      memberIfSet "toTypes" textsJson v.toTypes
  known :=
    [("name", .probe .string), ("description", .probe (.optional .string)),
      ("cascade", .probe Cascade.decoder), ("fromTypes", .probe (.optional (.list .string))),
      ("toTypes", .probe (.optional (.list .string)))]
  build ms := do
    let name ← requiredMember "name" .string ms
    let description ← optionalMember "description" .string ms
    let cascade ← cascadeOrDirect ms
    let fromTypes ← optionalMember "fromTypes" (.list .string) ms
    let toTypes ← optionalMember "toTypes" (.list .string) ms
    .ok ⟨name, description, cascade, fromTypes, toTypes⟩

end DocumentGraph
