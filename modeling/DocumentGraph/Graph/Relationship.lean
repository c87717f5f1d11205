import DocumentGraph.Graph.Schema
set_option autoImplicit false

namespace DocumentGraph

structure Relationship where
  id : String
  source : String
  verb : String
  target : String
  cascade : Cascade
  data : Option Json
  createdAt : Int64

instance : Record Relationship where
  key r := r.id
  members r :=
    [textMember "id" r.id, textMember "from" r.source, textMember "verb" r.verb,
      textMember "to" r.target, ("cascade", r.cascade.toJson)] ++
      memberIfSet "data" id r.data ++ [timeMember "createdAt" r.createdAt]
  known :=
    [("id", .probe .string), ("from", .probe .string), ("verb", .probe .string),
      ("to", .probe .string), ("cascade", .probe Cascade.decoder), ("data", .probe .any),
      ("createdAt", .probe .int64)]
  build ms := do
    let id ← requiredMember "id" .string ms
    let source ← requiredMember "from" .string ms
    let verb ← requiredMember "verb" .string ms
    let target ← requiredMember "to" .string ms
    let cascade ← requiredMember "cascade" Cascade.decoder ms
    let data ← optionalMember "data" .any ms
    let createdAt ← requiredMember "createdAt" .int64 ms
    .ok ⟨id, source, verb, target, cascade, data, createdAt⟩

namespace Relationship

def touching (id : String) : Filter := .or [.equals "from" id, .equals "to" id]

def between (source verb target : String) : Filter :=
  .and [.equals "from" source, .equals "verb" verb, .equals "to" target]

def withEnd (member id : String) (verb : Option String) : Filter :=
  .and (.equals member id :: (verb.map (Filter.equals "verb")).toList)

end Relationship

end DocumentGraph
