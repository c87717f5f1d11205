import DocumentGraph.Store.Record
set_option autoImplicit false

namespace DocumentGraph

structure Note where
  id : String
  body : String
  stars : UInt32
  tags : Option (List String)

instance : Record Note where
  key n := n.id
  members n :=
    [textMember "id" n.id, textMember "body" n.body, ("stars", .number (.ofUInt32 n.stars))] ++
      memberIfSet "tags" textsJson n.tags
  known :=
    [("id", .probe .string), ("body", .probe .string), ("stars", .probe .uint32),
      ("tags", .probe (.optional (.list .string)))]
  build ms := do
    let id ← requiredMember "id" .string ms
    let body ← requiredMember "body" .string ms
    let stars ← requiredMember "stars" .uint32 ms
    let tags ← optionalMember "tags" (.list .string) ms
    .ok ⟨id, body, stars, tags⟩

end DocumentGraph
