import DocumentGraph.Graph.Schema
set_option autoImplicit false

namespace DocumentGraph

structure Thing where
  id : String
  type : String
  data : List (String × Json)
  version : UInt64
  createdAt : Int64
  updatedAt : Int64

instance : Record Thing where
  key t := t.id
  members t :=
    [textMember "id" t.id, textMember "type" t.type, ("data", .object t.data),
      ("version", .number (.ofUInt64 t.version)), timeMember "createdAt" t.createdAt,
      timeMember "updatedAt" t.updatedAt]
  known :=
    [("id", .probe .string), ("type", .probe .string), ("data", .probe .members),
      ("version", .probe .uint64), ("createdAt", .probe .int64), ("updatedAt", .probe .int64)]
  build ms := do
    let id ← requiredMember "id" .string ms
    let type ← requiredMember "type" .string ms
    let data ← requiredMember "data" .members ms
    let version ← requiredMember "version" .uint64 ms
    let createdAt ← requiredMember "createdAt" .int64 ms
    let updatedAt ← requiredMember "updatedAt" .int64 ms
    .ok ⟨id, type, data, version, createdAt, updatedAt⟩

namespace Thing

def first (id type : String) (data : List (String × Json)) (now : Int64) : Thing :=
  ⟨id, type, data, 1, now, now⟩

/-- The next version: members of `changes` replace or join those of the data, and the time of the
    last update never goes back. -/
def changed (t : Thing) (changes : List (String × Json)) (now : Int64) : Thing :=
  { t with
    data := Json.mergeMembers t.data changes
    version := t.version + 1
    updatedAt := max now t.updatedAt }

end Thing

end DocumentGraph
