import DocumentGraph.Graph.Schema
set_option autoImplicit false

namespace DocumentGraph

/-- What is to be logged; the log adds the id and the time. -/
structure ActionEntry where
  verb : String
  source : Option String
  target : Option String
  data : Option Json
  actor : Option String

structure Action extends ActionEntry where
  id : String
  time : Int64

instance : Record Action where
  key a := a.id
  members a :=
    textMember "id" a.id :: textMember "verb" a.verb ::
      memberIfSet "from" .string a.source ++ memberIfSet "to" .string a.target ++
      memberIfSet "data" id a.data ++ memberIfSet "by" .string a.actor ++
      [timeMember "at" a.time]
  known :=
    [("id", .probe .string), ("verb", .probe .string), ("from", .probe (.optional .string)),
      ("to", .probe (.optional .string)), ("data", .probe .any),
      ("by", .probe (.optional .string)), ("at", .probe .int64)]
  build ms := do
    let id ← requiredMember "id" .string ms
    let verb ← requiredMember "verb" .string ms
    let source ← optionalMember "from" .string ms
    let target ← optionalMember "to" .string ms
    let data ← optionalMember "data" .any ms
    let actor ← optionalMember "by" .string ms
    let time ← requiredMember "at" .int64 ms
    .ok ⟨⟨verb, source, target, data, actor⟩, id, time⟩

namespace ActionEntry

def about (verb id : String) : ActionEntry := ⟨verb, none, some id, none, none⟩

def relating (source verb target : String) (data : Option Json) : ActionEntry :=
  ⟨verb, some source, some target, data, none⟩

end ActionEntry

def Action.concerning (id : String) : Filter := .or [.equals "from" id, .equals "to" id]

end DocumentGraph
