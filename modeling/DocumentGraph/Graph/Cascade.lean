import DocumentGraph.Json.Decode
set_option autoImplicit false

/-!
# Cascade kinds

A cascade kind says how a relationship came about and from which end it is read: directly asserted
or found by similarity, from the source or from the target. Each kind has a name and an arrow.
-/

namespace DocumentGraph

inductive Cascade where
  | direct
  | fuzzy
  | inverseDirect
  | inverseFuzzy
deriving DecidableEq, Repr

namespace Cascade

def all : List Cascade := [.direct, .fuzzy, .inverseDirect, .inverseFuzzy]

def name : Cascade → String
  | .direct => "direct"
  | .fuzzy => "fuzzy"
  | .inverseDirect => "inverseDirect"
  | .inverseFuzzy => "inverseFuzzy"

def arrow : Cascade → String
  | .direct => "->"
  | .fuzzy => "~>"
  | .inverseDirect => "<-"
  | .inverseFuzzy => "<~"

def isFuzzy : Cascade → Bool
  | .fuzzy => true
  | .inverseFuzzy => true
  | _ => false

def isInverse : Cascade → Bool
  | .inverseDirect => true
  | .inverseFuzzy => true
  | _ => false

def ofText? (text : String) : Option Cascade := all.find? fun k => k.name = text ∨ k.arrow = text

def ofName? (name : String) : Option Cascade := all.find? fun k => k.name = name

def toJson (k : Cascade) : Json := .string k.name

def named (name : String) : Except DecodeError Cascade :=
  match ofName? name with
  | some k => .ok k
  | none => .error (.unknownVariant name (all.map Cascade.name))

/-- A kind is a name, or an object with the name as its only key and null under it. -/
def decoder : Decoder Cascade
  | .string s => named s
  | .object [(key, value)] => do
    let k ← named key
    if value.isNull then .ok k else .error (.invalidType value "unit")
  | .object ms => .error (.invalidValue (.object ms) "map with a single key")
  | j => .error (.invalidType j "string or map")

theorem ofName?_name (k : Cascade) : ofName? k.name = some k := by cases k <;> decide

theorem ofText?_arrow (k : Cascade) : ofText? k.arrow = some k := by cases k <;> decide

end Cascade

end DocumentGraph
