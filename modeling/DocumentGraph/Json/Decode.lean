import DocumentGraph.Json.Reader
import DocumentGraph.Text.Quoted
set_option autoImplicit false

/-!
# Decoding JSON objects into records

A decoder takes a JSON value to a typed one or says why it cannot. A record is decoded from the
members of an object: the members it knows are looked at in the order of their keys and the first
one that does not decode is the error, members it does not know are passed over, and only then a
required member that is missing is an error, in the order in which the record declares them.
-/

namespace DocumentGraph

inductive DecodeError where
  | invalidType (found : Json) (expected : String)
  | invalidValue (found : Json) (expected : String)
  | missingMember (key : String)
  | unknownVariant (name : String) (expected : List String)

namespace DecodeError

def describe : Json → String
  | .null => "null"
  | .bool true => "boolean `true`"
  | .bool false => "boolean `false`"
  | .number (.int i _ _) => "integer `" ++ String.ofList (Layout.intChars i) ++ "`"
  | .number (.float x _) => "floating point `" ++ String.ofList (Layout.json.finiteChars x) ++ "`"
  | .string s => "string " ++ quoted s
  | .array _ => "sequence"
  | .object _ => "map"

def marked (name : String) : String := "`" ++ name ++ "`"

def message : DecodeError → String
  | .invalidType found expected =>
    "invalid type: " ++ describe found ++ ", expected " ++ expected
  | .invalidValue found expected =>
    "invalid value: " ++ describe found ++ ", expected " ++ expected
  | .missingMember key => "missing field " ++ marked key
  | .unknownVariant name expected =>
    "unknown variant " ++ marked name ++ ", expected one of " ++
      String.intercalate ", " (expected.map marked)

end DecodeError

abbrev Decoder (α : Type) := Json → Except DecodeError α

namespace Decoder

def string : Decoder String
  | .string s => .ok s
  | j => .error (.invalidType j "a string")

/-- An integer that `ofInt?` takes; another integer is out of range. -/
def integer {α : Type} (expected : String) (ofInt? : Int → Option α) : Decoder α
  | .number (.int i low high) =>
    match ofInt? i with
    | some a => .ok a
    | none => .error (.invalidValue (.number (.int i low high)) expected)
  | j => .error (.invalidType j expected)

def int64 : Decoder Int64 :=
  integer "i64" fun i => if i < 9223372036854775808 then some (Int64.ofInt i) else none

def uint64 : Decoder UInt64 :=
  integer "u64" fun i => if 0 ≤ i then some (UInt64.ofNat i.toNat) else none

def uint32 : Decoder UInt32 :=
  integer "u32" fun i => if 0 ≤ i ∧ i < 4294967296 then some (UInt32.ofNat i.toNat) else none

def members : Decoder (List (String × Json))
  | .object ms => .ok ms
  | j => .error (.invalidType j "a map")

def each {α : Type} (d : Decoder α) : List Json → Except DecodeError (List α)
  | [] => .ok []
  | j :: rest => do
    let a ← d j
    let as ← each d rest
    .ok (a :: as)

def list {α : Type} (d : Decoder α) : Decoder (List α)
  | .array items => each d items
  | j => .error (.invalidType j "a sequence")

def optional {α : Type} (d : Decoder α) : Decoder (Option α)
  | .null => .ok none
  | j => (d j).map some

def any : Decoder Json := .ok

def probe {α : Type} (d : Decoder α) : Decoder Unit := fun j => (d j).map fun _ => ()

end Decoder

/-- The members that a record knows, each with its test. -/
abbrev Known := List (String × Decoder Unit)

def Known.check (known : Known) : List (String × Json) → Except DecodeError Unit
  | [] => .ok ()
  | (key, value) :: rest =>
    match known.find? fun k => k.1 = key with
    | some k => do
      k.2 value
      known.check rest
    | none => known.check rest

def requiredMember {α : Type} (key : String) (d : Decoder α) (ms : List (String × Json)) :
    Except DecodeError α :=
  match Json.lookup key ms with
  | some j => d j
  | none => .error (.missingMember key)

def optionalMember {α : Type} (key : String) (d : Decoder α) (ms : List (String × Json)) :
    Except DecodeError (Option α) :=
  match Json.lookup key ms with
  | some j => Decoder.optional d j
  | none => .ok none

def textMember (key text : String) : String × Json := (key, .string text)

def timeMember (key : String) (millis : Int64) : String × Json := (key, .number (.ofInt64 millis))

def textsJson (texts : List String) : Json := .array (texts.map .string)

def memberIfSet {α : Type} (key : String) (encode : α → Json) : Option α → List (String × Json)
  | none => []
  | some a => [(key, encode a)]

end DocumentGraph
