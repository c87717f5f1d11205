import DocumentGraph.Field
import DocumentGraph.Json.Printer
import DocumentGraph.Sql.Value
set_option autoImplicit false

/-!
# Values extracted from documents

A field path is walked through objects only. What it leads to becomes an SQL value: truth values
become integers, numbers beyond 64-bit integers are rounded to binary64, arrays and objects become
their compact text, and an absent member is null like a null one. The kind of the member tells
apart what the value alone does not.

It is assumed of the engine that it reads documents however deep they nest, that it rounds a decimal
to the nearest binary64 datum whatever its number of digits, and that keys and texts go on behind a
NUL.
-/

namespace DocumentGraph

inductive JsonKind where
  | null
  | yes
  | no
  | integer
  | real
  | text
  | array
  | object
deriving DecidableEq, Repr

def JsonKind.name : JsonKind → String
  | .null => "null"
  | .yes => "true"
  | .no => "false"
  | .integer => "integer"
  | .real => "real"
  | .text => "text"
  | .array => "array"
  | .object => "object"

def Number.sqlValue : Number → SqlValue
  | .int i _ _ => if i < 9223372036854775808 then .integer (Int64.ofInt i) else .real (Binary64.ofInt i)
  | .float x _ => .real x

namespace Json

def kind : Json → JsonKind
  | .null => .null
  | .bool true => .yes
  | .bool false => .no
  | .number (.int _ _ _) => .integer
  | .number (.float _ _) => .real
  | .string _ => .text
  | .array _ => .array
  | .object _ => .object

def sqlValue : Json → SqlValue
  | .null => .null
  | .bool b => .ofBool b
  | .number n => n.sqlValue
  | .string s => .text s
  | .array items => .text (compact (.array items))
  | .object members => .text (compact (.object members))

def at? (doc : Json) (f : Field) : Option Json := walk f.segments doc

def extract (doc : Json) (f : Field) : SqlValue :=
  match doc.at? f with
  | some j => j.sqlValue
  | none => .null

def kindAt (doc : Json) (f : Field) : Option JsonKind := (doc.at? f).map kind

theorem extract_of_at? {doc j : Json} {f : Field} (h : doc.at? f = some j) :
    doc.extract f = j.sqlValue := by rw [extract, h]

theorem extract_of_absent {doc : Json} {f : Field} (h : doc.at? f = none) :
    doc.extract f = .null := by rw [extract, h]

theorem sqlValue_eq_null_iff {j : Json} : j.sqlValue = .null ↔ j = .null := by
  constructor
  · intro h
    cases j with
    | null => rfl
    | number n =>
      cases n with
      | int i low high =>
        simp only [sqlValue, Number.sqlValue] at h
        split at h <;> cases h
      | float x finite => cases h
    | _ => cases h
  · rintro rfl; rfl

end Json

end DocumentGraph
