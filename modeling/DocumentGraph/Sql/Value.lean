import DocumentGraph.Number.Layout
import DocumentGraph.Text.Quoted
set_option autoImplicit false

/-!
# SQL values

A value bound to a placeholder or read from a column is null, a 64-bit integer, a binary64 datum
or a text; truth values travel as integers and JSON as text. Values are ordered with null first,
then all numbers by their exact value, then texts by their characters.
-/

namespace DocumentGraph

inductive SqlValue where
  | null
  | integer (i : Int64)
  | real (x : Binary64)
  | text (s : String)
deriving DecidableEq

instance : Inhabited SqlValue := ⟨.null⟩

namespace SqlValue

def ofBool (b : Bool) : SqlValue := .integer (if b then 1 else 0)

def ofUInt32 (n : UInt32) : SqlValue := .integer (Int64.ofNat n.toNat)

def ofOption {α : Type} (f : α → SqlValue) : Option α → SqlValue
  | none => .null
  | some a => f a

def asText : SqlValue → Option String
  | .text s => some s
  | _ => none

def asInteger : SqlValue → Option Int64
  | .integer i => some i
  | _ => none

def isNull : SqlValue → Bool
  | .null => true
  | _ => false

def intText (i : Int64) : String := String.ofList (Layout.intChars i.toInt)

def display : SqlValue → String
  | .null => "NULL"
  | .integer i => intText i
  | .real x => x.plainText
  | .text s => quoted s

def rank : SqlValue → Nat
  | .null => 0
  | .integer _ => 1
  | .real _ => 1
  | .text _ => 2

def scaled : SqlValue → Int
  | .integer i => i.toInt * (Binary64.unitScale : Int)
  | .real x => x.scaled
  | _ => 0

def order (a b : SqlValue) : Ordering :=
  match a, b with
  | .text s, .text t => compare s t
  | _, _ =>
    if a.rank = b.rank then compare a.scaled b.scaled else compare a.rank b.rank

end SqlValue

/-- One result row: the names of the columns and the values, of which there may be fewer or more. -/
structure SqlRow where
  columns : List String
  values : List SqlValue
deriving DecidableEq

namespace SqlRow

def get? (row : SqlRow) (column : String) : Option SqlValue :=
  (row.columns.findIdx? (· = column)).bind fun i => row.values[i]?

def getIndex? (row : SqlRow) (i : Nat) : Option SqlValue := row.values[i]?

def text? (row : SqlRow) (column : String) : Option String := (row.get? column).bind SqlValue.asText

def integer? (row : SqlRow) (column : String) : Option Int64 :=
  (row.get? column).bind SqlValue.asInteger

end SqlRow

/-- What one statement gave: the rows it read, or the number of rows it wrote. -/
structure Cursor where
  rows : List SqlRow
  rowsWritten : Nat
deriving DecidableEq

namespace Cursor

def ofRows (rows : List SqlRow) : Cursor := ⟨rows, 0⟩

def written (n : Nat) : Cursor := ⟨[], n⟩

def rowsRead (c : Cursor) : Nat := c.rows.length

def one? (c : Cursor) : Option SqlRow := c.rows.head?

theorem rowsRead_ofRows (rows : List SqlRow) : (ofRows rows).rowsRead = rows.length := rfl

theorem rowsWritten_ofRows (rows : List SqlRow) : (ofRows rows).rowsWritten = 0 := rfl

theorem rowsRead_written (n : Nat) : (written n).rowsRead = 0 := rfl

theorem rowsWritten_written (n : Nat) : (written n).rowsWritten = n := rfl

end Cursor

end DocumentGraph
