import DocumentGraph.Error
import DocumentGraph.Sql.Extract
set_option autoImplicit false

/-!
# Query options

Options choose an order and a page of what a filter selects. The tail of a statement is what they
become: a sort key, or insertion order, and the bounds of the page. An offset without a limit is
refused before the sort token is looked at. Bounds beyond a 64-bit integer select no less than the
greatest one.
-/

namespace DocumentGraph

structure QueryOptions where
  sort : Option String
  limit : Option UInt64
  offset : Option UInt64
deriving DecidableEq

/-- A bound of a page and, with it, how many rows to skip first. -/
structure Page where
  limit : Int64
  offset : Option Int64
deriving DecidableEq

/-- Order and page of a statement. Rows that are tied keep the order of insertion. -/
structure Tail where
  sort : Option SortKey
  page : Option Page
deriving DecidableEq

namespace QueryOptions

def unrestricted : QueryOptions := ⟨none, none, none⟩

def clamped (n : UInt64) : Int64 :=
  if n.toNat < 9223372036854775808 then Int64.ofNat n.toNat else Int64.maxValue

def page (o : QueryOptions) : Option Page :=
  o.limit.map fun limit => ⟨clamped limit, o.offset.map clamped⟩

def tail (o : QueryOptions) : Except StoreError Tail :=
  if o.offset.isSome ∧ o.limit.isNone then .error (.invalidQuery .offsetWithoutLimit)
  else
    match o.sort with
    | some token => (validSortToken token).map fun key => ⟨some key, o.page⟩
    | none => .ok ⟨none, o.page⟩

end QueryOptions

namespace Tail

def direction (key : SortKey) : String := if key.descending then "DESC" else "ASC"

def sortText (column : String) (key : SortKey) : String :=
  "json_extract(" ++ column ++ ", '" ++ key.field.jsonPath ++ "') " ++ direction key ++ ", "

/-- The text of the tail; bounds are left to placeholders. -/
def text (column : String) (t : Tail) : String :=
  " ORDER BY " ++ (t.sort.map (sortText column)).getD "" ++ "rowid ASC" ++
    match t.page with
    | none => ""
    | some p => " LIMIT ?" ++ if p.offset.isSome then " OFFSET ?" else ""

def params (t : Tail) : List SqlValue :=
  match t.page with
  | none => []
  | some p => .integer p.limit :: (p.offset.map SqlValue.integer).toList

def mayPrecede (key : SortKey) (a b : Json) : Bool :=
  let o := (a.extract key.field).order (b.extract key.field)
  if key.descending then o ≠ .lt else o ≠ .gt

end Tail

namespace Page

def cut {α : Type} (p : Page) (rows : List α) : List α :=
  (rows.drop (p.offset.getD 0).toInt.toNat).take p.limit.toInt.toNat

end Page

end DocumentGraph
