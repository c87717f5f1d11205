import DocumentGraph.Database.Engine
import DocumentGraph.Proofs.Sql.Grammar
import Mathlib.Data.List.Dedup
set_option autoImplicit false

/-!
# Statements as SQL reads them

The text of a statement is read here without knowledge of how it was made, into a sentence about the
columns of a table, and `Gives` says what a sentence does to the rows of the table. An order that is not
asked for is not promised. Behind the formula of a condition the brackets have to match.
-/

namespace DocumentGraph.Sql

inductive Column where
  | collection
  | id
  | data
  | createdAt
  | updatedAt
deriving DecidableEq

namespace Column

def name : Column → String
  | collection => "collection"
  | id => "id"
  | data => "data"
  | createdAt => "created_at"
  | updatedAt => "updated_at"

def ofName? : String → Option Column
  | "collection" => some collection
  | "id" => some id
  | "data" => some data
  | "created_at" => some createdAt
  | "updated_at" => some updatedAt
  | _ => none

def value (e : Entry) : Column → SqlValue
  | collection => .text e.collection
  | id => .text e.id
  | data => .text e.data.compact
  | createdAt => .integer e.createdAt
  | updatedAt => .integer e.updatedAt

def taken (new old : Entry) : Column → Entry
  | collection => { old with collection := new.collection }
  | id => { old with id := new.id }
  | data => { old with data := new.data }
  | createdAt => { old with createdAt := new.createdAt }
  | updatedAt => { old with updatedAt := new.updatedAt }

end Column

/-- Columns that have the values of placeholders, and a formula on the document. -/
structure Where where
  columns : List Column
  formula : Formula

inductive OrderTerm where
  | rowid
  | column (c : Column)
  | member (key : SortKey)

inductive Results where
  | columns (distinct : Bool) (cs : List Column)
  | one (name : String)
  | count (name : String)

inductive Bounds where
  | none
  | limit
  | limitAndOffset

inductive Sentence where
  /-- A row whose key is taken in the columns of a constraint has some of its columns replaced. -/
  | insert (table : String) (columns constraint replaced : List Column)
  | delete (table : String) (w : Where)
  | select (r : Results) (table : String) (w : Where) (order : List OrderTerm) (bounds : Bounds)

def Sentence.table : Sentence → String
  | insert table _ _ _ => table
  | delete table _ => table
  | select _ table _ _ _ => table

/-- The truth of the condition for a row, and the placeholder values that are left. -/
def Where.eval (e : Entry) : List Column → Formula → List SqlValue → Truth × List SqlValue
  | [], q, ps => q.eval e.data ps
  | c :: cs, q, ps =>
    let (v, ps) := Condition.next ps
    let (t, ps) := eval e cs q ps
    (((c.value e).compared (· = .eq) v).and t, ps)

def Where.selects (w : Where) (ps : List SqlValue) (e : Entry) : Bool :=
  (Where.eval e w.columns w.formula ps).1.isTrue

/-- Whatever row is looked at, the condition takes all values but these. -/
def Where.Leaves (w : Where) (ps rest : List SqlValue) : Prop :=
  ∀ e, (Where.eval e w.columns w.formula ps).2 = rest

/-- Rows are numbered in the order in which they were first written. -/
abbrev NumberedRow := Entry × Nat

def OrderTerm.order (a b : NumberedRow) : OrderTerm → Ordering
  | rowid => compare a.2 b.2
  | column c => (c.value a.1).order (c.value b.1)
  | member key =>
    let o := (a.1.data.extract key.field).order (b.1.data.extract key.field)
    if key.descending then o.swap else o

/-- The first row may stand before the second one; a term counts where those before it are tied. -/
def InOrder (terms : List OrderTerm) (a b : NumberedRow) : Prop :=
  (terms.foldr (fun t o => (t.order a b).then o) .eq) ≠ .gt

def Results.rows (es : Entries) : Results → List SqlRow
  | columns distinct cs =>
    let rows := es.map fun e => ⟨cs.map Column.name, cs.map (Column.value e)⟩
    if distinct then rows.dedup else rows
  | one name => es.map fun _ => ⟨[name], [.integer 1]⟩
  | count name => [⟨[name], [.integer (Int64.ofNat es.length)]⟩]

/-- A limit below zero is none. -/
def limited {α : Type} (limit : Int64) (rows : List α) : List α :=
  if limit < 0 then rows else rows.take limit.toInt.toNat

/-- The rows within the bounds, if there is a value for each. -/
def Bounds.cut {α : Type} (rows : List α) : Bounds → List SqlValue → Option (List α)
  | none, [] => some rows
  | limit, [.integer n] => some (limited n rows)
  | limitAndOffset, [.integer n, .integer m] => some (limited n (rows.drop m.toInt.toNat))
  | _, _ => Option.none

def upserted (constraint replaced : List Column) (new : Entry) : Entries → Entries
  | [] => [new]
  | old :: rest =>
    if constraint.all fun c => c.value old = c.value new then
      replaced.foldl (fun e c => c.taken new e) old :: rest
    else old :: upserted constraint replaced new rest

/-- With these values for the placeholders the sentence gives this cursor and leaves these rows. -/
def Sentence.Gives (ps : List SqlValue) (es : Entries) : Sentence → Cursor × Entries → Prop
  | insert _ columns constraint replaced, out =>
    ∃ new : Entry, new.data.WellFormed ∧ columns.map (Column.value new) = ps ∧
      out = (.written 1, upserted constraint replaced new es)
  | delete _ w, out =>
    w.Leaves ps [] ∧
      out = (.written (es.countP (w.selects ps)), es.filter fun e => !w.selects ps e)
  | select r _ w order bounds, out =>
    ∃ (rest : List SqlValue) (rows : List NumberedRow) (cut : List SqlRow), w.Leaves ps rest ∧
      rows.Perm (es.zipIdx.filter fun x => w.selects ps x.1) ∧ rows.Pairwise (InOrder order) ∧
      bounds.cut (r.rows (rows.map (·.1))) rest = some cut ∧ out = (.ofRows cut, es)

def untilClosing : Nat → List Token → Option (List Token × List Token)
  | _, [] => none
  | 0, .closing :: ts => some ([], ts)
  | n + 1, .closing :: ts => (untilClosing n ts).map fun x => (.closing :: x.1, x.2)
  | n, .opening :: ts => (untilClosing (n + 1) ts).map fun x => (.opening :: x.1, x.2)
  | n, t :: ts => (untilClosing n ts).map fun x => (t :: x.1, x.2)

def readColumns : List Token → Option (List Column × List Token)
  | .name s :: .comma :: ts => do
    let c ← Column.ofName? s
    let (cs, ts) ← readColumns ts
    return (c :: cs, ts)
  | .name s :: ts => do
    let c ← Column.ofName? s
    return ([c], ts)
  | _ => none

def readMarks : List Column → List Token → Option (List Token)
  | [_], .mark :: ts => some ts
  | _ :: cs, .mark :: .comma :: ts => readMarks cs ts
  | _, _ => none

def readReplaced : List Token → Option (List Column)
  | .name s :: .relation .equals :: .name "excluded" :: .other "." :: .name t :: ts => do
    let c ← Column.ofName? s
    if s = t then
      match ts with
      | [] => return [c]
      | .comma :: ts => return c :: (← readReplaced ts)
      | _ => none
    else none
  | _ => none

def readInsert (table : String) (ts : List Token) : Option Sentence := do
  let (columns, ts) ← readColumns ts
  match ts with
  | .closing :: .name "VALUES" :: .opening :: ts =>
    match ← readMarks columns ts with
    | .closing :: .name "ON" :: .name "CONFLICT" :: .opening :: ts =>
      let (constraint, ts) ← readColumns ts
      match ts with
      | .closing :: .name "DO" :: .name "UPDATE" :: .name "SET" :: ts =>
        return .insert table columns constraint (← readReplaced ts)
      | _ => none
    | _ => none
  | _ => none

def readTests : List Token → Option (Where × List Token)
  | .name s :: .relation .equals :: .mark :: .connective .and :: ts => do
    let c ← Column.ofName? s
    let (w, ts) ← readTests ts
    return (⟨c :: w.columns, w.formula⟩, ts)
  | .name s :: .relation .equals :: .mark :: ts => do
    let c ← Column.ofName? s
    return (⟨[c], .bit true⟩, ts)
  | .opening :: ts => do
    let (inside, ts) ← untilClosing 0 ts
    let q ← read "data" .operand [] inside
    return (⟨[], q⟩, ts)
  | _ => none

def readWhere : List Token → Option (Where × List Token)
  | .name "WHERE" :: ts => readTests ts
  | ts => some (⟨[], .bit true⟩, ts)

def readDirection : List Token → Option (Bool × List Token)
  | .name "ASC" :: ts => some (false, ts)
  | .name "DESC" :: ts => some (true, ts)
  | _ => none

/-- Members are ordered in both directions, everything else in ascending order. -/
def readTerm : List Token → Option (OrderTerm × List Token)
  | .access .value :: .opening :: .name "data" :: .comma :: .quoted path :: .closing :: ts => do
    let f ← fieldOf path
    let (descending, ts) ← readDirection ts
    return (.member ⟨f, descending⟩, ts)
  | .name "rowid" :: .name "ASC" :: ts => some (.rowid, ts)
  | .name s :: .name "ASC" :: ts => (Column.ofName? s).map fun c => (.column c, ts)
  | _ => none

def readTerms : Nat → List Token → Option (List OrderTerm × List Token)
  | 0, _ => none
  | n + 1, ts => do
    let (t, ts) ← readTerm ts
    match ts with
    | .comma :: ts =>
      let (terms, ts) ← readTerms n ts
      return (t :: terms, ts)
    | ts => return ([t], ts)

def readOrder : List Token → Option (List OrderTerm × List Token)
  | .name "ORDER" :: .name "BY" :: ts => readTerms ts.length ts
  | ts => some ([], ts)

def readBounds : List Token → Option Bounds
  | [] => some .none
  | [.name "LIMIT", .mark] => some .limit
  | [.name "LIMIT", .mark, .name "OFFSET", .mark] => some .limitAndOffset
  | _ => none

def readResults : List Token → Option (Results × List Token)
  | .bit true :: .name "AS" :: .name s :: ts => some (.one s, ts)
  | .name "COUNT" :: .opening :: .other "*" :: .closing :: .name "AS" :: .name s :: ts =>
    some (.count s, ts)
  | .name "DISTINCT" :: ts => (readColumns ts).map fun x => (.columns true x.1, x.2)
  | ts => (readColumns ts).map fun x => (.columns false x.1, x.2)

def Sentence.ofTokens? : List Token → Option Sentence
  | .name "INSERT" :: .name "INTO" :: .name table :: .opening :: ts => readInsert table ts
  | .name "DELETE" :: .name "FROM" :: .name table :: ts => do
    match ← readWhere ts with
    | (w, []) => return .delete table w
    | _ => none
  | .name "SELECT" :: ts => do
    match ← readResults ts with
    | (r, .name "FROM" :: .name table :: ts) =>
      let (w, ts) ← readWhere ts
      let (order, ts) ← readOrder ts
      return .select r table w order (← readBounds ts)
    | _ => none
  | _ => none

def Sentence.ofText? (text : String) : Option Sentence := ofTokens? (lexed .nothing text.toList)

end DocumentGraph.Sql
