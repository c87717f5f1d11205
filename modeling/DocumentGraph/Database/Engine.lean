import DocumentGraph.Database.Statement
import DocumentGraph.Sql.TableName
set_option autoImplicit false

/-!
# The engine

The engine keeps tables of entries in the order of their first writing. A replaced entry keeps its
place and the time of its first writing; an entry that was removed and is put again goes last. Each
statement either takes effect as a whole and gives a cursor, or is an error and has no effect: a
closed engine refuses every statement, and an open one may be told to refuse a single statement
later on.

The engine is taken to have no bounds of its own: conditions may nest deeper than a thousand levels,
statements may have more than 32766 placeholders and texts more than a billion bytes. What an engine
that has these bounds does beyond them is a refusal like any other.
-/

namespace DocumentGraph

/-- The entries of a table, in the order of their first writing. -/
abbrev Entries := List Entry

namespace Entries

def isAt (collection id : String) (e : Entry) : Bool := e.collection = collection ∧ e.id = id

def put (collection id : String) (data : Json) (now : Int64) : Entries → Entries
  | [] => [⟨collection, id, data, now, now⟩]
  | e :: rest =>
    if isAt collection id e then { e with data := data, updatedAt := now } :: rest
    else e :: put collection id data now rest

def fetch (collection id : String) (es : Entries) : Option Entry := es.find? (isAt collection id)

theorem data_fetch_put (collection id : String) (data : Json) (now : Int64) (es : Entries) :
    ((es.put collection id data now).fetch collection id).map (·.data) = some data := by
  induction es with
  | nil => simp [put, fetch, isAt]
  | cons e rest ih =>
    by_cases h : isAt collection id e = true
    · have h' : isAt collection id { e with data := data, updatedAt := now } = true := h
      simp [put, fetch, h, h']
    · simp only [put, fetch, h] at ih ⊢
      simpa [h] using ih

def remove (collection id : String) (es : Entries) : Entries :=
  es.filter fun e => !isAt collection id e

theorem fetch_remove (collection id : String) (es : Entries) :
    (es.remove collection id).fetch collection id = none := by
  simp [remove, fetch, List.find?_filter]

def isSelected (collection : String) (p : Predicate) (e : Entry) : Bool :=
  e.collection = collection ∧ p.selects e.data

def select (collection : String) (p : Predicate) (es : Entries) : Entries :=
  es.filter (isSelected collection p)

def removeWhere (collection : String) (p : Predicate) (es : Entries) : Entries :=
  es.filter fun e => !isSelected collection p e

def sorted (key : Option SortKey) (es : Entries) : Entries :=
  match key with
  | none => es
  | some k => es.mergeSort fun a b => Tail.mayPrecede k a.data b.data

def paged (page : Option Page) (es : Entries) : Entries :=
  match page with
  | none => es
  | some p => p.cut es

def find (collection : String) (p : Predicate) (t : Tail) (es : Entries) : Entries :=
  paged t.page (sorted t.sort (es.select collection p))

def ascending (names : List String) : List String := names.mergeSort fun s t => decide (s ≤ t)

def keys (collection : String) (es : Entries) : List String :=
  ascending ((es.filter fun e => e.collection = collection).map (·.id))

/-- Removes the repeats of a list that stand next to each other. -/
def withoutRepeats : List String → List String
  | [] => []
  | [s] => [s]
  | s :: t :: rest => if s = t then withoutRepeats (t :: rest) else s :: withoutRepeats (t :: rest)

def collections (es : Entries) : List String :=
  withoutRepeats (ascending (es.map (·.collection)))

end Entries

namespace Cursor

def documentRow (e : Entry) : SqlRow :=
  ⟨Statement.documentColumns,
    [.text e.id, .text e.data.compact, .integer e.createdAt, .integer e.updatedAt]⟩

def ofEntries (es : Entries) : Cursor := .ofRows (es.map documentRow)

def ofTexts (column : String) (texts : List String) : Cursor :=
  .ofRows (texts.map fun s => ⟨[column], [.text s]⟩)

def ofCount (column : String) (n : Nat) : Cursor :=
  .ofRows [⟨[column], [.integer (Int64.ofNat n)]⟩]

end Cursor

def Statement.run : Statement → Entries → Cursor × Entries
  | .put collection id data now, es => (.written 1, es.put collection id data now)
  | .fetch collection id, es => (.ofEntries (es.fetch collection id).toList, es)
  | .present collection id, es =>
    (.ofRows ((es.fetch collection id).toList.map fun _ => ⟨["present"], [.integer 1]⟩), es)
  | .remove collection id, es =>
    (.written (es.length - (es.remove collection id).length), es.remove collection id)
  | .find collection p t, es => (.ofEntries (es.find collection p t), es)
  | .count collection p, es => (.ofCount "n" (es.select collection p).length, es)
  | .removeWhere collection p, es =>
    (.written (es.select collection p).length, es.removeWhere collection p)
  | .keys collection, es => (.ofTexts "id" (es.keys collection), es)
  | .collections, es => (.ofTexts "collection" es.collections, es)

/-- A single statement that will be refused, after so many others. -/
structure Refusal where
  after : Nat
  message : String
deriving DecidableEq

def Refusal.step : Option Refusal → Option StorageError × Option Refusal
  | none => (none, none)
  | some ⟨0, message⟩ => (some (.refused message), none)
  | some ⟨n + 1, message⟩ => (none, some ⟨n, message⟩)

structure Database where
  tables : List (String × Entries)
  isOpen : Bool
  refusal : Option Refusal

namespace Database

def empty : Database := ⟨[], true, none⟩

/-- Table names that differ only in the case of their letters denote one table. -/
def tableKey (name : String) : String := name.map Char.toLower

def findTable (key : String) : List (String × Entries) → Entries
  | [] => []
  | (k, es) :: rest => if k = key then es else findTable key rest

def setTable (key : String) (es : Entries) : List (String × Entries) → List (String × Entries)
  | [] => [(key, es)]
  | (k, old) :: rest => if k = key then (k, es) :: rest else (k, old) :: setTable key es rest

def entries (db : Database) (table : String) : Entries := findTable (tableKey table) db.tables

def withEntries (db : Database) (table : String) (es : Entries) : Database :=
  { db with tables := setTable (tableKey table) es db.tables }

def createTable (db : Database) (table : String) : Except StorageError Database :=
  if db.isOpen then
    match TableName.refusal? table with
    | some message => .error (.refused message)
    | none => .ok (db.withEntries table (db.entries table))
  else .error .closed

def close (db : Database) : Database := { db with isOpen := false }

def exec (table : String) (s : Statement) (db : Database) :
    Except StorageError Cursor × Database :=
  if db.isOpen then
    match Refusal.step db.refusal with
    | (some e, refusal) => (.error e, { db with refusal := refusal })
    | (none, refusal) =>
      let (cursor, es) := s.run (db.entries table)
      (.ok cursor, { db.withEntries table es with refusal := refusal })
  else (.error .closed, db)

theorem exec_of_closed {db : Database} (h : db.isOpen = false) (table : String) (s : Statement) :
    db.exec table s = (.error .closed, db) := by simp [exec, h]

end Database

namespace Database

theorem findTable_setTable_self (key : String) (es : Entries) (ts : List (String × Entries)) :
    findTable key (setTable key es ts) = es := by
  induction ts with
  | nil => simp [setTable, findTable]
  | cons t rest ih =>
    obtain ⟨k, old⟩ := t
    by_cases h : k = key <;> simp [setTable, findTable, h, ih]

theorem findTable_setTable_of_ne {key other : String} (h : other ≠ key) (es : Entries)
    (ts : List (String × Entries)) :
    findTable other (setTable key es ts) = findTable other ts := by
  induction ts with
  | nil => simp [setTable, findTable, Ne.symm h]
  | cons t rest ih =>
    obtain ⟨k, old⟩ := t
    by_cases hk : k = key
    · subst hk; simp [setTable, findTable, Ne.symm h]
    · by_cases ho : k = other
      · subst ho; simp [setTable, findTable, hk]
      · simp [setTable, findTable, hk, ho, ih]

theorem entries_withEntries (db : Database) (table : String) (es : Entries) :
    (db.withEntries table es).entries table = es := findTable_setTable_self _ _ _

end Database

end DocumentGraph
