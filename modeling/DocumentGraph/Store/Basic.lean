import DocumentGraph.Database.Engine
set_option autoImplicit false

/-!
# Stores

A store is a database with a configuration, counters of what was done through it, the names of the
collections that were opened and the clock. Operations on a store either give a value or fail with
a `StoreError`; what they did to the store before they failed stays done. A counter counts on
without a bound; one of 64 bits agrees with it up to `2 ^ 64 - 1`.
-/

namespace DocumentGraph

structure Config where
  defaultThreshold : Option Binary64
  /-- Whether literal objects in filters may have keys that look like unknown operators. -/
  strictFilters : Bool
  tableName : String
deriving DecidableEq

namespace Config

def initial : Config := ⟨none, false, "documents"⟩

def builtInThreshold : Binary64 := (⟨8, -1⟩ : Decimal).toBinary64 false

def effectiveThreshold (c : Config) : Binary64 := c.defaultThreshold.getD builtInThreshold

end Config

structure Metrics where
  reads : Nat
  writes : Nat
  deletes : Nat
  queries : Nat
  documentsRead : Nat
  errors : Nat
deriving DecidableEq, Repr

namespace Metrics

def zero : Metrics := ⟨0, 0, 0, 0, 0, 0⟩

def recordRead (found : Bool) (m : Metrics) : Metrics :=
  { m with reads := m.reads + 1, documentsRead := m.documentsRead + if found then 1 else 0 }

def recordWrite (m : Metrics) : Metrics := { m with writes := m.writes + 1 }

def recordDelete (m : Metrics) : Metrics := { m with deletes := m.deletes + 1 }

def recordQuery (returned : Nat) (m : Metrics) : Metrics :=
  { m with queries := m.queries + 1, documentsRead := m.documentsRead + returned }

def recordError (m : Metrics) : Metrics := { m with errors := m.errors + 1 }

end Metrics

/-- Readings of the clock in milliseconds, and how many were taken. -/
structure Clock where
  reading : Nat → Int64
  taken : Nat

namespace Clock

def now (c : Clock) : Int64 := c.reading c.taken

def advance (c : Clock) : Clock := { c with taken := c.taken + 1 }

def still (millis : Int64) : Clock := ⟨fun _ => millis, 0⟩

end Clock

structure Store where
  config : Config
  database : Database
  metrics : Metrics
  opened : List String
  clock : Clock

abbrev StoreM := ExceptT StoreError (StateM Store)

namespace Store

/-- Opens a store on a database, which has to be open itself and to accept the table name. -/
def openOn (config : Config) (db : Database) (clock : Clock) : Except StoreError Store :=
  if TableName.isWord config.tableName then
    match db.createTable config.tableName with
    | .ok db => .ok ⟨config, db, .zero, [], clock⟩
    | .error e => .error (.storage e)
  else .error (.configuration (.tableName config.tableName))

def entries (s : Store) : Entries := s.database.entries s.config.tableName

def readClock : StoreM Int64 := fun s => (.ok s.clock.now, { s with clock := s.clock.advance })

def record (f : Metrics → Metrics) : StoreM Unit :=
  fun s => (.ok (), { s with metrics := f s.metrics })

def check {α : Type} (r : Except StoreError α) : StoreM α := fun s => (r, s)

def exec (statement : Statement) : StoreM Cursor := fun s =>
  match s.database.exec s.config.tableName statement with
  | (.ok cursor, db) => (.ok cursor, { s with database := db })
  | (.error e, db) => (.error (.storage e), { s with database := db })

/-- Executes a statement and counts its refusal. -/
def observed (statement : Statement) : StoreM Cursor := fun s =>
  match exec statement s with
  | (.ok cursor, s) => (.ok cursor, s)
  | (.error e, s) => (.error e, { s with metrics := s.metrics.recordError })

def collections : StoreM (List String) := do
  let cursor ← exec .collections
  return cursor.rows.filterMap (·.text? "collection")

def close (s : Store) : Store := { s with database := s.database.close }

def opening (name : String) (s : Store) : Store :=
  { s with opened := if s.opened.contains name then s.opened else s.opened ++ [name] }

end Store

end DocumentGraph
