import DocumentGraph.Graph.Traversal
import DocumentGraph.Proofs.Database.Archive
import DocumentGraph.Proofs.Store.Operation
set_option autoImplicit false

/-!
# Agreeing stores

Two stores agree if their engines are ready, all their tables have the same entries, and neither the
configuration nor the clock tells them apart; their counters and the collections that were opened may
differ. An operation is uniform if it ends alike on stores that agree, which then agree again, and does
nothing to the database but execute statements. What is made of uniform operations is uniform.
-/

namespace DocumentGraph

namespace Database

variable {db after : Database} {table other : String} {statement : Statement}
  {Q : Statement → Prop}

def Ready (db : Database) : Prop := db.isOpen = true ∧ db.refusal = none

theorem exec_of_ready (h : db.Ready) (table : String) (statement : Statement) :
    db.exec table statement = (.ok (statement.run (db.entries table)).1,
      { db.withEntries table (statement.run (db.entries table)).2 with refusal := none }) := by
  rw [exec, if_pos h.1, h.2]
  rfl

theorem Ready.exec (h : db.Ready) (table : String) (statement : Statement) :
    (db.exec table statement).2.Ready := by
  rw [exec_of_ready h]
  exact ⟨h.1, rfl⟩

theorem entries_of_key (h : tableKey other = tableKey table) (db : Database) :
    db.entries other = db.entries table :=
  congrArg (findTable · db.tables) h

theorem entries_exec_self (h : db.Ready) (hkey : tableKey other = tableKey table)
    (statement : Statement) :
    (db.exec table statement).2.entries other = (statement.run (db.entries table)).2 := by
  rw [entries_of_key hkey, exec_of_ready h]
  exact entries_withEntries db table _

theorem entries_exec_of_ne (h : db.Ready) (hkey : tableKey other ≠ tableKey table)
    (statement : Statement) : (db.exec table statement).2.entries other = db.entries other := by
  rw [exec_of_ready h]
  exact findTable_setTable_of_ne hkey _ db.tables

/-- The database after statements with the property were executed on it, one after the other. -/
inductive Executed (Q : Statement → Prop) (table : String) (db : Database) : Database → Prop where
  | nothing : Executed Q table db db
  | statement {after : Database} (h : Executed Q table db after) {statement : Statement}
      (hs : Q statement) : Executed Q table db (after.exec table statement).2

namespace Executed

theorem trans {last : Database} (h : Executed Q table db after) (k : Executed Q table after last) :
    Executed Q table db last := by
  induction k with
  | nothing => exact h
  | statement _ hs ih => exact ih.statement hs

theorem mono {R : Statement → Prop} (h : Executed Q table db after) (hQ : ∀ s, Q s → R s) :
    Executed R table db after := by
  induction h with
  | nothing => exact .nothing
  | statement _ hs ih => exact ih.statement (hQ _ hs)

theorem ready (h : Executed Q table db after) (hdb : db.Ready) : after.Ready := by
  induction h with
  | nothing => exact hdb
  | statement _ _ ih => exact ih.exec table _

theorem fits {limit : Nat} (h : Executed Q table db after) (hQ : ∀ s, Q s → s.Fits limit)
    (hdb : db.Fits limit) : after.Fits limit := by
  induction h with
  | nothing => exact hdb
  | statement _ hs ih => exact ih.exec (hQ _ hs) table

theorem entries_of_ne (h : Executed Q table db after) (hdb : db.Ready)
    (hkey : tableKey other ≠ tableKey table) : after.entries other = db.entries other := by
  induction h with
  | nothing => rfl
  | statement h _ ih => rw [entries_exec_of_ne (h.ready hdb) hkey, ih]

theorem entries_of_isQuery (h : Executed Q table db after) (hdb : db.Ready)
    (hQ : ∀ s, Q s → s.isQuery = true) (other : String) : after.entries other = db.entries other := by
  have hrun {s : Statement} (hs : s.isQuery = true) (es : Entries) : (s.run es).2 = es := by
    cases s <;> first | rfl | cases hs
  induction h with
  | nothing => rfl
  | statement h hs ih =>
    by_cases hkey : tableKey other = tableKey table
    · rw [entries_exec_self (h.ready hdb) hkey, hrun (hQ _ hs), ← entries_of_key hkey, ih]
    · rw [entries_exec_of_ne (h.ready hdb) hkey, ih]

end Executed

end Database

namespace Store

/-- Nothing that an operation looks at tells the stores apart. -/
structure Agrees (s t : Store) : Prop where
  ready : s.database.Ready
  alsoReady : t.database.Ready
  config : t.config = s.config
  clock : t.clock = s.clock
  entries : ∀ table, t.database.entries table = s.database.entries table

variable {s t : Store}

theorem Agrees.exec (h : s.Agrees t) (statement : Statement) :
    Agrees { s with database := (s.database.exec s.config.tableName statement).2 }
      { t with database := (t.database.exec t.config.tableName statement).2 } := by
  refine ⟨h.ready.exec _ _, h.alsoReady.exec _ _, h.config, h.clock, fun table => ?_⟩
  change (t.database.exec t.config.tableName statement).2.entries table =
    (s.database.exec s.config.tableName statement).2.entries table
  rw [h.config]
  by_cases hkey : Database.tableKey table = Database.tableKey s.config.tableName
  · rw [Database.entries_exec_self h.ready hkey, Database.entries_exec_self h.alsoReady hkey,
      h.entries]
  · rw [Database.entries_exec_of_ne h.ready hkey, Database.entries_exec_of_ne h.alsoReady hkey,
      h.entries]

end Store

class Storing (σ : Type) where
  store : σ → Store

instance : Storing Store := ⟨fun s => s⟩

instance : Storing Graph := ⟨fun g => g.store⟩

namespace Operation

open Storing

variable {σ α β : Type} [Storing σ] {Q R : Statement → Prop} {m : Operation σ α}
  {f : α → Operation σ β}

def Queries (s : Statement) : Prop := s.isQuery = true

/-- The operation ends alike on states whose stores agree, and executes only statements with the
property. -/
def Uniform (Q : Statement → Prop) (m : Operation σ α) : Prop :=
  ∀ s t, (store s).Agrees (store t) → ∃ r s' t', m s = (r, s') ∧ m t = (r, t') ∧
    (store s').Agrees (store t') ∧ (store s').config = (store s).config ∧
    Database.Executed Q (store s).config.tableName (store s).database (store s').database

theorem Uniform.mono (hm : Uniform Q m) (hQ : ∀ s, Q s → R s) : Uniform R m := by
  intro s t h
  obtain ⟨r, s', t', hs, ht, hagree, hconfig, hdone⟩ := hm s t h
  exact ⟨r, s', t', hs, ht, hagree, hconfig, hdone.mono hQ⟩

theorem uniform_of_same {r : Config → Except StoreError α}
    (hm : ∀ s, m s = (r (store s).config, s)) : Uniform Q m := by
  intro s t h
  exact ⟨_, s, t, hm s, by rw [hm t, h.config], h, rfl, .nothing⟩

theorem uniform_pure (a : α) : Uniform Q (pure a : Operation σ α) :=
  uniform_of_same (r := fun _ => .ok a) fun _ => rfl

theorem Uniform.bind (hm : Uniform Q m) (hf : ∀ a, Uniform Q (f a)) :
    Uniform Q (m >>= f) := by
  intro s t h
  obtain ⟨r, s', t', hs, ht, hagree, hconfig, hdone⟩ := hm s t h
  cases r with
  | error e =>
    exact ⟨.error e, s', t', bind_of_error hs, bind_of_error ht, hagree, hconfig, hdone⟩
  | ok a =>
    obtain ⟨q, s'', t'', hs', ht', hagree', hconfig', hrest⟩ := hf a s' t' hagree
    rw [hconfig] at hrest
    exact ⟨q, s'', t'', (bind_of_ok hs).trans hs', (bind_of_ok ht).trans ht', hagree',
      hconfig'.trans hconfig, hdone.trans hrest⟩

theorem Uniform.map (hm : Uniform Q m) (g : α → β) :
    Uniform Q (m >>= fun a => pure (g a)) :=
  hm.bind fun a => uniform_pure (g a)

end Operation

open Operation

namespace Store

variable {α : Type} {Q : Statement → Prop}

theorem uniform_check (r : Except StoreError α) : Uniform Q (check r) :=
  uniform_of_same (r := fun _ => r) fun _ => rfl

theorem uniform_record (f : Metrics → Metrics) : Uniform Q (record f) := by
  intro s t h
  exact ⟨_, _, _, rfl, rfl, ⟨h.ready, h.alsoReady, h.config, h.clock, h.entries⟩, rfl, .nothing⟩

theorem uniform_readClock : Uniform Q readClock := by
  intro s t (h : s.Agrees t)
  refine ⟨.ok s.clock.now, _, _, rfl, by rw [← h.clock]; rfl, ?_, rfl, .nothing⟩
  exact ⟨h.ready, h.alsoReady, h.config, congrArg Clock.advance h.clock, h.entries⟩

theorem uniform_exec {statement : Statement} (hs : Q statement) : Uniform Q (exec statement) := by
  intro s t (h : s.Agrees t)
  have hready {u : Store} (hu : u.database.Ready) : exec statement u =
      (.ok (statement.run u.entries).1,
        { u with database := (u.database.exec u.config.tableName statement).2 }) := by
    rw [exec, Database.exec_of_ready hu]
    rfl
  have hentries : t.entries = s.entries := by
    rw [Store.entries, h.config]
    exact h.entries s.config.tableName
  refine ⟨_, _, _, hready h.ready, ?_, h.exec statement, rfl, .statement .nothing hs⟩
  rw [hready h.alsoReady, hentries]

theorem uniform_observed {statement : Statement} (hs : Q statement) :
    Uniform Q (observed statement) := by
  intro s t h
  obtain ⟨r, s', t', hexec, hexec', hagree, hconfig, hdone⟩ := uniform_exec hs s t h
  cases r with
  | ok cursor =>
    exact ⟨_, s', t', observed_of_ok hexec, observed_of_ok hexec', hagree, hconfig, hdone⟩
  | error e =>
    refine ⟨_, _, _, observed_of_error hexec, observed_of_error hexec', ?_, hconfig, hdone⟩
    exact ⟨hagree.ready, hagree.alsoReady, hagree.config, hagree.clock, hagree.entries⟩

theorem uniform_query {statement : Statement} (h : statement.isQuery = true) :
    Uniform Queries (observed statement) :=
  uniform_observed h

theorem uniform_collections : Uniform Queries collections :=
  have hquery : Queries .collections := rfl
  (uniform_exec hquery).map _

end Store

namespace Collection

open Store

variable {α : Type} [Record α] (c : Collection)

theorem uniform_keys : Uniform Queries c.keys :=
  (uniform_query rfl).bind fun _ => (uniform_record _).map _

theorem uniform_get (id : String) : Uniform Queries (c.get id) := by
  have hdocument : Uniform Queries (c.getDocument id) := by
    refine (uniform_query rfl).bind fun cursor => ?_
    split
    · exact (uniform_check _).bind fun _ => (uniform_record _).map _
    · exact (uniform_record _).map _
  exact hdocument.map _

theorem uniform_put {Q : Statement → Prop} {id : String} {doc : Json}
    (hput : ∀ now, Q (.put c.name id doc now)) : Uniform Q (c.put id doc) :=
  (uniform_check _).bind fun _ => (uniform_check _).bind fun _ => uniform_readClock.bind fun now =>
    (uniform_observed (hput now)).bind fun _ => uniform_record _

theorem uniform_delete {Q : Statement → Prop} {id : String} (hremove : Q (.remove c.name id)) :
    Uniform Q (c.delete id) :=
  (uniform_observed hremove).bind fun _ => (uniform_record _).map _

theorem uniform_parsed {Q : Statement → Prop} (filter : Json) : Uniform Q (parsed filter) :=
  uniform_of_same (r := fun config => Filter.ofJson config.strictFilters filter) fun _ => rfl

theorem uniform_findDocuments (filter : Filter) (options : QueryOptions) :
    Uniform Queries (c.findDocuments filter options) :=
  (uniform_check _).bind fun _ => (uniform_check _).bind fun _ => (uniform_query rfl).bind fun _ =>
    (uniform_check _).bind fun _ => (uniform_record _).map _

theorem uniform_find (filter : Json) (options : QueryOptions) :
    Uniform Queries (c.find filter options) :=
  (uniform_parsed filter).bind fun f => (c.uniform_findDocuments f options).map _

theorem uniform_getRecord (id : String) :
    Uniform Queries (c.getRecord id : StoreM (Option α)) := by
  refine (c.uniform_get id).bind fun found => ?_
  cases found with
  | some data => exact (uniform_check _).map _
  | none => exact uniform_pure none

theorem uniform_findRecords (filter : Filter) (options : QueryOptions) :
    Uniform Queries (c.findRecords filter options : StoreM (List α)) :=
  (c.uniform_findDocuments filter options).bind fun _ => uniform_check _

end Collection

namespace Graph

variable {α : Type} {Q : Statement → Prop}

theorem uniform_onStore {x : StoreM α} (hx : Uniform Q x) : Uniform Q (onStore x) := by
  intro g h hagree
  obtain ⟨r, s, t, hs, ht, hagree', hconfig, hdone⟩ := hx g.store h.store hagree
  refine ⟨r, { g with store := s }, { h with store := t }, ?_, ?_, hagree', hconfig, hdone⟩
  · rw [onStore, hs]
  · rw [onStore, ht]

theorem uniform_thingsAt (ids : List String) :
    Uniform Queries (thingsAt ids) := by
  induction ids with
  | nil => exact uniform_pure []
  | cons id rest ih =>
    exact (uniform_onStore (thingCollection.uniform_getRecord id)).bind fun _ => ih.map _

theorem uniform_relationsAt (member id : String) (verb : Option String) :
    Uniform Queries (relationsAt member id verb) :=
  uniform_onStore (relationshipCollection.uniform_findRecords _ _)

theorem uniform_traverse (source verb : String) :
    Uniform Queries (traverse source verb) :=
  (uniform_relationsAt _ _ _).bind fun _ => uniform_thingsAt _

theorem uniform_traverseBack (target verb : String) :
    Uniform Queries (traverseBack target verb) :=
  (uniform_relationsAt _ _ _).bind fun _ => uniform_thingsAt _

theorem uniform_actionsOf (id : String) :
    Uniform Queries (actionsOf id) :=
  uniform_onStore (actionCollection.uniform_findRecords _ _)

theorem uniform_findThings (type : Option String) (filter : Json) (options : QueryOptions) :
    Uniform Queries (findThings type filter options) :=
  (uniform_onStore (Collection.uniform_parsed filter)).bind fun _ =>
    uniform_onStore (thingCollection.uniform_findRecords _ _)

end Graph

end DocumentGraph
