import DocumentGraph.Database.Archive
import DocumentGraph.Proofs.Filter.Grammar
import DocumentGraph.Proofs.Json.RoundTrip
import DocumentGraph.Proofs.Record.Codec
import DocumentGraph.Store.Basic
set_option autoImplicit false

namespace DocumentGraph

namespace Database

def reopened (db : Database) : Database := { db with isOpen := true, refusal := none }

theorem entries_withEntries_self (db : Database) (table other : String) :
    (db.withEntries table (db.entries table)).entries other = db.entries other := by
  by_cases hkey : tableKey other = tableKey table
  · have hentries : (db.withEntries table (db.entries table)).entries other =
        (db.withEntries table (db.entries table)).entries table :=
      congrArg (findTable · _) hkey
    rw [hentries, entries_withEntries]
    exact (congrArg (findTable · _) hkey).symm
  · exact findTable_setTable_of_ne hkey _ _

theorem createTable_eq_ok {db created : Database} {table : String} :
    db.createTable table = .ok created ↔ db.isOpen = true ∧ TableName.refusal? table = none ∧
      created = db.withEntries table (db.entries table) := by
  unfold createTable
  cases db.isOpen with
  | false => simp
  | true =>
    cases TableName.refusal? table with
    | some message => simp
    | none => simp [eq_comm]

end Database

namespace Store

variable {config : Config} {db : Database} {clock : Clock} {s : Store}

theorem openOn_eq_ok :
    openOn config db clock = .ok s ↔ TableName.isWord config.tableName = true ∧
      ∃ created, db.createTable config.tableName = .ok created ∧
        s = ⟨config, created, .zero, [], clock⟩ := by
  unfold openOn
  split
  · next hword =>
    cases db.createTable config.tableName with
    | ok created => simp [hword, eq_comm]
    | error e => simp
  · next hword => simp [hword]

theorem openOn_initial (h : db.isOpen = true) (clock : Clock) :
    openOn .initial db clock = .ok ⟨.initial, db.withEntries Config.initial.tableName
      (db.entries Config.initial.tableName), .zero, [], clock⟩ := by
  have hword : TableName.isWord Config.initial.tableName = true := by decide
  have hname : TableName.refusal? Config.initial.tableName = none := by decide +kernel
  exact openOn_eq_ok.mpr ⟨hword, _, Database.createTable_eq_ok.mpr ⟨h, hname, rfl⟩, rfl⟩

/-- Where a store could be opened once it can be opened again, and it has what the file has. -/
theorem openOn_reopened {fresh : Database} {before : Clock}
    (hopen : openOn config fresh before = .ok s) (db : Database) (clock : Clock) :
    ∃ t, openOn config db.reopened clock = .ok t ∧ t.metrics = .zero ∧
      ∀ table, t.database.entries table = db.entries table := by
  obtain ⟨hword, created, hcreate, -⟩ := openOn_eq_ok.mp hopen
  obtain ⟨-, hname, -⟩ := Database.createTable_eq_ok.mp hcreate
  have hagain := Database.createTable_eq_ok.mpr
    ⟨(rfl : db.reopened.isOpen = true), hname, rfl⟩
  exact ⟨_, openOn_eq_ok.mpr ⟨hword, _, hagain, rfl⟩, rfl,
    db.reopened.entries_withEntries_self config.tableName⟩

theorem openOn_closed (h : db.isOpen = false) (config : Config) (clock : Clock) :
    openOn config db clock = .error (if TableName.isWord config.tableName then .storage .closed
      else .configuration (.tableName config.tableName)) := by
  have hcreate : db.createTable config.tableName = .error .closed := by
    rw [Database.createTable, h]
    rfl
  unfold openOn
  split
  · rw [hcreate]
  · rfl

end Store

namespace Json

theorem itemsDepth_le {items : List Json} {n : Nat} (h : ∀ j ∈ items, j.depth ≤ n) :
    itemsDepth items ≤ n := by
  induction items with
  | nil => exact Nat.zero_le n
  | cons j rest ih =>
    obtain ⟨hj, hrest⟩ := List.forall_mem_cons.mp h
    exact max_le hj (ih hrest)

def Fits (limit : Nat) (j : Json) : Prop := j.WellFormed ∧ j.depth ≤ limit

theorem fits_array {items : List Json} {limit : Nat} (h : ∀ j ∈ items, j.Fits limit) :
    (Json.array items).Fits (limit + 1) :=
  ⟨Filter.itemsWellFormed_iff.mpr fun j hj => (h j hj).1,
    Nat.succ_le_succ (itemsDepth_le fun j hj => (h j hj).2)⟩

end Json

theorem Entry.ofJson?_toJson (e : Entry) : Entry.ofJson? e.toJson = some e := by
  simp [toJson, ofJson?, Decoder.int64_ofInt64]

theorem Entry.fits_toJson {e : Entry} {limit : Nat} (h : e.data.Fits limit) :
    e.toJson.Fits (limit + 1) := by
  refine Json.fits_array fun j hj => ?_
  simp only [List.mem_cons, List.not_mem_nil, or_false] at hj
  rcases hj with rfl | rfl | rfl | rfl | rfl
  · exact ⟨trivial, Nat.zero_le _⟩
  · exact ⟨trivial, Nat.zero_le _⟩
  · exact h
  · exact ⟨trivial, Nat.zero_le _⟩
  · exact ⟨trivial, Nat.zero_le _⟩

namespace Database

theorem mapM_map_some {α β : Type} {f : β → Option α} {g : α → β} (h : ∀ a, f (g a) = some a)
    (as : List α) : (as.map g).mapM f = some as := by
  induction as with
  | nil => rfl
  | cons a rest ih => simp [h, ih]

theorem table?_tableJson (t : String × Entries) : table? (tableJson t) = some t := by
  simp [tableJson, table?, mapM_map_some Entry.ofJson?_toJson]

theorem fits_tableJson {t : String × Entries} {limit : Nat} (h : ∀ e ∈ t.2, e.data.Fits limit) :
    (tableJson t).Fits (limit + 3) := by
  have hentries : (Json.array (t.2.map Entry.toJson)).Fits (limit + 2) := by
    refine Json.fits_array fun j hj => ?_
    obtain ⟨e, he, rfl⟩ := List.mem_map.mp hj
    exact Entry.fits_toJson (h e he)
  refine Json.fits_array fun j hj => ?_
  simp only [List.mem_cons, List.not_mem_nil, or_false] at hj
  rcases hj with rfl | rfl
  · exact ⟨trivial, Nat.zero_le _⟩
  · exact hentries

/-- What was archived is read back, open, with all tables. -/
theorem ofArchive?_archive {db : Database} {limit : Nat} (hlimit : limit + 4 ≤ archiveLimit)
    (h : ∀ t ∈ db.tables, ∀ e ∈ t.2, e.data.Fits limit) :
    ofArchive? db.archive = some db.reopened := by
  have hfits : (Json.array (db.tables.map tableJson)).Fits (limit + 4) := by
    refine Json.fits_array fun j hj => ?_
    obtain ⟨t, ht, rfl⟩ := List.mem_map.mp hj
    exact fits_tableJson (h t ht)
  rw [ofArchive?, archive, Json.read_compact hfits.1 (hfits.2.trans hlimit)]
  simp [mapM_map_some table?_tableJson, reopened]

end Database

end DocumentGraph
