import DocumentGraph.Proofs.Record.Filing
set_option autoImplicit false

/-!
# The statements of an operation

An operation issues statements one after the other. An engine executes them until it refuses one, at
once if it is closed; a refused statement has no effect and is the error of the operation, and nothing
is issued after it. So whatever the engine does, what an operation leaves in the table is what its
statements before the refused one make of it.
-/

namespace DocumentGraph

def Statement.effect (s : Statement) (es : Entries) : Entries := (s.run es).2

namespace Entries

def after (ss : List Statement) (es : Entries) : Entries := ss.foldl (fun es s => s.effect es) es

@[simp] theorem after_nil (es : Entries) : es.after [] = es := rfl

@[simp] theorem after_cons (s : Statement) (ss : List Statement) (es : Entries) :
    es.after (s :: ss) = (s.effect es).after ss := rfl

theorem after_append (ss rest : List Statement) (es : Entries) :
    es.after (ss ++ rest) = (es.after ss).after rest := by
  rw [after, List.foldl_append, after, after]

end Entries

namespace Database

/-- How many statements the engine executes before it refuses one, unless it refuses none. -/
def patience (db : Database) : Option Nat := if db.isOpen then db.refusal.map (·.after) else some 0

variable {db : Database}

theorem exec_of_impatient (h : db.patience = some 0) (table : String) (statement : Statement) :
    ∃ e db', db.exec table statement = (.error e, db') ∧ db'.entries table = db.entries table := by
  cases hopen : db.isOpen with
  | false => exact ⟨.closed, db, exec_of_closed hopen table statement, rfl⟩
  | true =>
    rw [patience, if_pos hopen, Option.map_eq_some_iff] at h
    obtain ⟨⟨n, message⟩, href, rfl⟩ := h
    refine ⟨.refused message, { db with refusal := none }, ?_, rfl⟩
    rw [exec, if_pos hopen, href]
    rfl

theorem exec_of_patient (h : db.patience ≠ some 0) (table : String) (statement : Statement) :
    ∃ db', db.exec table statement = (.ok (statement.run (db.entries table)).1, db') ∧
      db'.entries table = statement.effect (db.entries table) ∧
      db'.patience = db.patience.map (· - 1) := by
  cases hopen : db.isOpen with
  | false =>
    refine absurd ?_ h
    rw [patience, hopen]
    rfl
  | true =>
    rw [patience, if_pos hopen] at h
    rcases href : db.refusal with _ | ⟨_ | n, message⟩
    · refine ⟨{ db.withEntries table (statement.effect (db.entries table)) with refusal := none },
        ?_, entries_withEntries _ _ _, ?_⟩
      · rw [exec, if_pos hopen, href]
        rfl
      · simp [patience, withEntries, hopen, href]
    · rw [href] at h
      exact absurd rfl h
    · refine ⟨{ db.withEntries table (statement.effect (db.entries table)) with
        refusal := some ⟨n, message⟩ }, ?_, entries_withEntries _ _ _, ?_⟩
      · rw [exec, if_pos hopen, href]
        rfl
      · simp [patience, withEntries, hopen, href]

end Database

/-- A state with an engine, which may be replaced, and the name of the table that it uses. -/
class Hosted (σ : Type) where
  database : σ → Database
  table : σ → String
  host : Database → σ → σ

instance : Hosted Store where
  database s := s.database
  table s := s.config.tableName
  host db s := { s with database := db }

namespace Operation

open Hosted

variable {σ α β : Type} [Hosted σ] {m : Operation σ α} {f : α → Operation σ β} {s t u : σ}
  {r : Except StoreError α} {q : Except StoreError β} {ss rest : List Statement} {a : α}

def tableOf (s : σ) : Entries := (database s).entries (table s)

/-- On any engine with this table the operation issues these statements: if all of them are executed it
ends as told, and if one is refused it ends with that and leaves what those before it have made. -/
structure Issues (m : Operation σ α) (s : σ) (ss : List Statement) (r : Except StoreError α) (t : σ) :
    Prop where
  table : table t = table s
  entries : tableOf t = (tableOf s).after ss
  refused : ∀ db, db.entries (Hosted.table s) = tableOf s → ∀ n, db.patience = some n →
    n < ss.length → ∃ d u, m (host db s) = (.error (.storage d), u) ∧
      tableOf u = (tableOf s).after (ss.take n)
  done : ∀ db, db.entries (Hosted.table s) = tableOf s →
    (∀ n, db.patience = some n → ss.length ≤ n) → ∃ db', m (host db s) = (r, host db' t) ∧
      db'.entries (Hosted.table s) = tableOf t ∧ db'.patience = db.patience.map (· - ss.length)

theorem issues_nil (hm : ∀ db, m (host db s) = (r, host db t)) (htable : table t = table s)
    (hentries : tableOf t = tableOf s) : Issues m s [] r t := by
  refine ⟨htable, hentries, fun db _ n _ hn => absurd hn (Nat.not_lt_zero n), fun db hdb _ => ?_⟩
  refine ⟨db, hm db, hdb.trans hentries.symm, ?_⟩
  cases db.patience <;> rfl

theorem issues_pure (a : α) (s : σ) : Issues (pure a) s [] (.ok a) s :=
  issues_nil (fun _ => rfl) rfl rfl

theorem Issues.bind (hm : Issues m s ss (.ok a) t) (hf : Issues (f a) t rest q u) :
    Issues (m >>= f) s (ss ++ rest) q u := by
  refine ⟨hf.table.trans hm.table, ?_, fun db hdb n hn hlt => ?_, fun db hdb hpatient => ?_⟩
  · rw [hf.entries, hm.entries, Entries.after_append]
  · by_cases hfirst : n < ss.length
    · obtain ⟨d, v, hx, hv⟩ := hm.refused db hdb n hn hfirst
      refine ⟨d, v, bind_of_error hx, ?_⟩
      rw [hv, List.take_append_of_le_length (Nat.le_of_lt hfirst)]
    · -- The first part is executed, and the engine is left with less patience.
      have hle : ss.length ≤ n := Nat.le_of_not_lt hfirst
      have hpatient : ∀ k, db.patience = some k → ss.length ≤ k := by
        intro k hk
        rw [hn] at hk
        cases hk
        exact hle
      obtain ⟨db', hx, hdb', hleft⟩ := hm.done db hdb hpatient
      have hrest : n - ss.length < rest.length := by
        rw [List.length_append] at hlt
        omega
      rw [← hm.table] at hdb'
      obtain ⟨d, v, hy, hv⟩ := hf.refused db' hdb' (n - ss.length) (by rw [hleft, hn]; rfl) hrest
      refine ⟨d, v, (bind_of_ok hx).trans hy, ?_⟩
      rw [hv, hm.entries, ← Entries.after_append, List.take_append, List.take_of_length_le hle]
  · have hfirst : ∀ n, db.patience = some n → ss.length ≤ n := by
      intro n hn
      have hle := hpatient n hn
      rw [List.length_append] at hle
      omega
    obtain ⟨db', hx, hdb', hleft⟩ := hm.done db hdb hfirst
    have hsecond : ∀ n, db'.patience = some n → rest.length ≤ n := by
      intro n hn
      rw [hleft, Option.map_eq_some_iff] at hn
      obtain ⟨k, hk, rfl⟩ := hn
      have hle := hpatient k hk
      rw [List.length_append] at hle
      omega
    rw [← hm.table] at hdb'
    obtain ⟨db'', hy, hdb'', hleft'⟩ := hf.done db' hdb' hsecond
    refine ⟨db'', (bind_of_ok hx).trans hy, hm.table ▸ hdb'', ?_⟩
    rw [hleft', hleft, Option.map_map, List.length_append]
    congr 1
    funext n
    exact Nat.sub_sub n ss.length rest.length

theorem Issues.bind_error {e : StoreError} (hm : Issues m s ss (.error e) t) :
    Issues (m >>= f) s ss (.error e) t := by
  refine ⟨hm.table, hm.entries, fun db hdb n hn hlt => ?_, fun db hdb hpatient => ?_⟩
  · obtain ⟨d, u, hx, hu⟩ := hm.refused db hdb n hn hlt
    exact ⟨d, u, bind_of_error hx, hu⟩
  · obtain ⟨db', hx, hdb', hleft⟩ := hm.done db hdb hpatient
    exact ⟨db', bind_of_error hx, hdb', hleft⟩

theorem Issues.before (hm : Issues m s [] (.ok a) t) (hf : Issues (f a) t ss q u) :
    Issues (m >>= f) s ss q u :=
  hm.bind hf

theorem Issues.silently (hm : Issues m s ss (.ok a) t) (hf : Issues (f a) t [] q u) :
    Issues (m >>= f) s ss q u := by
  have h := hm.bind hf
  rwa [List.append_nil] at h

theorem Issues.silently_exists (hm : Issues m s ss (.ok a) t)
    (hf : ∃ q u, Issues (f a) t [] q u) : ∃ q u, Issues (m >>= f) s ss q u := by
  obtain ⟨q, u, hf⟩ := hf
  exact ⟨q, u, hm.silently hf⟩

theorem Issues.map {g : α → β} (hm : Issues m s ss r t) :
    Issues (m >>= fun a => pure (g a)) s ss (r.map g) t := by
  cases r with
  | ok a => exact hm.silently (issues_pure (g a) t)
  | error e => exact hm.bind_error

end Operation

namespace Store

open Operation

theorem issues_observed (statement : Statement) (s : Store) :
    ∃ t, Issues (observed statement) s [statement] (.ok (statement.run s.entries).1) t := by
  refine ⟨{ s with database :=
    s.database.withEntries s.config.tableName (statement.effect s.entries) }, rfl,
    Database.entries_withEntries _ _ _, fun db hdb n hn hlt => ?_, fun db hdb hpatient => ?_⟩
  · obtain rfl : n = 0 := Nat.lt_one_iff.mp hlt
    obtain ⟨d, db', hx, hdb'⟩ := Database.exec_of_impatient hn s.config.tableName statement
    refine ⟨d, _, observed_of_error (exec_of_error hx), ?_⟩
    exact hdb'.trans hdb
  · have hne : db.patience ≠ some 0 := fun h => Nat.not_succ_le_zero 0 (hpatient 0 h)
    obtain ⟨db', hx, hdb', hleft⟩ :=
      Database.exec_of_patient hne s.config.tableName statement
    have hentries : db.entries s.config.tableName = s.entries := hdb
    rw [hentries] at hx hdb'
    refine ⟨db', observed_of_ok (exec_of_ok hx), ?_, hleft⟩
    rw [show db'.entries (Hosted.table s) = _ from hdb']
    exact (Database.entries_withEntries _ _ _).symm

theorem issues_check {α : Type} {x r : Except StoreError α} (h : x = r) (s : Store) :
    Issues (check x) s [] r s :=
  issues_nil (fun _ => by rw [← h]; rfl) rfl rfl

theorem issues_record (f : Metrics → Metrics) (s : Store) :
    Issues (record f) s [] (.ok ()) { s with metrics := f s.metrics } :=
  issues_nil (fun _ => rfl) rfl rfl

theorem issues_readClock (s : Store) :
    Issues readClock s [] (.ok s.clock.now) { s with clock := s.clock.advance } :=
  issues_nil (fun _ => rfl) rfl rfl

end Store

namespace Collection

open Store Operation

variable (c : Collection) (s : Store) {id : String} {doc : Json}

theorem issues_put (h : writable id doc = .ok ()) :
    ∃ t, Issues (c.put id doc) s [.put c.name id doc s.clock.now] (.ok ()) t := by
  obtain ⟨hid, hdoc⟩ := writable_eq_ok.mp h
  obtain ⟨t, hput⟩ := issues_observed (.put c.name id doc s.clock.now)
    { s with clock := s.clock.advance }
  exact ⟨_, (issues_check hid s).before ((issues_check hdoc s).before ((issues_readClock s).before
    (hput.silently (issues_record _ t))))⟩

theorem issues_delete (id : String) :
    ∃ t, Issues (c.delete id) s [.remove c.name id]
      (.ok (s.entries.fetch c.name id).isSome) t := by
  obtain ⟨t, hremove⟩ := issues_observed (.remove c.name id) s
  have hfound : decide (0 < ((Statement.remove c.name id).run s.entries).1.rowsWritten) =
      (s.entries.fetch c.name id).isSome := by
    rw [Statement.run, Cursor.rowsWritten_written, Bool.eq_iff_iff, decide_eq_true_iff]
    exact Entries.length_remove_lt_iff
  rw [← hfound]
  exact ⟨_, hremove.silently ((issues_record _ t).before (issues_pure _ _))⟩

theorem issues_deleteWhere {filter : Filter} {p : Predicate} (h : filter.compile = .ok p) :
    ∃ n t, Issues (c.deleteWhere filter) s [.removeWhere c.name p] (.ok n) t := by
  obtain ⟨t, hremove⟩ := issues_observed (.removeWhere c.name p) s
  exact ⟨_, _, (issues_check h s).before
    (hremove.silently ((issues_record _ t).before (issues_pure _ _)))⟩

variable {α : Type} [Record α]

theorem issues_putRecord {r : α} (h : Record.key r ≠ "") :
    ∃ t, Issues (c.putRecord r) s [.put c.name (Record.key r) (Record.document r) s.clock.now]
      (.ok ()) t :=
  c.issues_put s (writable_eq_ok.mpr ⟨validId_eq_ok.mpr h, rfl⟩)

theorem issues_getDocument (id : String) :
    ∃ r t, Issues (c.getDocument id) s [.fetch c.name id] r t := by
  obtain ⟨t, hfetch⟩ := issues_observed (.fetch c.name id) s
  -- What comes after the statement does not look at the engine.
  refine hfetch.silently_exists ?_
  cases ((Statement.fetch c.name id).run s.entries).1.one? with
  | none => exact ⟨_, _, (issues_record _ t).before (issues_pure none _)⟩
  | some row =>
    cases hdoc : c.decode row with
    | error e => exact ⟨_, t, (issues_check hdoc t).bind_error⟩
    | ok doc =>
      exact ⟨_, _, (issues_check hdoc t).before
        ((issues_record _ t).before (issues_pure (some doc) _))⟩

theorem issues_getRecord (id : String) :
    ∃ t, Issues (c.getRecord id : StoreM (Option α)) s [.fetch c.name id]
      (c.recordAt id s.entries) t := by
  obtain ⟨q, t, hget⟩ := c.issues_getDocument s id
  have hfound : ∃ r t,
      Issues (c.getRecord id : StoreM (Option α)) s [.fetch c.name id] r t := by
    have hdata := hget.map (g := fun d => d.map (·.data))
    rcases q with e | _ | d
    · exact ⟨_, t, hdata.bind_error⟩
    · exact ⟨_, t, hdata.silently (issues_pure none t)⟩
    · exact ⟨_, t, hdata.silently ((issues_check rfl t).map)⟩
  obtain ⟨r, t, hissues⟩ := hfound
  -- On an engine that refuses nothing the result is known.
  let db : Database := { s.database with isOpen := true, refusal := none }
  have hready : Store.Ready (Hosted.host db s) := ⟨rfl, rfl⟩
  obtain ⟨v, hv, -⟩ := (c.getRecord_yields (α := α) (Hosted.host db s) id).of_ready hready
  obtain ⟨db', hx, -⟩ := hissues.done db rfl nofun
  cases hv.symm.trans hx
  exact ⟨t, hissues⟩

end Collection

end DocumentGraph
