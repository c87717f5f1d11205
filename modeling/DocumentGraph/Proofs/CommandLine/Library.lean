import DocumentGraph.CommandLine.File
import DocumentGraph.Proofs.CommandLine.Report
import DocumentGraph.Proofs.Graph.Lifecycle
set_option autoImplicit false

/-!
# Commands on one file

Each command on a store file opens a store of its own and leaves nothing but the text of the file. A
session makes the calls of the same commands on one graph that stays open. Command by command both end
alike, and the file has the documents of the open graph.
-/

namespace DocumentGraph

def Graph.atTime (clock : Clock) (g : Graph) : Graph :=
  { g with store := { g.store with clock := clock } }

namespace CommandLine

open Operation DocumentGraph.Graph

/-- A command on an open graph: it makes its call, if it names a path and its text of JSON can be read. -/
def Invocation.onGraph (clock : Clock) (g : Graph) (inv : Invocation) : Outcome × Graph :=
  match inv.path, inv.command.call with
  | none, _ => (.failed .noPath, g)
  | some _, .error f => (.failed f, g)
  | some _, .ok x =>
    let (r, h) := x (g.atTime clock)
    (.ofResult (told inv.format r), h)

/-- Commands one after the other on one open graph, each with the clock as it stands. -/
def inSession : List (Clock × Invocation) → Graph → List Outcome × Graph
  | [], g => ([], g)
  | (clock, inv) :: rest, g =>
    let (outcome, g) := inv.onGraph clock g
    let (outcomes, g) := inSession rest g
    (outcome :: outcomes, g)

def Contents.after (found : Contents) : Option String → Contents
  | some written => .text written
  | none => found

/-- Commands one after the other on one file, each on what the one before it left. -/
def onFile : List (Clock × Invocation) → Contents → List Outcome × Contents
  | [], found => ([], found)
  | (clock, inv) :: rest, found =>
    let (outcome, text) := inv.runOn clock found
    let (outcomes, left) := onFile rest (found.after text)
    (outcome :: outcomes, left)

/-- The file is an archive of the entries that the open graph has, in every table. -/
structure Contents.Holds (found : Contents) (g : Graph) : Prop where
  ready : g.store.database.Ready
  config : g.store.config = .initial
  archive : ∃ text db, found = .text text ∧ Database.ofArchive? text = some db ∧
    ∀ table, db.entries table = g.store.database.entries table

structure Opened (db : Database) (clock : Clock) (s : Store) : Prop where
  config : s.config = .initial
  clock : s.clock = clock
  ready : s.database.Ready
  entries : ∀ table, s.database.entries table = db.entries table
  fits : s.database.Fits Database.documentLimit

variable {text path : String} {db left : Database} {clock : Clock} {size : Nat} {found : Contents}
  {g : Graph} {inv : Invocation}

theorem opened_openOn (hdb : Database.ofArchive? text = some db) (clock : Clock) :
    ∃ s, Store.openOn .initial db clock = .ok s ∧ Opened db clock s := by
  obtain ⟨hopen, hrefusal⟩ := Database.isOpen_of_ofArchive? hdb
  have hfits := Database.fits_of_ofArchive? hdb
  refine ⟨_, Store.openOn_initial hopen clock, rfl, rfl, ⟨hopen, hrefusal⟩, ?_, ?_⟩
  · exact db.entries_withEntries_self _
  · exact hfits.withEntries (hfits.entries _) _

theorem opened_openStore (hdb : Database.ofArchive? text = some db) (path : String) (size : Nat)
    (clock : Clock) :
    ∃ s, openStore path (.file db size) clock = .ok (s, size) ∧ Opened db clock s := by
  obtain ⟨s, hopen, hs⟩ := opened_openOn hdb clock
  have hdatabase : { db with isOpen := true, refusal := none } = db := by
    obtain ⟨hopen, hrefusal⟩ := Database.isOpen_of_ofArchive? hdb
    rw [← hopen, ← hrefusal]
  refine ⟨s, ?_, hs⟩
  simp only [openStore, hdatabase, hopen]

theorem Opened.agrees {s : Store} (hs : Opened db clock s) (hready : g.store.database.Ready)
    (hconfig : g.store.config = .initial)
    (hentries : ∀ table, db.entries table = g.store.database.entries table) :
    s.Agrees (g.atTime clock).store :=
  ⟨hs.ready, hready, hconfig.trans hs.config.symm, hs.clock.symm,
    fun table => ((hs.entries table).trans (hentries table)).symm⟩

theorem written?_self (place : Location) : place.written? place = none := by
  cases place with
  | file db size => exact if_pos rfl
  | _ => rfl

theorem archive_after (hdb : Database.ofArchive? text = some db)
    (hleft : left.Fits Database.documentLimit) (size : Nat) :
    ∃ text' db', (Contents.text text).after ((Location.file db size).written? (.file left size)) =
      .text text' ∧ Database.ofArchive? text' = some db' ∧
        ∀ table, db'.entries table = left.entries table := by
  by_cases hsame : db.archive = left.archive
  · refine ⟨text, db, ?_, hdb, fun table => ?_⟩
    · rw [Location.written?, if_pos hsame]
      rfl
    · rw [Database.entries, Database.entries,
        Database.tables_of_archive (Database.fits_of_ofArchive? hdb) hleft hsame]
  · refine ⟨left.archive, left.reopened, ?_, hleft.ofArchive?, fun _ => rfl⟩
    rw [Location.written?, if_neg hsame]
    rfl

theorem location_of_ofArchive? (hdb : Database.ofArchive? text = some db) :
    (Contents.text text).location = .file db text.utf8ByteSize := by
  rw [Contents.location, hdb]

theorem run_of_noPath (hc : inv.command.isCall = true) (hpath : inv.path = none) (place : Location) :
    inv.run clock place = (.failed .noPath, place) := by
  obtain ⟨_, format, command⟩ := inv
  cases hpath
  cases command with
  | stats => cases hc
  | version => cases hc
  | _ => rfl

theorem run_of_path (clock : Clock) (hc : inv.command.isCall = true) (hpath : inv.path = some path)
    (place : Location) :
    inv.run clock place = (.ofResult (inv.command.run clock inv.format path place).1,
      (inv.command.run clock inv.format path place).2) := by
  obtain ⟨_, format, command⟩ := inv
  cases hpath
  cases command with
  | stats => cases hc
  | version => cases hc
  | _ => rfl

theorem runOn_of_run {outcome : Outcome} {place : Location}
    (h : inv.run clock found.location = (outcome, place)) :
    inv.runOn clock found = (outcome, found.location.written? place) := by
  rw [Invocation.runOn, h]

theorem onGraph_of_call {x : GraphM Answer} (hpath : inv.path = some path)
    (hcall : inv.command.call = .ok x) (clock : Clock) (g : Graph) :
    inv.onGraph clock g =
      (.ofResult (told inv.format (x (g.atTime clock)).1), (x (g.atTime clock)).2) := by
  rw [Invocation.onGraph, hpath, hcall]
  rfl

/-- A command on a file that holds what a graph has ends as on the graph, and holds again what the graph
has then. -/
theorem Contents.Holds.step (h : found.Holds g) (hc : inv.command.isCall = true) (clock : Clock) :
    (inv.runOn clock found).1 = (inv.onGraph clock g).1 ∧
      (found.after (inv.runOn clock found).2).Holds (inv.onGraph clock g).2 := by
  obtain ⟨hready, hconfig, text, db, rfl, hdb, hentries⟩ := h
  have hplace := location_of_ofArchive? hdb
  cases hpath : inv.path with
  | none =>
    rw [runOn_of_run (run_of_noPath hc hpath _), written?_self, Invocation.onGraph, hpath]
    exact ⟨rfl, hready, hconfig, text, db, rfl, hdb, hentries⟩
  | some path =>
    have hrun := run_of_path clock hc hpath (.file db text.utf8ByteSize)
    obtain ⟨s, hopen, hs⟩ := opened_openStore hdb path text.utf8ByteSize clock
    cases hcall : inv.command.call with
    | error f =>
      rw [Command.run_of_unread hcall hopen, ← hplace] at hrun
      rw [runOn_of_run hrun, written?_self, Invocation.onGraph, hpath, hcall]
      exact ⟨rfl, hready, hconfig, text, db, rfl, hdb, hentries⟩
    | ok x =>
      obtain ⟨r, t, k, hx, hran, hagree, hkept, hdone⟩ :=
        Command.mirrors_run inv.format hc hcall hopen (hs.agrees hready hconfig hentries)
      have hleft : t.database.Fits Database.documentLimit :=
        hdone.fits (fun _ hst => hst.1.mono (by decide)) hs.fits
      rw [hran, ← hplace] at hrun
      rw [runOn_of_run hrun, hplace, onGraph_of_call hpath hcall, hx]
      obtain ⟨text', db', hafter, hdb', hentries'⟩ :=
        archive_after hdb hleft text.utf8ByteSize
      exact ⟨rfl, hagree.alsoReady, hkept.trans hconfig, text', db', hafter, hdb',
        fun table => (hentries' table).trans (hagree.entries table).symm⟩

namespace Command

def Misreads : Command → Prop
  | .put _ _ json => ∃ e, Json.read readingLimit json = .error e
  | .find _ (some filter) _ _ _ => ∃ e, Json.read readingLimit filter = .error e
  | _ => False

def Misses (es : Entries) : Command → Prop
  | .get c id => es.fetch c id = none
  | .delete c id => es.fetch c id = none
  | _ => False

variable {command : Command} {x : GraphM Answer} {h : Graph} {a : Answer} {format : Format}

theorem misreads_iff : command.Misreads ↔ ∃ f, command.call = .error f := by
  cases command with
  | put c id json =>
    cases hread : Json.read readingLimit json <;> simp [Misreads, call, hread]
  | find c filter sort limit offset =>
    cases filter with
    | none => simp [Misreads, call, readFilter]
    | some text =>
      cases hread : Json.read readingLimit text <;> simp [Misreads, call, readFilter, hread]
  | _ => simp [Misreads, call]

theorem report_fails_iff (hcall : command.call = .ok x) (hx : x g = (.ok a, h)) (format : Format) :
    (∃ f, a.report format = .error f) ↔ command.Misses g.entries := by
  have hnever {α : Type} {m : GraphM α} {answer : α → Answer}
      (hm : (m >>= fun b => pure (answer b)) g = (.ok a, h))
      (hreport : ∀ b, ∃ text, (answer b).report format = .ok text) :
      ¬ ∃ f, a.report format = .error f := by
    obtain ⟨b, -, rfl⟩ := value_of_map hm
    obtain ⟨text, htext⟩ := hreport b
    rintro ⟨f, hf⟩
    rw [htext] at hf
    cases hf
  cases command with
  | get c id =>
    cases hcall
    obtain ⟨found, hget, rfl⟩ := value_of_map hx
    obtain ⟨t, hstore, -⟩ := onStore_eq hget
    have hfound := Collection.isSome_get ⟨c⟩ g.store hstore
    change _ ↔ g.entries.fetch c id = none
    rw [← Option.isNone_iff_eq_none, ← Option.not_isSome, Bool.not_eq_true', entries, ← hfound]
    cases found <;> simp [Answer.report]
  | delete c id =>
    cases hcall
    obtain ⟨deleted, hdelete, rfl⟩ := value_of_map hx
    obtain ⟨t, hstore, -⟩ := onStore_eq hdelete
    obtain ⟨hdeleted, -, -⟩ := (Collection.delete_yields ⟨c⟩ g.store id).of_ok hstore
    change _ ↔ g.entries.fetch c id = none
    rw [← Option.isNone_iff_eq_none, ← Option.not_isSome, Bool.not_eq_true', entries,
      Except.ok.inj hdeleted]
    cases deleted <;> simp [Answer.report]
  | put c id json =>
    obtain ⟨doc, -, rfl⟩ := ok_of_call_put hcall
    exact iff_false_intro (hnever hx fun _ => ⟨_, rfl⟩)
  | find c filter sort limit offset =>
    obtain ⟨j, -, rfl⟩ := ok_of_call_find hcall
    exact iff_false_intro (hnever hx fun _ => ⟨_, rfl⟩)
  | stats =>
    cases hcall
    cases hx
    simp [Answer.report, Misses]
  | version =>
    cases hcall
    cases hx
    simp [Answer.report, Misses]
  | _ =>
    cases hcall
    exact iff_false_intro (hnever hx fun _ => ⟨_, rfl⟩)

theorem entries_of_failed_write (hready : g.store.database.Ready) (hw : command.isWrite = true)
    (hcall : command.call = .ok x) {r : Except StoreError Answer} (hx : x g = (r, h))
    (hfails : ∃ f, told format r = .error f) : h.entries = g.entries := by
  cases command with
  | put c id json =>
    obtain ⟨doc, -, rfl⟩ := ok_of_call_put hcall
    cases hwritable : writable id doc with
    | error e =>
      have hput := Collection.put_rejected ⟨c⟩ g.store hwritable
      have hrun : onStore (Collection.put ⟨c⟩ id doc) g = (.error e, g) := by rw [onStore, hput]
      cases hx.symm.trans (bind_of_error hrun)
      rfl
    | ok u =>
      -- Nothing is left that could go wrong.
      obtain ⟨t, hput, -⟩ := (Collection.put_yields ⟨c⟩ g.store hwritable).of_ready hready
      have hrun : onStore (Collection.put ⟨c⟩ id doc) g = (.ok (), { g with store := t }) := by
        rw [onStore, hput]
      cases hx.symm.trans (bind_of_ok hrun)
      obtain ⟨f, hf⟩ := hfails
      cases hf
  | delete c id =>
    have hdelete := Collection.delete_yields ⟨c⟩ g.store id
    obtain ⟨t, hdelete, -, hentries⟩ := hdelete.of_ready hready
    have hrun : onStore (Collection.delete ⟨c⟩ id) g =
        (.ok (g.store.entries.fetch c id).isSome, { g with store := t }) := by rw [onStore, hdelete]
    have hanswer : x g = (.ok (.deleted c id (g.store.entries.fetch c id).isSome),
        { g with store := t }) := by
      cases hcall
      exact bind_of_ok hrun
    cases hx.symm.trans hanswer
    exact hentries.trans (remove_of_absent ((report_fails_iff hcall hx format).mp hfails))
  | _ => cases hw

end Command

/-- What a command leaves of a call: it prints the answer, or the error and nothing else. -/
def Outcome.Tells (o : Outcome) (format : Format) : Except StoreError Answer → Prop
  | .ok a => ∃ text, o = ⟨0, text, none⟩ ∧ a.Printed format text
  | .error e => o = ⟨1, "", some e.shown⟩

theorem exit_ofResult {r : Except Failure String} :
    (Outcome.ofResult r).exit ≠ 0 ↔ ∃ f, r = .error f := by
  cases r <;> simp [Outcome.ofResult, Outcome.printed, Outcome.failed]

theorem onGraph_fails_iff (inv : Invocation) (clock : Clock) (g : Graph) :
    (inv.onGraph clock g).1.exit ≠ 0 ↔ inv.path = none ∨ inv.command.Misreads ∨
      (∃ x e h, inv.command.call = .ok x ∧ x (g.atTime clock) = (.error e, h)) ∨
      inv.command.Misses g.entries := by
  rw [Command.misreads_iff]
  cases hpath : inv.path with
  | none => simp [Invocation.onGraph, hpath, Outcome.failed]
  | some path =>
    cases hcall : inv.command.call with
    | error f => simp [Invocation.onGraph, hpath, hcall, Outcome.failed]
    | ok x =>
      have hexit : (inv.onGraph clock g).1.exit ≠ 0 ↔
          ∃ f, told inv.format (x (g.atTime clock)).1 = .error f := by
        rw [onGraph_of_call hpath hcall]
        exact exit_ofResult
      rw [hexit]
      rcases hx : x (g.atTime clock) with ⟨e | a, h⟩
      · exact iff_of_true ⟨.store e, rfl⟩ (.inr (.inr (.inl ⟨x, e, h, rfl, hx⟩)))
      · refine (Command.report_fails_iff hcall hx inv.format).trans
          ⟨fun hmiss => .inr (.inr (.inr hmiss)), ?_⟩
        rintro (hnone | ⟨f, hf⟩ | ⟨y, e, k, hy, herror⟩ | hmiss)
        · cases hnone
        · cases hf
        · cases hy
          rw [hx] at herror
          cases herror
        · exact hmiss

theorem onGraph_tells {x : GraphM Answer} {r : Except StoreError Answer} {h : Graph}
    (hpath : inv.path = some path) (hcall : inv.command.call = .ok x)
    (hx : x (g.atTime clock) = (r, h)) (hmiss : ¬ inv.command.Misses g.entries) :
    (inv.onGraph clock g).1.Tells inv.format r := by
  rw [onGraph_of_call hpath hcall, hx]
  cases r with
  | error e => rfl
  | ok a =>
    cases hreport : a.report inv.format with
    | error f => exact absurd ((Command.report_fails_iff hcall hx inv.format).mp ⟨f, hreport⟩) hmiss
    | ok text =>
      refine ⟨text, ?_, printed_report (Command.returns_call hcall _ _ _ hx) hreport⟩
      rw [told, hreport]
      rfl

theorem onGraph_silent (hexit : (inv.onGraph clock g).1.exit ≠ 0) :
    (inv.onGraph clock g).1.stdout = "" := by
  cases hpath : inv.path with
  | none => rw [Invocation.onGraph, hpath]; rfl
  | some path =>
    cases hcall : inv.command.call with
    | error f => rw [Invocation.onGraph, hpath, hcall]; rfl
    | ok x =>
      rw [onGraph_of_call hpath hcall] at hexit ⊢
      obtain ⟨f, hf⟩ := exit_ofResult.mp hexit
      rw [hf]
      rfl

theorem Contents.Holds.unchanged (h : found.Holds g) (hc : inv.command.isCall = true) (clock : Clock)
    (hstill : (inv.onGraph clock g).1.exit ≠ 0 ∨ inv.command.isWrite = false) (table : String) :
    (inv.onGraph clock g).2.store.database.entries table = g.store.database.entries table := by
  obtain ⟨hready, hconfig, text, db, -, hdb, hentries⟩ := h
  cases hpath : inv.path with
  | none => rw [Invocation.onGraph, hpath]
  | some path =>
    cases hcall : inv.command.call with
    | error f => rw [Invocation.onGraph, hpath, hcall]
    | ok x =>
      obtain ⟨s, hopen, hs⟩ := opened_openStore hdb path 0 clock
      obtain ⟨r, t, k, hx, -, hagree, hkept, hdone⟩ :=
        Command.mirrors_run inv.format hc hcall hopen (hs.agrees hready hconfig hentries)
      rw [onGraph_of_call hpath hcall, hx] at hstill ⊢
      change k.store.database.entries table = _
      have hbefore := (hs.entries table).trans (hentries table)
      cases hw : inv.command.isWrite with
      | false =>
        rw [hagree.entries table, ← hbefore]
        exact hdone.entries_of_isQuery hs.ready (fun _ hst => hst.2 hw) table
      | true =>
        have hfails := exit_ofResult.mp (hstill.resolve_right (by simp [hw]))
        by_cases hkey : Database.tableKey table = Database.tableKey s.config.tableName
        · have hkept' : k.entries = g.entries :=
            Command.entries_of_failed_write (g := g.atTime clock) hready hw hcall hx hfails
          rw [Database.entries_of_key hkey, Database.entries_of_key hkey, hs.config, ← hconfig]
          rw [entries, Store.entries, hkept] at hkept'
          exact hkept'
        · rw [hagree.entries table, ← hbefore]
          exact hdone.entries_of_ne hs.ready hkey

theorem run_absent (hc : inv.command.isCall = true) (clock : Clock) :
    ∃ f, inv.run clock .absent = (.failed f, .absent) := by
  cases hpath : inv.path with
  | none => exact ⟨_, run_of_noPath hc hpath _⟩
  | some path =>
    have hfails : ∃ f, inv.command.run clock inv.format path .absent = (.error f, .absent) := by
      cases hcommand : inv.command with
      | put c id json =>
        rw [Command.run]
        split <;> exact ⟨_, rfl⟩
      | version =>
        rw [hcommand] at hc
        cases hc
      | _ => exact ⟨_, rfl⟩
    obtain ⟨f, hf⟩ := hfails
    exact ⟨f, by rw [run_of_path clock hc hpath, hf]; rfl⟩

theorem Contents.Holds.run (h : found.Holds g) {steps : List (Clock × Invocation)}
    (hc : ∀ x ∈ steps, x.2.command.isCall = true) :
    (onFile steps found).1 = (inSession steps g).1 ∧
      (onFile steps found).2.Holds (inSession steps g).2 := by
  induction steps generalizing found g with
  | nil => exact ⟨rfl, h⟩
  | cons step rest ih =>
    obtain ⟨clock, inv⟩ := step
    obtain ⟨hstep, hrest⟩ := List.forall_mem_cons.mp hc
    obtain ⟨houtcome, hafter⟩ := h.step hstep clock
    obtain ⟨houtcomes, hleft⟩ := ih hafter hrest
    refine ⟨?_, hleft⟩
    rw [onFile, inSession]
    exact congrArg₂ List.cons houtcome houtcomes

end CommandLine

end DocumentGraph
