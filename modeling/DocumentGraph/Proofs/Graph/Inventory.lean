import DocumentGraph.Proofs.Graph.Closed
import DocumentGraph.Proofs.Store.Inventory
set_option autoImplicit false

namespace DocumentGraph

open Operation DocumentGraph.Graph CommandLine

namespace GraphRequest

variable {g h : Graph}

theorem run_precedes {q : GraphRequest} {r : Except StoreError GraphReply} (hx : q.run g = (r, h)) :
    g.Precedes h := by
  cases q with
  | call c operates => exact c.run_precedes hx
  | collection name c =>
    have hne : name ≠ name ++ "'" := by
      intro heq
      have hlength := congrArg String.length heq
      rw [String.length_append] at hlength
      exact absurd hlength (Nat.ne_of_lt (Nat.lt_add_of_pos_right (by decide)))
    exact ((frames_spares _).map (spares_onStore (c.run_spares hne)) _ g r h hx).1
  | collections =>
    have hreads : Store.Reads Store.collections :=
      Store.reads_of_yields fun s => ⟨_, Store.collections_yields s⟩
    exact (frames_reads.map (reads_onStore hreads) _ g r h hx).1

theorem runAll_precedes (requests : List GraphRequest) (g : Graph) :
    g.Precedes (runAll requests g).2 := by
  induction requests generalizing g with
  | nil => exact .refl g
  | cons q rest ih =>
    rw [runAll]
    rcases hq : q.run g with ⟨r, h⟩
    exact (run_precedes hq).trans (ih h)

end GraphRequest

namespace Entries

def stats (es : Entries) : Graph.Stats where
  nouns := (es.rows nounCollection.name).length
  verbs := (es.rows verbCollection.name).length
  things := (es.rows thingCollection.name).length
  actions := (es.rows actionCollection.name).length
  relationships := (es.rows relationshipCollection.name).length

def listed (counts : List (String × Nat)) (c : Collection) : Nat := (counts.lookup c.name).getD 0

/-- Names, counts and statistics agree with the entries and with each other. -/
structure Tallies (es : Entries) (names : List String) (counts : List (String × Nat))
    (stats : Graph.Stats) : Prop where
  ascending : names.Pairwise fun a b => bytes a < bytes b
  held : ∀ name, name ∈ names ↔ ∃ e ∈ es, e.collection = name
  named : counts.map Prod.fst = names
  positive : ∀ c ∈ counts, 1 ≤ c.2
  total : (counts.map Prod.snd).sum = es.length
  counted : ∀ c : Collection, listed counts c = (es.rows c.name).length
  stats : stats = ⟨listed counts nounCollection, listed counts verbCollection,
    listed counts thingCollection, listed counts actionCollection,
    listed counts relationshipCollection⟩

theorem tallies (es : Entries) : es.Tallies es.collections es.inventory es.stats := by
  have hcounted (c : Collection) : listed es.inventory c = (es.rows c.name).length :=
    lookup_inventory c.name es
  refine ⟨?_, fun name => mem_collections, ?_, fun c hc => ?_, ?_, hcounted, ?_⟩
  · exact (pairwise_collections es).imp bytes_lt_iff.mpr
  · rw [inventory, List.map_map]
    exact List.map_id _
  · obtain ⟨name, hname, rfl⟩ := List.mem_map.mp hc
    exact length_rows_pos.mpr hname
  · rw [inventory, List.map_map]
    exact sum_length_rows es
  · simp only [hcounted]
    rfl

end Entries

namespace Graph

/-- The operation ends well with this value and changes nothing that is stored. -/
def Reports {α : Type} (m : GraphM α) (g : Graph) (a : α) : Prop :=
  ∃ h, m g = (.ok a, h) ∧ g.Precedes h ∧ h.entries = g.entries

variable {α β : Type} {m : GraphM α} {f : α → GraphM β} {g : Graph} {a : α} {b : β}

theorem Reports.bind (hm : Reports m g a)
    (hf : ∀ h : Graph, g.Precedes h → h.entries = g.entries → Reports (f a) h b) :
    Reports (m >>= f) g b := by
  obtain ⟨h, hx, hp, he⟩ := hm
  obtain ⟨k, hy, hp', he'⟩ := hf h hp he
  exact ⟨k, (bind_of_ok hx).trans hy, hp.trans hp', he'.trans he⟩

theorem reports_pure (a : α) (g : Graph) : Reports (pure a) g a := ⟨g, rfl, .refl g, rfl⟩

theorem reports_onStore {x : StoreM α} (hx : Store.Ends x g.store (.ok a) g.entries) :
    Reports (onStore x) g a := by
  obtain ⟨t, ht, hk, he⟩ := hx
  exact ⟨_, onStore_apply ht, .of_keeps hk rfl, he⟩

theorem reports_countAll (hready : g.store.Ready) (hlt : g.entries.length < 2 ^ 63) (c : Collection) :
    Reports (onStore (c.countWhere .all)) g (g.entries.rows c.name).length :=
  reports_onStore ((Store.countAll_yields c hlt).of_ready hready)

theorem reports_stats (hready : g.store.Ready) (hlt : g.entries.length < 2 ^ 63) :
    Reports stats g g.entries.stats := by
  have hcount {h : Graph} (hp : g.Precedes h) (he : h.entries = g.entries) (c : Collection) :
      Reports (onStore (c.countWhere .all)) h (g.entries.rows c.name).length := by
    rw [← he]
    exact reports_countAll (hp.keeps.ready hready) (he ▸ hlt) c
  refine (hcount (.refl g) rfl nounCollection).bind fun _ hp he => ?_
  refine (hcount hp he verbCollection).bind fun _ hp' he' => ?_
  replace hp := hp.trans hp'
  replace he := he'.trans he
  refine (hcount hp he thingCollection).bind fun _ hp' he' => ?_
  replace hp := hp.trans hp'
  replace he := he'.trans he
  refine (hcount hp he actionCollection).bind fun _ hp' he' => ?_
  replace hp := hp.trans hp'
  replace he := he'.trans he
  exact (hcount hp he relationshipCollection).bind fun _ _ _ => reports_pure _ _

theorem reports_inspect (hready : g.store.Ready) (hlt : g.entries.length < 2 ^ 63) :
    Reports inspect g (g.entries.stats, g.entries.inventory) := by
  refine (reports_stats hready hlt).bind fun h hp he => ?_
  have hreadyh := hp.keeps.ready hready
  have hlth : h.entries.length < 2 ^ 63 := he.symm ▸ hlt
  have hcounts : Reports (onStore do collectionCounts (← Store.collections)) h
      g.entries.inventory := by
    rw [← he]
    refine reports_onStore (((Store.collections_yields h.store).of_ready hreadyh).bind ?_)
    intro t hk ht
    have hends := Store.collectionCounts_ends (hk.ready hreadyh) (by rw [ht]; exact hlth)
      h.store.entries.collections
    rwa [ht] at hends
  exact hcounts.bind fun k _ _ => reports_pure _ k

end Graph

namespace CommandLine

/-- What the command shows is in the table with the initial name. -/
theorem stats_of_file {db : Database} {es : Entries} (hes : db.entries Config.initial.tableName = es)
    (hlt : es.length < 2 ^ 63) (clock : Clock) (format : Format) (path : String) (size : Nat) :
    ∃ place, Command.run clock format path (.file db size) .stats =
      (.ok (Inspection.report format ⟨path, size, es.stats, es.inventory⟩), place) := by
  let s : Store :=
    ⟨.initial, db.reopened.withEntries Config.initial.tableName es, .zero, [], clock⟩
  have hopen : openStore path (.file db size) clock = .ok (s, size) := by
    have hs : Store.openOn .initial { db with isOpen := true, refusal := none } clock = .ok s := by
      subst hes
      have hready : db.reopened.isOpen = true := rfl
      exact Store.openOn_initial hready clock
    rw [openStore, hs]
  have hready : s.Ready := ⟨rfl, rfl⟩
  have hentries : (Graph.ofStore s noTails).entries = es := Database.entries_withEntries _ _ _
  obtain ⟨k, hk, -, -⟩ := reports_inspect (g := Graph.ofStore s noTails) hready (hentries.symm ▸ hlt)
  rw [hentries] at hk
  refine ⟨.file k.store.database size, ?_⟩
  rw [Command.run, withGraph, hopen]
  dsimp only
  rw [hk]

end CommandLine

namespace GraphRequest

/-- Whatever is asked of a graph and of the collections of its store, and however it ends: the names of the
collections, the counts and the statistics agree with what is stored then, and the command that is run on
the file reports the same counts and statistics. -/
theorem tallies_of_runAll (g : Graph) (hready : g.store.Ready) (requests : List GraphRequest)
    (hlt : (runAll requests g).2.entries.length < 2 ^ 63) :
    let h := (runAll requests g).2
    ∃ names counts stats, h.entries.Tallies names counts stats ∧
      Reports (onStore Store.collections) h names ∧ Reports Graph.stats h stats ∧
      Reports inspect h (stats, counts) ∧
      (g.store.config.tableName = Config.initial.tableName → ∀ clock format path size, ∃ place,
        Command.run clock format path (.file h.store.database size) .stats =
          (.ok (Inspection.report format ⟨path, size, stats, counts⟩), place)) := by
  intro h
  have hprecedes : g.Precedes h := runAll_precedes requests g
  have hreadyh := hprecedes.keeps.ready hready
  refine ⟨_, _, _, h.entries.tallies,
    reports_onStore ((Store.collections_yields h.store).of_ready hreadyh), reports_stats hreadyh hlt,
    reports_inspect hreadyh hlt, fun htable clock format path size => ?_⟩
  refine stats_of_file ?_ hlt clock format path size
  rw [← htable, ← hprecedes.keeps.config]
  rfl

/-- A document is put and deleted again, another one is put and a noun is defined: two names are left. -/
theorem tallies_of_runAll_deleted :
    let g : Graph := ofStore ⟨.initial, .empty, .zero, [], .still 0⟩ fun _ => 0
    let requests : List GraphRequest := [.collection "b" (.put "x" (.object [])),
      .collection "a" (.put "x" (.object [])), .call (.defineNoun "Note" ⟨none, none⟩) rfl,
      .collection "b" (.delete "x")]
    let h := (runAll requests g).2
    ∃ names counts stats, Reports (onStore Store.collections) h names ∧
      Reports inspect h (stats, counts) ∧ "a" ∈ names ∧ "b" ∉ names ∧ stats.nouns = 1 ∧
      (counts.map Prod.snd).sum = 2 := by
  intro g requests h
  have hnames : h.entries.map (·.collection) = ["a", "nouns"] := by decide +kernel
  have hlength : h.entries.length = 2 := by rw [← List.length_map, hnames]; rfl
  have hheld (name : String) : (∃ e ∈ h.entries, e.collection = name) ↔ name ∈ ["a", "nouns"] := by
    rw [← hnames, List.mem_map]
  have hlt : h.entries.length < 2 ^ 63 := by
    rw [hlength]
    decide
  obtain ⟨names, counts, stats, htallies, hcollections, -, hinspect, -⟩ :=
    tallies_of_runAll g ⟨rfl, rfl⟩ requests hlt
  refine ⟨names, counts, stats, hcollections, hinspect, ?_, ?_, ?_, htallies.total.trans hlength⟩
  · rw [htallies.held, hheld]
    decide
  · rw [htallies.held, hheld]
    decide
  · rw [htallies.stats]
    refine (htallies.counted nounCollection).trans ?_
    rw [Entries.length_rows, hnames]
    decide

end GraphRequest

end DocumentGraph
