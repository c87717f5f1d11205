import DocumentGraph.Proofs.Graph.Lifecycle
import DocumentGraph.Proofs.Record.Kind
import Mathlib.Data.Set.List
set_option autoImplicit false

/-!
# What collections hold

A collection is stocked if its documents are those of records of its kind, each under its key and no
key twice. However an operation on a graph ends, it leaves stocked collections stocked.
-/

namespace DocumentGraph

open Operation DocumentGraph.Graph

/-- The collection of this name holds records of its kind only, each under its key, and each key once. -/
structure Stocked (name : String) (es : Entries) : Prop where
  nodup : (es.shelf name).ids.Nodup
  filed : ∀ d ∈ es.shelf name, ∃ x : GraphRecord, x.collection.name = name ∧ x.filed = d
  wellFormed : ∀ d ∈ es.shelf name, d.2.WellFormed

namespace Stocked

variable {name id : String} {es fs : Entries}

theorem of_empty (h : es.rows name = []) : Stocked name es := by
  have hshelf : es.shelf name = [] := List.map_eq_nil_iff.mpr h
  refine ⟨hshelf ▸ .nil, ?_, ?_⟩ <;> exact hshelf ▸ List.forall_mem_nil _

theorem of_rows (hs : Stocked name es) (h : fs.rows name = es.rows name) : Stocked name fs := by
  have hshelf : fs.shelf name = es.shelf name := congrArg (List.map Entries.pair) h
  exact ⟨hshelf ▸ hs.nodup, hshelf ▸ hs.filed, hshelf ▸ hs.wellFormed⟩

theorem filter (hs : Stocked name es) (keep : Entry → Bool) : Stocked name (es.filter keep) := by
  have hsub := Entries.shelf_filter_sublist keep name es
  exact ⟨(hsub.map _).nodup hs.nodup, fun d hd => hs.filed d (hsub.subset hd),
    fun d hd => hs.wellFormed d (hsub.subset hd)⟩

theorem put (hs : Stocked name es) (x : GraphRecord)
    (hwf : x.collection.name = name → x.document.WellFormed) (now : Int64) :
    Stocked name (es.put x.collection.name x.key x.document now) := by
  by_cases hname : x.collection.name = name
  · subst hname
    have hshelf := Entries.shelf_put_self hs.nodup x.key x.document now
    refine ⟨hshelf ▸ Shelf.nodup_put hs.nodup _ _, ?_, ?_⟩
    all_goals
      rw [hshelf]
      intro d hd
      rcases Shelf.mem_put hd with hd | rfl
    · exact hs.filed d hd
    · exact ⟨x, rfl, rfl⟩
    · exact hs.wellFormed d hd
    · exact hwf rfl
  · exact hs.of_rows (Entries.rows_put_of_ne hname _ _ _)

theorem data_of_mem (hs : Stocked name es) {d : String × Json} (hd : d ∈ es.shelf name) :
    (es.fetch name d.1).map (·.data) = some d.2 := by
  rw [Entries.fetch_pair]
  exact Shelf.get?_of_mem hs.nodup hd

variable {α : Type} [Record α] [Kept α]

theorem exists_filed (hs : Stocked (Kept.collection α).name es) {d : String × Json}
    (hd : d ∈ es.shelf (Kept.collection α).name) : ∃ r : α, Record.filed r = d := by
  obtain ⟨x, hname, rfl⟩ := hs.filed d hd
  obtain ⟨r, rfl⟩ := Kept.exists_wrap x hname
  exact ⟨r, (Kept.filed_wrap r).symm⟩

theorem exists_records (hs : Stocked (Kept.collection α).name es) :
    ∃ list : List α, es.shelf (Kept.collection α).name = list.map Record.filed ∧
      (list.map Record.key).Nodup ∧ Record.Readable Codec.readBack list := by
  have hmem : es.shelf (Kept.collection α).name ∈ Set.range (List.map (Record.filed (α := α))) := by
    rw [Set.range_list_map]
    exact fun d hd => hs.exists_filed hd
  obtain ⟨list, hlist⟩ := hmem
  refine ⟨list, hlist.symm, ?_, fun r _ => Codec.ofDocument_document r, fun r hr => ?_⟩
  · have hids := hs.nodup
    rwa [← hlist, Shelf.ids, List.map_map] at hids
  · exact hs.wellFormed _ (hlist ▸ List.mem_map_of_mem hr)

theorem exists_of_fetch (hs : Stocked (Kept.collection α).name es) {doc : Json}
    (h : (es.fetch (Kept.collection α).name id).map (·.data) = some doc) :
    ∃ r : α, Record.key r = id ∧ Record.document r = doc ∧ doc.WellFormed := by
  have hmem := Entries.mem_shelf_of_fetch h
  obtain ⟨r, hr⟩ := hs.exists_filed hmem
  exact ⟨r, congrArg Prod.fst hr, congrArg Prod.snd hr, hs.wellFormed _ hmem⟩

theorem found_of_recordAt (hs : Stocked (Kept.collection α).name es) {found : Option α}
    (h : (Kept.collection α).recordAt id es = .ok found) :
    ((es.fetch (Kept.collection α).name id).map (·.data) = none ∧ found = none) ∨
      ∃ r : α, (es.fetch (Kept.collection α).name id).map (·.data) = some (Record.document r) ∧
        Record.key r = id ∧ found = some (Codec.readBack r) ∧ (Record.document r).WellFormed := by
  cases hf : (es.fetch (Kept.collection α).name id).map (·.data) with
  | none =>
    rw [Collection.recordAt_of_absent _ (Option.map_eq_none_iff.mp hf)] at h
    cases h
    exact .inl ⟨rfl, rfl⟩
  | some doc =>
    obtain ⟨r, hkey, rfl, hwf⟩ := hs.exists_of_fetch hf
    have hfound := Collection.recordAt_of_ok _ hf (Codec.ofDocument_document r) hwf h
    exact .inr ⟨r, rfl, hkey, hfound, hwf⟩

theorem exists_of_recordAt (hs : Stocked (Kept.collection α).name es) {found : α}
    (h : (Kept.collection α).recordAt id es = .ok (some found)) :
    ∃ r : α, (es.fetch (Kept.collection α).name id).map (·.data) = some (Record.document r) ∧
      Record.key r = id ∧ found = Codec.readBack r ∧ (Record.document r).WellFormed := by
  obtain ⟨-, hnone⟩ | ⟨r, hr, hkey, hfound, hwf⟩ := hs.found_of_recordAt h
  · cases hnone
  · exact ⟨r, hr, hkey, Option.some.inj hfound, hwf⟩

end Stocked

namespace Graph

section Reading

variable {α : Type} [Record α] [Kept α] {g : Graph}

theorem getRecord_of_shallow (hs : Stocked (Kept.collection α).name g.entries)
    (hready : g.store.Ready) {r : α}
    (hr : documentAt (Kept.collection α) (Record.key r) g = some (Record.document r))
    (hdepth : (Record.document r).depth ≤ readingLimit) :
    ∃ h, onStore ((Kept.collection α).getRecord (Record.key r)) g =
      (.ok (some (Codec.readBack r)), h) := by
  obtain ⟨h, hx⟩ := getRecord_of_ready (α := α) (Kept.collection α) hready (Record.key r)
  obtain ⟨-, -, -, hwf⟩ := hs.exists_of_fetch hr
  rw [Collection.recordAt_document _ hr (Codec.ofDocument_document r) ⟨hwf, hdepth⟩] at hx
  exact ⟨h, hx⟩

theorem getRecord_of_deep (hs : Stocked (Kept.collection α).name g.entries) (hready : g.store.Ready)
    {id : String} {doc : Json} (hdoc : documentAt (Kept.collection α) id g = some doc)
    (hdeep : readingLimit < doc.depth) :
    ∃ cause h, onStore ((Kept.collection α).getRecord id : StoreM (Option α)) g =
      (.error (.corrupted (Kept.collection α).name id (.unreadable cause)), h) := by
  obtain ⟨h, hx⟩ := getRecord_of_ready (α := α) (Kept.collection α) hready id
  obtain ⟨-, -, -, hwf⟩ := hs.exists_of_fetch hdoc
  obtain ⟨cause, hcause⟩ := Collection.recordAt_of_deep (α := α) _ hdoc hwf hdeep
  exact ⟨cause, h, hcause ▸ hx⟩

/-- If everything that is stored can be read, then a stored record that passes the test of a filter is
found by it, and no record is found twice. -/
theorem findRecords_of_shallow (hs : Stocked (Kept.collection α).name g.entries)
    (hready : g.store.Ready)
    (hshallow : ∀ d ∈ g.entries.shelf (Kept.collection α).name, d.2.depth ≤ readingLimit) {r : α}
    (hr : documentAt (Kept.collection α) (Record.key r) g = some (Record.document r))
    {filter : Filter} (hv : filter.validated = .ok ()) {test : α → Bool}
    (htest : ∀ r : α, filter.holds (Record.document r) = test r) (hsel : test r = true) :
    ∃ rs h, onStore ((Kept.collection α).findRecords filter .unrestricted) g = (.ok rs, h) ∧
      Codec.readBack r ∈ rs ∧ (rs.map Record.key).Nodup := by
  obtain ⟨list, hlist, hnodup, hread⟩ := hs.exists_records
  have hmem : r ∈ list := by
    have hfiled := Entries.mem_shelf_of_fetch hr
    rw [hlist] at hfiled
    exact (List.mem_map_of_injective Kept.filed_injective).mp hfiled
  have hlists := lists_findRecords (Kept.collection α) hlist hread hv htest
  obtain ⟨h, hx⟩ := hlists.complete hready fun q hq =>
    hshallow _ (hlist ▸ List.mem_map_of_mem (List.mem_filter.mp hq).1)
  refine ⟨_, h, hx, List.mem_map_of_mem (List.mem_filter.mpr ⟨hmem, hsel⟩), ?_⟩
  have hkeys : Record.key ∘ Codec.readBack = (Record.key : α → String) := funext Kept.key_readBack
  rw [List.map_map, hkeys]
  exact (List.filter_sublist.map _).nodup hnodup

end Reading

variable {α : Type} {m : GraphM α} {name : String} {g h : Graph}

def Stocks (name : String) (m : GraphM α) : Prop :=
  Steps (fun g h => Stocked name g.entries → Stocked name h.entries) m

theorem frames_stocks (name : String) :
    Frames fun g h => Stocked name g.entries → Stocked name h.entries :=
  frames_of_spared (fun h k hs => k (h hs)) fun _ hrows hs => hs.of_rows hrows

theorem stocks_of_yields {x : StoreM α} (hx : ∀ s, ∃ r es, Store.Yields x s r es ∧
    (Stocked name s.entries → Stocked name es)) : Stocks name (onStore x) := by
  intro g r h hg hs
  obtain ⟨t, ht, rfl⟩ := onStore_eq hg
  obtain ⟨q, es, hy, hes⟩ := hx g.store
  change Stocked name t.entries
  obtain ⟨-, he | he⟩ := hy.state ht
  · exact he ▸ hes hs
  · exact he ▸ hs

theorem stocks_putRecord {ρ : Type} [Record ρ] [Kept ρ] (r : ρ)
    (hwf : (Kept.collection ρ).name = name → (Record.document r).WellFormed) :
    Stocks name (onStore ((Kept.collection ρ).putRecord r)) := by
  refine stocks_of_yields fun s => ?_
  cases hw : writable (Record.key r) (Record.document r) with
  | error e => exact ⟨_, s.entries, .inl ⟨s, Collection.put_rejected _ s hw, .refl s, rfl⟩, id⟩
  | ok u =>
    refine ⟨_, _, Collection.put_yields _ s hw, fun hs => ?_⟩
    have hput := hs.put (Kept.wrap r)
    rw [GraphRecord.key, GraphRecord.document, Kept.filed_wrap, Kept.collection_wrap] at hput
    exact hput hwf s.clock.now

theorem stocks_delete (c : Collection) (id : String) : Stocks name (onStore (c.delete id)) :=
  stocks_of_yields fun s => ⟨_, _, c.delete_yields s id, fun hs => hs.filter _⟩

theorem stocks_deleteWhere (c : Collection) (filter : Filter) :
    Stocks name (onStore (c.deleteWhere filter)) := by
  refine stocks_of_yields fun s => ?_
  cases hp : filter.compile with
  | error e => exact ⟨_, s.entries, .inl ⟨s, c.deleteWhere_rejected s hp, .refl s, rfl⟩, id⟩
  | ok p => exact ⟨_, _, c.deleteWhere_yields s hp, fun hs => hs.filter _⟩

theorem stocks_log {entry : ActionEntry} (hdata : ∀ j, entry.data = some j → j.WellFormed) :
    Stocks name (log entry) :=
  (frames_stocks name).log fun id time =>
    stocks_putRecord _ fun _ => Action.wellFormed_document ⟨entry, id, time⟩ hdata

theorem stocks_createThing {data : Json} (hdata : data.WellFormed) (type : String)
    (id : Option String) : Stocks name (createThing type data id) :=
  (frames_stocks name).createThing
    (fun _ _ => stocks_putRecord _ fun _ => Thing.wellFormed_document _ (wellFormed_membersOf hdata))
    (fun _ => stocks_log nofun) id

theorem stocks_updateThing {changes : Json} (hchanges : changes.WellFormed) (id : String) :
    Stocks name (updateThing id changes) := by
  intro g r h hx hs
  have hwf {old : Thing} {k : Graph} (hold : thing id g = (.ok (some old), k))
      (hname : thingCollection.name = name) : (Json.object old.data).WellFormed := by
    subst hname
    obtain ⟨t, -, -, rfl, ht⟩ := Stocked.exists_of_recordAt hs (thing_of_ok hold).1
    obtain ⟨-, hdata⟩ := Thing.members_of_ofDocument old.ofDocument_document
    exact Json.wellFormed_of_get? ht hdata
  refine (frames_stocks name).updateThing (fun old k hold time => stocks_putRecord _ fun hname => ?_)
    (stocks_log ?_) hx hs
  · exact Thing.wellFormed_document _
      (old.wellFormed_changed time (hwf hold hname) (wellFormed_membersOf hchanges))
  · rintro j ⟨⟩
    exact hchanges

theorem stocks_relate {data : Option Json} (hdata : ∀ j, data = some j → j.WellFormed)
    (source verb target : String) (cascade : Cascade) :
    Stocks name (relate source verb target cascade data) :=
  (frames_stocks name).relate
    (fun _ _ => stocks_putRecord _ fun _ => Relationship.wellFormed_document _ hdata)
    (stocks_log hdata)

end Graph

end DocumentGraph
