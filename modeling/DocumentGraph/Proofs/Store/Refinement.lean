import DocumentGraph.Proofs.Store.Calls
import DocumentGraph.Proofs.Store.Opening
set_option autoImplicit false

/-!
# Collections are shelves

On a store whose entries have different keys and documents that can be read back, a call on a
collection gives the answer of the shelf of its name and changes no other shelf, and the store stays
such a store. Hence every run of calls gives the answers of the shelves.
-/

namespace DocumentGraph

namespace Store

/-- A store that is ready and has different keys and legible documents. -/
structure Sound (s : Store) : Prop where
  ready : s.Ready
  distinct : s.entries.Distinct
  legible : ∀ e ∈ s.entries, e.data.Legible

def shelves (s : Store) (name : String) : Shelf := s.entries.shelf name

theorem shelves_eq_update {s t : Store} {name : String} {shelf : Shelf}
    (hself : t.entries.shelf name = shelf)
    (hother : ∀ other, name ≠ other → t.entries.shelf other = s.entries.shelf other) :
    t.shelves = Function.update s.shelves name shelf := by
  funext other
  by_cases hn : name = other
  · rw [← hn, Function.update_self]
    exact hself
  · rw [Function.update_of_ne (Ne.symm hn)]
    exact hother other hn

end Store

namespace CollectionCall

open Store

variable {s t : Store} {name : String} {m : StoreM Reply} {r : Except StoreError Reply}
  {shelf : Shelf} {es : Entries}

/-- The operation gives `r` and leaves this shelf under the name and a sound store. -/
def Refines (m : StoreM Reply) (s : Store) (name : String) (r : Except StoreError Reply)
    (shelf : Shelf) : Prop :=
  ∃ t, m s = (r, t) ∧ s.Keeps t ∧ t.Sound ∧ t.shelves = Function.update s.shelves name shelf

theorem refines_of_read (hs : s.Sound) (h : Yields m s r s.entries) :
    Refines m s name r (s.shelves name) := by
  obtain ⟨t, hm, hk, he⟩ := h.of_ready hs.ready
  refine ⟨t, hm, hk, ⟨hk.ready hs.ready, he ▸ hs.distinct, he ▸ hs.legible⟩, ?_⟩
  rw [Function.update_eq_self]
  funext other
  rw [shelves, he, shelves]

theorem refines_of_write (hs : s.Sound) (h : Yields m s r es) (hd : es.Distinct)
    (hl : ∀ e ∈ es, e.data.Legible) (hself : es.shelf name = shelf)
    (hother : ∀ other, name ≠ other → es.shelf other = s.entries.shelf other) :
    Refines m s name r shelf := by
  obtain ⟨t, hm, hk, he⟩ := h.of_ready hs.ready
  exact ⟨t, hm, hk, ⟨hk.ready hs.ready, he ▸ hd, he ▸ hl⟩,
    shelves_eq_update (he ▸ hself) fun other hn => he ▸ hother other hn⟩

theorem refines_of_rejection {e : StoreError} (hs : s.Sound) (h : m s = (.error e, s)) :
    Refines m s name (.error e) (s.shelves name) :=
  ⟨s, h, .refl s, hs, (Function.update_eq_self _ _).symm⟩

variable (c : Collection)

theorem nodup_ids {es : Entries} (h : es.Distinct) (name : String) : (es.shelf name).ids.Nodup := by
  rw [Shelf.ids, Entries.shelf, Entries.rows, List.map_map, List.Nodup, List.pairwise_map]
  refine List.Pairwise.imp_of_mem (fun {a b} ha hb hab hid => hab ⟨?_, hid⟩) (h.filter _)
  have hna : a.collection = name := by simpa using (List.mem_filter.mp ha).2
  have hnb : b.collection = name := by simpa using (List.mem_filter.mp hb).2
  exact hna.trans hnb.symm

theorem refines_put {id : String} {doc : Json} (hs : s.Sound) (hdoc : doc.Legible) :
    Refines (run ⟨name⟩ (put id doc)) s name
      ((put id doc).onShelf s.config.strictFilters (s.shelves name)).1
      ((put id doc).onShelf s.config.strictFilters (s.shelves name)).2 := by
  cases hw : writable id doc with
  | error e =>
    simp only [onShelf, hw]
    exact refines_of_rejection hs (Operation.bind_of_error (Collection.put_rejected _ _ hw))
  | ok u =>
    simp only [onShelf, hw]
    refine refines_of_write hs ((Collection.put_yields ⟨name⟩ s hw).map fun _ => Reply.done)
      (Entries.distinct_put hs.distinct _ _ _ _) (fun e he => ?_)
      (Entries.shelf_put_self (nodup_ids hs.distinct name) _ _ _) fun other hn => Entries.shelf_put_of_ne hn _ _ _
    rcases Entries.mem_put he with he | ⟨-, -, rfl⟩
    · exact hs.legible e he
    · exact hdoc

theorem refines_get {id : String} (hs : s.Sound) :
    Refines (run ⟨name⟩ (get id)) s name (.ok (.value ((s.shelves name).get? id)))
      (s.shelves name) := by
  have h := (Collection.get_yields ⟨name⟩ s id).map Reply.value
  rw [Collection.fetched_legible _ hs.legible] at h
  have hget := Entries.fetch_pair name id s.entries
  refine refines_of_read hs ?_
  rw [shelves, ← hget]
  simp only [Except.map, Option.map_map] at h
  exact h

theorem refines_getDocument {id : String} (hs : s.Sound) :
    Refines (run ⟨name⟩ (getDocument id)) s name
      (.ok (.document (((s.shelves name).get? id).map fun d => (id, d)))) (s.shelves name) := by
  have h := (Collection.getDocument_yields ⟨name⟩ s id).map fun d => Reply.document (d.map Document.pair)
  rw [Collection.fetched_legible _ hs.legible] at h
  have hget := Entries.fetch_pair name id s.entries
  refine refines_of_read hs ?_
  rw [shelves, ← hget]
  cases hf : s.entries.fetch name id with
  | none =>
    rw [hf] at h
    exact h
  | some e =>
    rw [hf] at h
    obtain ⟨-, -, rfl⟩ := Entries.mem_of_fetch hf
    exact h

theorem isSome_get? (s : Store) (name id : String) :
    ((s.shelves name).get? id).isSome = (s.entries.fetch name id).isSome := by
  rw [shelves, ← Entries.fetch_pair, Option.isSome_map]

theorem refines_has {id : String} (hs : s.Sound) :
    Refines (run ⟨name⟩ (has id)) s name (.ok (.flag ((s.shelves name).get? id).isSome))
      (s.shelves name) := by
  rw [isSome_get?]
  exact refines_of_read hs ((Collection.has_yields ⟨name⟩ s id).map Reply.flag)

theorem refines_delete {id : String} (hs : s.Sound) :
    Refines (run ⟨name⟩ (delete id)) s name (.ok (.flag ((s.shelves name).get? id).isSome))
      ((s.shelves name).remove id) := by
  rw [isSome_get?]
  exact refines_of_write hs ((Collection.delete_yields ⟨name⟩ s id).map Reply.flag)
    (Entries.distinct_filter hs.distinct _)
    (fun e he => hs.legible e (List.mem_of_mem_filter he))
    (Entries.shelf_remove_self _ _ _) fun other hn => Entries.shelf_remove_of_ne hn _ _

theorem selected_pair (c : Collection) (h : ∀ e ∈ es, e.data.Legible) (filter : Filter)
    (options : QueryOptions) :
    (c.selected filter options es).map (fun ds => ds.map Document.pair) =
      (es.shelf c.name).find filter options := by
  unfold Collection.selected Shelf.find
  cases hv : filter.validated with
  | error e =>
    rw [Filter.compile_of_invalid hv]
    rfl
  | ok u =>
    obtain ⟨p, hp, hsel⟩ := Filter.compile_of_valid hv
    rw [hp]
    cases options.tail with
    | error e => rfl
    | ok t =>
      have hrows := c.decodeAll_documentRows fun e (he : e ∈ es.find c.name p t) =>
        h e (Entries.mem_of_find he)
      have hfound := Entries.map_pair_find hsel c.name t es
      change (c.decodeAll _).map _ = Except.ok (Shelf.paged t.page (Shelf.sorted t.sort _))
      rw [← hfound, hrows, Except.map, List.map_map]
      rfl

theorem selected_data (c : Collection) (h : ∀ e ∈ es, e.data.Legible) (filter : Filter)
    (options : QueryOptions) :
    (c.selected filter options es).map (fun ds => ds.map (·.data)) =
      ((es.shelf c.name).find filter options).map Shelf.docs := by
  rw [← selected_pair c h]
  cases c.selected filter options es with
  | error e => rfl
  | ok ds =>
    simp only [Except.map, Shelf.docs, List.map_map]
    rfl

theorem refines_findDocuments {filter : Filter} {options : QueryOptions} (hs : s.Sound) :
    Refines (run ⟨name⟩ (findDocuments filter options)) s name
      (((s.shelves name).find filter options).map .documents) (s.shelves name) := by
  have h := (Collection.findDocuments_yields ⟨name⟩ s filter options).map fun ds =>
    Reply.documents (ds.map Document.pair)
  refine refines_of_read hs ?_
  rw [shelves, ← selected_pair ⟨name⟩ hs.legible]
  cases hx : Collection.selected ⟨name⟩ filter options s.entries <;> rwa [hx] at h

theorem yields_values (hs : s.Sound) (name : String) (filter : Filter) (options : QueryOptions) :
    Yields (do return Reply.values (← Collection.findWhere ⟨name⟩ filter options)) s
      (((s.shelves name).find filter options).map fun found => .values found.docs) s.entries := by
  have h := (Collection.findWhere_yields ⟨name⟩ s filter options).map Reply.values
  rw [selected_data _ hs.legible] at h
  rw [shelves]
  cases hx : (s.entries.shelf name).find filter options <;> rwa [hx] at h

theorem refines_findWhere {filter : Filter} {options : QueryOptions} (hs : s.Sound) :
    Refines (run ⟨name⟩ (findWhere filter options)) s name
      (((s.shelves name).find filter options).map fun found => .values found.docs)
      (s.shelves name) :=
  refines_of_read hs (yields_values hs name filter options)

theorem refines_find {filter : Json} {options : QueryOptions} (hs : s.Sound) :
    Refines (run ⟨name⟩ (find filter options)) s name
      ((find filter options).onShelf s.config.strictFilters (s.shelves name)).1
      (s.shelves name) := by
  cases hf : Filter.ofJson s.config.strictFilters filter with
  | error e =>
    simp only [onShelf, hf]
    refine refines_of_rejection hs (Operation.bind_of_error (Operation.bind_of_error ?_))
    rw [Collection.parsed, hf]
  | ok f =>
    have h₁ : Collection.parsed filter s = (.ok f, s) := by rw [Collection.parsed, hf]
    have h₂ : Collection.find ⟨name⟩ filter options s = Collection.findWhere ⟨name⟩ f options s :=
      Operation.bind_of_ok h₁
    have h := (yields_values hs name f options).congr (Operation.bind_congr h₂)
    simp only [onShelf, hf]
    exact refines_of_read hs h

theorem length_select (s : Store) (name : String) {filter : Filter} {p : Predicate}
    (h : ∀ doc, p.selects doc = filter.holds doc) :
    (s.entries.select name p).length = ((s.shelves name).matching filter).length := by
  rw [shelves, ← Entries.map_pair_select h, List.length_map]

theorem yields_number (s : Store) (name : String) (filter : Filter) :
    Yields (do return Reply.number (← Collection.countWhere ⟨name⟩ filter)) s
      (((s.shelves name).count filter).map .number) s.entries := by
  have h := (Collection.countWhere_yields ⟨name⟩ s filter).map Reply.number
  unfold Shelf.count
  cases hv : filter.validated with
  | error e =>
    rw [Filter.compile_of_invalid hv] at h
    exact h
  | ok u =>
    obtain ⟨p, hp, hsel⟩ := Filter.compile_of_valid hv
    simp only [hp, Except.map, length_select s name hsel] at h
    exact h

theorem refines_countWhere {filter : Filter} (hs : s.Sound) :
    Refines (run ⟨name⟩ (countWhere filter)) s name (((s.shelves name).count filter).map .number)
      (s.shelves name) :=
  refines_of_read hs (yields_number s name filter)

theorem refines_count {filter : Json} (hs : s.Sound) :
    Refines (run ⟨name⟩ (count filter)) s name
      ((count filter).onShelf s.config.strictFilters (s.shelves name)).1
      (s.shelves name) := by
  cases hf : Filter.ofJson s.config.strictFilters filter with
  | error e =>
    simp only [onShelf, hf]
    refine refines_of_rejection hs (Operation.bind_of_error (Operation.bind_of_error ?_))
    rw [Collection.parsed, hf]
  | ok f =>
    have h₁ : Collection.parsed filter s = (.ok f, s) := by rw [Collection.parsed, hf]
    have h₂ : Collection.count ⟨name⟩ filter s = Collection.countWhere ⟨name⟩ f s :=
      Operation.bind_of_ok h₁
    have h := (yields_number s name f).congr (Operation.bind_congr h₂)
    simp only [onShelf, hf]
    exact refines_of_read hs h

theorem refines_keys (hs : s.Sound) :
    Refines (run ⟨name⟩ keys) s name (.ok (.names (s.shelves name).keys)) (s.shelves name) := by
  rw [shelves, ← Entries.keys_shelf]
  exact refines_of_read hs ((Collection.keys_yields ⟨name⟩ s).map Reply.names)

theorem refines_deleteWhere {filter : Filter} (hs : s.Sound) :
    Refines (run ⟨name⟩ (deleteWhere filter)) s name
      ((deleteWhere filter).onShelf s.config.strictFilters (s.shelves name)).1
      ((deleteWhere filter).onShelf s.config.strictFilters (s.shelves name)).2 := by
  cases hv : filter.validated with
  | error e =>
    simp only [onShelf, hv]
    exact refines_of_rejection hs (Operation.bind_of_error
      (Collection.deleteWhere_rejected ⟨name⟩ s (Filter.compile_of_invalid hv)))
  | ok u =>
    obtain ⟨p, hp, hsel⟩ := Filter.compile_of_valid hv
    simp only [onShelf, hv]
    rw [← length_select s name hsel]
    exact refines_of_write hs ((Collection.deleteWhere_yields ⟨name⟩ s hp).map Reply.number)
      (Entries.distinct_filter hs.distinct _)
      (fun e he => hs.legible e (List.mem_of_mem_filter he))
      (Entries.shelf_removeWhere_self hsel _ _) fun other hn =>
        Entries.shelf_removeWhere_of_ne hn _ _

theorem validated_all : Filter.all.validated = .ok () := rfl

theorem holds_all (shelf : Shelf) : shelf.matching .all = shelf :=
  List.filter_eq_self.mpr fun d _ => Filter.holds_all d.2

theorem withoutMatching_all (shelf : Shelf) : shelf.withoutMatching .all = [] :=
  List.filter_eq_nil_iff.mpr fun d _ => by simp [Filter.holds_all]

theorem refines_clear (hs : s.Sound) :
    Refines (run ⟨name⟩ clear) s name (.ok (.number (s.shelves name).length)) [] := by
  have h : Refines (run ⟨name⟩ (deleteWhere .all)) s name _ _ := refines_deleteWhere hs
  simp only [onShelf, validated_all, holds_all, withoutMatching_all] at h
  exact h

/-- One call: the answer of the shelf, which is the only one that changes. -/
theorem run_refines {call : CollectionCall} (hs : s.Sound) (hc : call.Readable) (name : String) :
    Refines (call.run ⟨name⟩) s name (call.onShelf s.config.strictFilters (s.shelves name)).1
      (call.onShelf s.config.strictFilters (s.shelves name)).2 := by
  cases call with
  | put id doc => exact refines_put hs hc
  | get id => exact refines_get hs
  | getDocument id => exact refines_getDocument hs
  | has id => exact refines_has hs
  | delete id => exact refines_delete hs
  | findDocuments filter options => exact refines_findDocuments hs
  | findWhere filter options => exact refines_findWhere hs
  | find filter options => exact refines_find hs
  | list options =>
    have h : Refines (run ⟨name⟩ (findWhere .all options)) s name _ _ := refines_findWhere hs
    exact h
  | countWhere filter => exact refines_countWhere hs
  | count filter => exact refines_count hs
  | keys => exact refines_keys hs
  | deleteWhere filter => exact refines_deleteWhere hs
  | clear => exact refines_clear hs

theorem keys_ascending {shelf : Shelf} (h : shelf.ids.Nodup) : shelf.keys.Pairwise (· < ·) := by
  have hnodup : shelf.keys.Nodup := (List.mergeSort_perm _ _).nodup_iff.mpr h
  refine ((Entries.pairwise_ascending _).and hnodup).imp fun {a b} hab => ?_
  obtain ⟨hle, hne⟩ := hab
  exact Std.lt_of_le_of_ne hle hne

theorem mem_keys {shelf : Shelf} {id : String} : id ∈ shelf.keys ↔ id ∈ shelf.ids :=
  Entries.mem_ascending

theorem runAll_refines {s : Store} (hs : s.Sound) (calls : List (String × CollectionCall))
    (hc : ∀ call ∈ calls, call.2.Readable) :
    (runAll calls s).1 = (answerAll s.config.strictFilters calls s.shelves).1 ∧
      (runAll calls s).2.shelves = (answerAll s.config.strictFilters calls s.shelves).2 ∧
      (runAll calls s).2.Sound := by
  induction calls generalizing s with
  | nil => exact ⟨rfl, rfl, hs⟩
  | cons call rest ih =>
    obtain ⟨name, call⟩ := call
    obtain ⟨t, hrun, hk, ht, hshelves⟩ := run_refines hs (hc _ List.mem_cons_self) name
    obtain ⟨hreplies, hleft, hsound⟩ := ih ht fun c hmem => hc c (List.mem_cons_of_mem _ hmem)
    simp only [runAll, hrun, answerAll]
    rw [hk.config, hshelves] at hreplies hleft
    exact ⟨congrArg _ hreplies, hleft, hsound⟩

theorem counted_of_lt {n : Nat} (h : n < 2 ^ 63) : Collection.counted n = n := by
  have hn : (Int64.ofNat n).toInt = n := Int64.toInt_ofNat_of_lt h
  rw [Collection.counted, hn, Int.toNat_natCast]

theorem count_eq_length {shelf found : Shelf} {filter : Filter}
    (h : shelf.find filter .unrestricted = .ok found) (hlt : found.length < 2 ^ 63) :
    shelf.count filter = .ok found.length := by
  unfold Shelf.find at h
  unfold Shelf.count
  cases hv : filter.validated with
  | error e =>
    rw [hv] at h
    cases h
  | ok u =>
    rw [hv] at h
    have hfound : shelf.matching filter = found := by cases h; rfl
    rw [hfound]
    change Except.ok (Collection.counted found.length) = _
    rw [counted_of_lt hlt]

theorem onShelf_find_null (strict : Bool) (options : QueryOptions) (shelf : Shelf) :
    (find .null options).onShelf strict shelf = (list options).onShelf strict shelf := rfl

theorem onShelf_find_object (strict : Bool) (options : QueryOptions) (shelf : Shelf) :
    (find (.object []) options).onShelf strict shelf = (list options).onShelf strict shelf := rfl

/-- Any run of calls on any collections is answered from the shelves, and the shelves that are left
are those of the store. On them no id is there twice, the keys are strictly ascending, documents
are counted as they are found, and listing is finding with a filter that says nothing. -/
theorem runAll_eq_answerAll {s : Store} (hs : s.Sound) (calls : List (String × CollectionCall))
    (hc : ∀ call ∈ calls, call.2.Readable) :
    (runAll calls s).1 = (answerAll s.config.strictFilters calls s.shelves).1 ∧
      (runAll calls s).2.shelves = (answerAll s.config.strictFilters calls s.shelves).2 ∧
      (runAll calls s).2.Sound ∧
      ∀ name, let shelf := (runAll calls s).2.shelves name
        shelf.ids.Nodup ∧ shelf.keys.Pairwise (· < ·) ∧ (∀ id, id ∈ shelf.keys ↔ id ∈ shelf.ids) ∧
          (∀ filter found, shelf.find filter .unrestricted = .ok found → found.length < 2 ^ 63 →
            shelf.count filter = .ok found.length) ∧
          ∀ strict options,
            (find .null options).onShelf strict shelf = (list options).onShelf strict shelf ∧
              (find (.object []) options).onShelf strict shelf =
                (list options).onShelf strict shelf := by
  obtain ⟨hreplies, hleft, hsound⟩ := runAll_refines hs calls hc
  refine ⟨hreplies, hleft, hsound, fun name => ?_⟩
  have hids := nodup_ids hsound.distinct name
  exact ⟨hids, keys_ascending hids, fun id => mem_keys, fun filter found => count_eq_length,
    fun strict options => ⟨onShelf_find_null .., onShelf_find_object ..⟩⟩

/-- A new store, and two names that are put under the same id. -/
theorem runAll_two_names :
    let s : Store := ⟨.initial, .empty, .zero, [], .still 0⟩
    let calls : List (String × CollectionCall) :=
      [("a", put "x" (.object [])), ("b", put "x" (.object [("k", .null)])), ("a", delete "x"),
        ("a", put "" (.object [])), ("b", get "x")]
    (runAll calls s).1 =
      [.ok .done, .ok .done, .ok (.flag true), .error (.invalidId .emptyId),
        .ok (.value (some (.object [("k", .null)])))] := by
  have hs : Sound ⟨.initial, .empty, .zero, [], .still 0⟩ :=
    ⟨⟨rfl, rfl⟩, .nil, fun e he => by cases he⟩
  refine (runAll_eq_answerAll hs _ ?_).1.trans rfl
  simp [Readable, Json.Legible, Json.WellFormed, Json.MembersWellFormed, Json.Ascending, Json.depth,
    Json.membersDepth, readingLimit]

end CollectionCall

namespace Store

/-- A store that is opened on a database without entries is sound. -/
theorem sound_of_openOn {config : Config} {db : Database} {clock : Clock} {s : Store}
    (hopen : openOn config db clock = .ok s) (href : db.refusal = none)
    (hempty : db.entries config.tableName = []) : s.Sound ∧ ∀ name, s.shelves name = [] := by
  obtain ⟨-, created, hcreated, rfl⟩ := openOn_eq_ok.mp hopen
  obtain ⟨hready, -, rfl⟩ := Database.createTable_eq_ok.mp hcreated
  have hentries : entries ⟨config, db.withEntries config.tableName (db.entries config.tableName),
      .zero, [], clock⟩ = [] := by
    rw [entries, Database.entries_withEntries, hempty]
  refine ⟨⟨⟨hready, href⟩, ?_, ?_⟩, fun name => ?_⟩
  · rw [hentries]
    exact .nil
  · rw [hentries]
    exact List.forall_mem_nil _
  · rw [shelves, hentries]
    rfl

end Store

end DocumentGraph
