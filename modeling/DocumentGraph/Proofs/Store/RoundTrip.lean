import DocumentGraph.Proofs.Store.Changes
import DocumentGraph.Proofs.Store.Sorting
import Mathlib.Data.List.Pairwise
set_option autoImplicit false

namespace DocumentGraph

namespace Entries

variable {es : Entries} {e x : Entry} {name id : String}

theorem Distinct.eq_of_mem (h : es.Distinct) (he : e ∈ es) (hx : x ∈ es)
    (hname : e.collection = x.collection) (hid : e.id = x.id) : e = x := by
  by_contra hne
  have hsymm : Std.Symm fun a b : Entry => ¬ (a.collection = b.collection ∧ a.id = b.id) :=
    ⟨fun a b hab hba => hab ⟨hba.1.symm, hba.2.symm⟩⟩
  exact List.Pairwise.forall h he hx hne ⟨hname, hid⟩

end Entries

namespace Collection

open Store

variable (c : Collection) {s : Store} {id : String} {doc : Json} {filter : Filter}
  {options : QueryOptions} {tail : Tail}

/-- The entries that a filter selects, in the order and on the page of the tail. -/
def found (filter : Filter) (tail : Tail) (es : Entries) : Entries :=
  Entries.paged tail.page (Entries.sorted tail.sort (c.chosen filter es))

/-- A query returns the documents that it finds unless one of them nests too deep. -/
structure Finds (s : Store) (filter : Filter) (options : QueryOptions) (found : Entries) : Prop where
  complete : (∀ e ∈ found, e.data.depth ≤ readingLimit) →
    (c.findDocuments filter options s).1 = .ok (found.map Entry.document) ∧
    (c.findWhere filter options s).1 = .ok (found.map (·.data))
  deep : ∀ e ∈ found, readingLimit < e.data.depth →
    ∃ x ∈ found, readingLimit < x.data.depth ∧ ∃ cause,
      (c.findDocuments filter options s).1 = .error (.corrupted c.name x.id (.unreadable cause)) ∧
      (c.findWhere filter options s).1 = .error (.corrupted c.name x.id (.unreadable cause))

structure ReadsBack (s : Store) (id : String) (doc : Json) : Prop where
  returned : doc.depth ≤ readingLimit →
    (c.get id s).1 = .ok (some doc) ∧
    ∃ d, (c.getDocument id s).1 = .ok (some d) ∧ d.id = id ∧ d.data = doc
  refused : readingLimit < doc.depth → ∃ cause,
    (c.get id s).1 = .error (.corrupted c.name id (.unreadable cause)) ∧
    (c.getDocument id s).1 = .error (.corrupted c.name id (.unreadable cause))
  selected : ∀ filter : Filter,
    (∃ e ∈ c.chosen filter s.entries, e.id = id) ↔ filter.holds doc = true
  found : ∀ filter options tail, filter.validated = .ok () → options.tail = .ok tail →
    (∀ e ∈ c.found filter tail s.entries, e.id = id → e.data = doc) ∧
    c.Finds s filter options (c.found filter tail s.entries)
  written : ∀ j filter options, Filter.ofJson s.config.strictFilters j = .ok filter →
    filter.validated = .ok () ∧ c.find j options s = c.findWhere filter options s
  listed : ∀ options, c.list options s = c.findWhere .all options s

variable {c}

theorem mem_of_found {e : Entry} {es : Entries} (h : e ∈ c.found filter tail es) :
    e ∈ es ∧ e.collection = c.name := by
  have hchosen := Entries.mem_sorted_iff.mp (Entries.mem_of_mem_paged h)
  exact Entries.mem_rows.mp (List.mem_filter.mp hchosen).1

theorem findWhere_fst (filter : Filter) (options : QueryOptions) (s : Store) :
    (c.findWhere filter options s).1 =
      (c.findDocuments filter options s).1.map fun ds => ds.map (·.data) := by
  change ((c.findDocuments filter options >>= fun ds => pure (ds.map (·.data))) s).1 = _
  rw [Operation.bind_apply]
  rcases c.findDocuments filter options s with ⟨e | ds, t⟩ <;> rfl

theorem finds_found (hs : s.entries.Tidy) (hready : s.Ready) (hv : filter.validated = .ok ())
    (ht : options.tail = .ok tail) : c.Finds s filter options (c.found filter tail s.entries) := by
  have hwf : ∀ e ∈ c.found filter tail s.entries, e.data.WellFormed :=
    fun e he => hs.wellFormed e (mem_of_found he).1
  have hrows : ∀ e ∈ s.entries.rows c.name, e.data.WellFormed :=
    fun e he => hs.wellFormed e (Entries.mem_rows.mp he).1
  have hgives := c.gives_findWhere hrows hv ht
  refine ⟨fun hshallow => ⟨?_, hgives.ok hready hshallow⟩, fun e he hdeep => ?_⟩
  · obtain ⟨t, hfind, -⟩ := (c.findDocuments_yields s filter options).of_ready hready
    rw [hfind, c.selected_of_valid hv ht]
    exact c.decodeAll_documentRows fun e he => ⟨hwf e he, hshallow e he⟩
  · have hnot : ¬ ∀ x ∈ c.found filter tail s.entries, x.data.depth ≤ readingLimit :=
      fun h => absurd (h e he) (Nat.not_le.mpr hdeep)
    obtain ⟨x, hx, hlimit, cause, herror⟩ := hgives.error hready hnot
    refine ⟨x, hx, hlimit, cause, ?_, herror⟩
    rw [findWhere_fst] at herror
    rcases hdocs : (c.findDocuments filter options s).1 with d | ds
    · rw [hdocs] at herror
      cases herror
      rfl
    · rw [hdocs] at herror
      cases herror

theorem readsBack_of_fetch {e : Entry} (hs : s.entries.Tidy) (hready : s.Ready)
    (hfetch : s.entries.fetch c.name id = some e) : c.ReadsBack s id e.data := by
  obtain ⟨he, hname, hid⟩ := Entries.mem_of_fetch hfetch
  have hwf := hs.wellFormed e he
  have hsame {x : Entry} (hx : x ∈ s.entries) (hx' : x.collection = c.name) (hxid : x.id = id) :
      x = e := hs.distinct.eq_of_mem hx he (hx'.trans hname.symm) (hxid.trans hid.symm)
  obtain ⟨t, hdocument, -⟩ := (c.getDocument_yields s id).of_ready hready
  obtain ⟨u, hget, -⟩ := (c.get_yields s id).of_ready hready
  refine ⟨fun hshallow => ?_, fun hdeep => ?_, fun filter => ⟨?_, fun hholds => ?_⟩,
    fun filter options tail hv ht => ⟨fun x hx hxid => ?_, finds_found hs hready hv ht⟩,
    fun j filter options hj => ⟨?_, c.find_of_parsed hj options⟩, fun _ => rfl⟩
  · have hread : c.fetched id s.entries = .ok (some e.document) := by
      rw [fetched, hfetch]
      simp only [c.decode_documentRow ⟨hwf, hshallow⟩]
      rfl
    rw [hdocument, hget, hread]
    exact ⟨rfl, e.document, rfl, hid, rfl⟩
  · obtain ⟨cause, hcause⟩ := Json.read_compact_of_deep hwf hdeep
    have hread : c.fetched id s.entries = .error (.corrupted c.name id (.unreadable cause)) := by
      rw [fetched, hfetch, ← hid]
      simp only [c.decode_of_unreadable hcause]
      rfl
    rw [hdocument, hget, hread]
    exact ⟨cause, rfl, rfl⟩
  · rintro ⟨x, hx, hxid⟩
    obtain ⟨hrow, hholds⟩ := List.mem_filter.mp hx
    obtain ⟨hx, hx'⟩ := Entries.mem_rows.mp hrow
    exact hsame hx hx' hxid ▸ hholds
  · exact ⟨e, List.mem_filter.mpr ⟨Entries.mem_rows.mpr ⟨he, hname⟩, hholds⟩, hid⟩
  · obtain ⟨hx, hx'⟩ := mem_of_found hx
    rw [hsame hx hx' hxid]
  · exact Filter.validated_of_isPath (Filter.isPath_of_ofJson j hj)

theorem exists_fetch_of_get (hready : s.Ready) (hs : s.entries.Tidy)
    (h : (c.get id s).1 = .ok (some doc)) :
    ∃ e, s.entries.fetch c.name id = some e ∧ e.data = doc ∧ doc.Legible := by
  obtain ⟨t, hget, -⟩ := (c.get_yields s id).of_ready hready
  cases hfetch : s.entries.fetch c.name id with
  | none =>
    rw [hget, fetched, hfetch] at h
    cases h
  | some e =>
    have hback := readsBack_of_fetch hs hready hfetch
    by_cases hdepth : e.data.depth ≤ readingLimit
    · have hdoc := (hback.returned hdepth).1
      rw [h] at hdoc
      cases hdoc
      exact ⟨e, rfl, rfl, hs.wellFormed e (Entries.mem_of_fetch hfetch).1, hdepth⟩
    · obtain ⟨cause, hrefused, -⟩ := hback.refused (Nat.lt_of_not_le hdepth)
      rw [h] at hrefused
      cases hrefused

theorem put_succeeds_iff (hready : s.Ready) :
    (c.put id doc s).1 = .ok () ↔ id ≠ "" ∧ doc.isObject = true := by
  rw [← validId_eq_ok, ← validDocument_eq_ok, ← writable_eq_ok]
  constructor
  · intro hput
    cases hw : writable id doc with
    | error e =>
      rw [c.put_rejected s hw] at hput
      cases hput
    | ok u => rfl
  · intro hw
    obtain ⟨t, hput, -⟩ := (c.put_yields s hw).of_ready hready
    rw [hput]

open CollectionCall in
/-- Whatever calls were made before, an object of any depth is put under any id but the empty one, and
whatever calls are made afterwards that do not touch the id, the document is returned as it was put by
its id and by the queries that select it. The exception is a document that nests too deep to be read:
looking it up is an error, and so is every query that selects it or another one like it. -/
theorem put_round_trip (c : Collection) {s : Store} (hready : s.Ready) (hs : s.entries.Tidy)
    (before : List (String × CollectionCall)) (hbefore : ∀ call ∈ before, call.2.Storable) (id : String)
    {doc : Json} (hdoc : doc.WellFormed) :
    let earlier := (runAll before s).2
    ((c.put id doc earlier).1 = .ok () ↔ id ≠ "" ∧ doc.isObject = true) ∧
    ∀ t, c.put id doc earlier = (.ok (), t) → ∀ after : List (String × CollectionCall),
      (∀ call ∈ after, call.2.Storable ∧ ¬ (call.1 = c.name ∧ call.2.Touches id)) →
        c.ReadsBack (runAll after t).2 id doc := by
  intro earlier
  obtain ⟨hkeeps, htidy⟩ := runAll_tidy hs before hbefore
  have hearlier : earlier.Ready := hkeeps.ready hready
  refine ⟨put_succeeds_iff hearlier, fun t hput after hafter => ?_⟩
  obtain ⟨hkeeps', hentries⟩ := c.put_of_ok earlier hput
  have htidy' : t.entries.Tidy := hentries ▸ htidy.put hdoc
  obtain ⟨hkeeps'', hlater⟩ := runAll_tidy htidy' after fun call hcall => (hafter call hcall).1
  have hfetch := runAll_fetch t after fun call hcall => (hafter call hcall).2
  have hstored := Entries.data_fetch_put c.name id doc earlier.clock.now earlier.entries
  rw [← hentries, ← hfetch] at hstored
  obtain ⟨e, he, rfl⟩ := Option.map_eq_some_iff.mp hstored
  exact readsBack_of_fetch hlater (hkeeps''.ready (hkeeps'.ready hearlier)) he

open CollectionCall in
/-- A document with a null, an integer and a negative zero is returned as it is, while one that was put
before it and nests too deep is an error that listing meets as well. -/
theorem put_round_trip_beside_deep :
    let plain : Json := .object [("i", .number (.int 1 (by decide) (by decide))), ("n", .null),
      ("z", .number (.float (Binary64.signedZero true) (by decide)))]
    let deep : Json := .object [("d", .nested 127)]
    let s : Store := ⟨.initial, .empty, .zero, [], .still 0⟩
    let c : Collection := ⟨"c"⟩
    s.Ready ∧ s.entries.Tidy ∧ plain.WellFormed ∧ deep.WellFormed ∧
    ∃ t, c.put "x" plain (runAll [("c", .put "y" deep)] s).2 = (.ok (), t) ∧
      (c.get "x" t).1 = .ok (some plain) ∧
      (∃ cause, (c.get "y" t).1 = .error (.corrupted "c" "y" (.unreadable cause))) ∧
      ∃ key cause, (c.list .unrestricted t).1 = .error (.corrupted "c" key (.unreadable cause)) := by
  intro plain deep s c
  have hready : s.Ready := ⟨rfl, rfl⟩
  have htidy : s.entries.Tidy := Entries.tidy_nil
  have hascending : ["i", "n", "z"].Pairwise (· < ·) := by decide
  have hplain : plain.WellFormed := ⟨hascending, trivial, trivial, trivial, trivial⟩
  have hdeep : deep.WellFormed := ⟨List.pairwise_singleton _ _, Json.wellFormed_nested 127, trivial⟩
  have hshallow : plain.depth ≤ readingLimit := by
    simp [plain, Json.depth, Json.membersDepth, readingLimit]
  have hlimit : readingLimit < deep.depth := by
    simp [deep, Json.depth, Json.membersDepth, Json.depth_nested, readingLimit]
  have hstep {id : String} {doc : Json} {u t : Store} (h : c.put id doc u = (.ok (), t)) :
      (runAll [("c", .put id doc)] u).2 = t := by
    have hrun : (CollectionCall.put id doc).run c u = (.ok .done, t) := Operation.bind_of_ok h
    change ((CollectionCall.put id doc).run c u).2 = t
    rw [hrun]
  obtain ⟨hputs, hfirst⟩ := put_round_trip c hready htidy [] (List.forall_mem_nil _) "y" hdeep
  obtain ⟨hputs', hsecond⟩ := put_round_trip c hready htidy [("c", .put "y" deep)]
    (List.forall_mem_singleton.mpr hdeep) "x" hplain
  have hput : c.put "y" deep s = (.ok (), (c.put "y" deep s).2) :=
    Prod.ext (hputs.mpr ⟨by decide, rfl⟩) rfl
  obtain ⟨t, hput'⟩ : ∃ t, c.put "x" plain (runAll [("c", .put "y" deep)] s).2 = (.ok (), t) :=
    ⟨_, Prod.ext (hputs'.mpr ⟨by decide, rfl⟩) rfl⟩
  have hplainBack : c.ReadsBack t "x" plain := hsecond t hput' [] (List.forall_mem_nil _)
  have hother : "x" ≠ "y" := by decide
  have hdeepBack := hfirst _ hput [("c", .put "x" plain)]
    (List.forall_mem_singleton.mpr ⟨hplain, fun h => hother h.2⟩)
  rw [hstep hput] at hput'
  rw [hstep hput'] at hdeepBack
  rw [hstep hput]
  obtain ⟨cause, hrefused, -⟩ := hdeepBack.refused hlimit
  obtain ⟨e, he, hid⟩ := (hdeepBack.selected .all).mpr (Filter.holds_all deep)
  obtain ⟨hsame, hfinds⟩ := hdeepBack.found .all .unrestricted ⟨none, none⟩ rfl rfl
  obtain ⟨x, -, -, cause', -, hlist⟩ := hfinds.deep e he (hsame e he hid ▸ hlimit)
  exact ⟨hready, htidy, hplain, hdeep, t, hput', (hplainBack.returned hshallow).1, ⟨cause, hrefused⟩,
    x.id, cause', hlist⟩

end Collection

end DocumentGraph
