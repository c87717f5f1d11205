import DocumentGraph.Proofs.Filter.Written
import DocumentGraph.Proofs.Store.Reading
import DocumentGraph.Proofs.Store.Refinement
set_option autoImplicit false

namespace DocumentGraph.Collection

open Store

variable (c : Collection) {s : Store} {m : StoreM (List Json)} {found : Entries}

def satisfying (filter : Json) (es : Entries) : Entries :=
  (es.rows c.name).filter fun e => e.data.satisfies filter

/-- Reading gives the documents of the entries, in order, unless one of them nests too deep; then it
is an error about the first of those. -/
structure Gives (m : StoreM (List Json)) (s : Store) (found : Entries) : Prop where
  complete : (∀ e ∈ found, e.data.depth ≤ readingLimit) →
    Yields m s (.ok (found.map (·.data))) s.entries
  deep : ∀ before e after, found = before ++ e :: after →
    (∀ b ∈ before, b.data.depth ≤ readingLimit) → readingLimit < e.data.depth →
      ∃ cause, Yields m s (.error (.corrupted c.name e.id (.unreadable cause))) s.entries

variable {c} in
theorem Gives.ok (h : c.Gives m s found) (hready : s.Ready)
    (hshallow : ∀ e ∈ found, e.data.depth ≤ readingLimit) :
    (m s).1 = .ok (found.map (·.data)) := by
  obtain ⟨t, ht, -⟩ := (h.complete hshallow).of_ready hready
  rw [ht]

variable {c} in
theorem Gives.error (h : c.Gives m s found) (hready : s.Ready)
    (hdeep : ¬ ∀ e ∈ found, e.data.depth ≤ readingLimit) :
    ∃ e ∈ found, readingLimit < e.data.depth ∧
      ∃ cause, (m s).1 = .error (.corrupted c.name e.id (.unreadable cause)) := by
  obtain ⟨e, hfirst⟩ : ∃ e, found.find? (fun e => readingLimit < e.data.depth) = some e := by
    refine Option.isSome_iff_exists.mp (List.find?_isSome.mpr ?_)
    simpa using hdeep
  obtain ⟨hlimit, before, after, hsplit, hbefore⟩ := List.find?_eq_some_iff_append.mp hfirst
  have hlimit : readingLimit < e.data.depth := of_decide_eq_true hlimit
  have hshallow : ∀ b ∈ before, b.data.depth ≤ readingLimit := by simpa using hbefore
  obtain ⟨cause, hyields⟩ := h.deep before e after hsplit hshallow hlimit
  obtain ⟨t, ht, -⟩ := hyields.of_ready hready
  exact ⟨e, List.mem_of_find?_eq_some hfirst, hlimit, cause, by rw [ht]⟩

variable {c} in
theorem Gives.of_ok {docs : List Json} (h : c.Gives m s found) (hready : s.Ready)
    (hm : (m s).1 = .ok docs) :
    (∀ e ∈ found, e.data.depth ≤ readingLimit) ∧ docs = found.map (·.data) := by
  have hshallow : ∀ e ∈ found, e.data.depth ≤ readingLimit := by
    by_contra hdeep
    obtain ⟨e, -, -, cause, herror⟩ := h.error hready hdeep
    rw [hm] at herror
    cases herror
  exact ⟨hshallow, Except.ok.inj (hm.symm.trans (h.ok hready hshallow))⟩

theorem satisfying_all (es : Entries) : c.satisfying .null es = es.rows c.name :=
  List.filter_eq_self.mpr fun _ _ => rfl

theorem chosen_of_parsed {strict : Bool} {j : Json} {filter : Filter}
    (h : Filter.ofJson strict j = .ok filter) (es : Entries) :
    c.chosen filter es = c.satisfying j es :=
  List.filter_congr fun _ _ => Filter.holds_ofJson j h

theorem gives_of_decodeAll (hwf : ∀ e ∈ found, e.data.WellFormed)
    (h : Yields m s ((c.decodeAll (found.map Cursor.documentRow)).map fun ds => ds.map (·.data))
      s.entries) : c.Gives m s found := by
  refine ⟨fun hshallow => ?_, fun before e after hsplit hbefore hdeep => ?_⟩
  · rw [c.decodeAll_documentRows fun e he => ⟨hwf e he, hshallow e he⟩, Except.map,
      List.map_map] at h
    exact h
  · subst hsplit
    obtain ⟨hwfs, hwf⟩ := List.forall_mem_append.mp hwf
    have hlegible : ∀ b ∈ before, b.data.Legible := fun b hb => ⟨hwfs b hb, hbefore b hb⟩
    obtain ⟨cause, hcause⟩ := c.decodeAll_of_deep (hwf e List.mem_cons_self) hlegible hdeep after
    rw [hcause] at h
    exact ⟨cause, h⟩

theorem find_of_parsed {j : Json} {filter : Filter}
    (h : Filter.ofJson s.config.strictFilters j = .ok filter) (options : QueryOptions) :
    c.find j options s = c.findWhere filter options s := by
  have hparsed : parsed j s = (.ok filter, s) := by rw [parsed, h]
  exact Operation.bind_of_ok hparsed

theorem gives_find {j : Json} (hj : Filter.Parses s.config.strictFilters j)
    (hwf : ∀ e ∈ s.entries.rows c.name, e.data.WellFormed) :
    c.Gives (c.find j .unrestricted) s (c.satisfying j s.entries) := by
  obtain ⟨filter, hfilter⟩ := hj
  have hvalid := Filter.validated_of_isPath (Filter.isPath_of_ofJson j hfilter)
  have hyields := (c.findWhere_yields s filter .unrestricted).congr (c.find_of_parsed hfilter _)
  rw [c.selected_unrestricted hvalid, c.chosen_of_parsed hfilter] at hyields
  exact c.gives_of_decodeAll (fun e he => hwf e (List.mem_filter.mp he).1) hyields

theorem count_satisfying {j : Json} (hj : Filter.Parses s.config.strictFilters j)
    (hlt : (c.satisfying j s.entries).length < 2 ^ 63) :
    Yields (c.count j) s (.ok (c.satisfying j s.entries).length) s.entries := by
  obtain ⟨filter, hfilter⟩ := hj
  have hparsed : parsed j s = (.ok filter, s) := by rw [parsed, hfilter]
  have hvalid := Filter.validated_of_isPath (Filter.isPath_of_ofJson j hfilter)
  obtain ⟨p, hp, hsel⟩ := Filter.compile_of_valid hvalid
  have hselected : s.entries.select c.name p = c.satisfying j s.entries := by
    rw [← c.chosen_of_parsed hfilter, c.select_eq_chosen hsel]
  have hyields := (c.countWhere_yields s filter).congr (Operation.bind_of_ok hparsed)
  rw [hp, Except.map, hselected, CollectionCall.counted_of_lt hlt] at hyields
  exact hyields

/-- Whatever a collection holds and whatever filter is parsed, finding gives the documents that
satisfy the filter as it is written, counting counts them, and listing gives all; and a filter that
is rephrased selects the same. The exception is a document that nests too deep: it is counted, and
finding it is an error. -/
theorem find_satisfying (c : Collection) (s : Store)
    (hwf : ∀ e ∈ s.entries.rows c.name, e.data.WellFormed) :
    (∀ j, Filter.Parses s.config.strictFilters j →
      let found := c.satisfying j s.entries
      c.Gives (c.find j .unrestricted) s found ∧
        (found.length < 2 ^ 63 → Yields (c.count j) s (.ok found.length) s.entries)) ∧
      c.Gives (c.list .unrestricted) s (s.entries.rows c.name) ∧
      ∀ i j, Filter.Rephrases i j →
        (Filter.Parses s.config.strictFilters i ↔ Filter.Parses s.config.strictFilters j) ∧
          c.satisfying i s.entries = c.satisfying j s.entries := by
  refine ⟨fun j hj => ⟨c.gives_find hj hwf, c.count_satisfying hj⟩, ?_, fun i j h => ?_⟩
  · have hnull : Filter.Parses s.config.strictFilters .null := ⟨.all, rfl⟩
    have hgives := c.gives_find hnull hwf
    rw [satisfying_all] at hgives
    exact hgives
  · obtain ⟨hparses, hsame⟩ := h.same s.config.strictFilters
    exact ⟨hparses, List.filter_congr fun e _ => hsame e.data⟩

/-- Of two documents one nests too deep: a filter that does not select it finds the other one, and
listing is an error about it although both are counted. -/
theorem find_satisfying_deep :
    let plain : Json := .object [("a", .array []), ("b", .null)]
    let es : Entries :=
      [⟨"c", "x", plain, 0, 0⟩, ⟨"c", "y", .object [("d", .nested 127)], 0, 0⟩]
    let s : Store := ⟨.initial, Database.empty.withEntries "documents" es, .zero, [], .still 0⟩
    let c : Collection := ⟨"c"⟩
    let j : Json := .object
      [("$or", .array []), ("a", .object [("$exists", .string "no"), ("$in", .array [.array []])])]
    (∃ t, c.find j .unrestricted s = (.ok [plain], t)) ∧ (∃ t, c.count .null s = (.ok 2, t)) ∧
      ∃ cause t, c.list .unrestricted s = (.error (.corrupted "c" "y" (.unreadable cause)), t) := by
  intro plain es s c j
  have hentries : s.entries = es := Database.entries_withEntries _ _ _
  have hready : s.Ready := ⟨rfl, rfl⟩
  have hplain : plain.WellFormed :=
    ⟨List.pairwise_pair.mpr (by decide), trivial, trivial, trivial⟩
  have hrows : s.entries.rows c.name = es := by rw [hentries]; rfl
  have hwf : ∀ e ∈ s.entries.rows c.name, e.data.WellFormed := by
    rw [hrows]
    refine List.forall_mem_cons.mpr ⟨hplain, List.forall_mem_singleton.mpr ?_⟩
    exact ⟨List.pairwise_singleton _ _, Json.wellFormed_nested 127, trivial⟩
  obtain ⟨hparsed, hlist, -⟩ := find_satisfying c s hwf
  have hfound : c.satisfying j s.entries = [⟨"c", "x", plain, 0, 0⟩] := by
    have hselected : plain.satisfies j = true := by decide
    have hdeep : (Json.object [("d", .nested 127)]).satisfies j = false := by decide
    rw [satisfying, hrows]
    simp [es, hselected, hdeep]
  obtain ⟨hfind, -⟩ := hparsed j ⟨_, rfl⟩
  obtain ⟨-, hcount⟩ := hparsed .null ⟨_, rfl⟩
  rw [hfound] at hfind
  rw [satisfying_all, hrows] at hcount
  rw [hrows] at hlist
  obtain ⟨t, ht, -⟩ := (hfind.complete (by simp [plain, Json.depth, Json.membersDepth,
    Json.itemsDepth, readingLimit])).of_ready hready
  obtain ⟨u, hu, -⟩ := (hcount (by decide)).of_ready hready
  obtain ⟨cause, hdeep⟩ := hlist.deep [⟨"c", "x", plain, 0, 0⟩] _ [] rfl
    (by simp [plain, Json.depth, Json.membersDepth, Json.itemsDepth, readingLimit])
    (by simp [Json.depth, Json.membersDepth, Json.depth_nested, readingLimit])
  obtain ⟨v, hv, -⟩ := hdeep.of_ready hready
  exact ⟨⟨t, ht⟩, ⟨u, hu⟩, cause, v, hv⟩

end DocumentGraph.Collection
