import DocumentGraph.Proofs.Store.Sorting
set_option autoImplicit false

namespace DocumentGraph

namespace QueryOptions

theorem toNat_clamped (n : UInt64) : (clamped n).toInt.toNat = min n.toNat (2 ^ 63 - 1) := by
  unfold clamped
  split
  · next h =>
    have hn : n.toNat < 2 ^ 63 := h
    rw [Int64.toInt_ofNat_of_lt hn]
    omega
  · next h =>
    have hn : 2 ^ 63 ≤ n.toNat := Nat.le_of_not_lt h
    have hmax : Int64.maxValue.toInt.toNat = 2 ^ 63 - 1 := by decide
    rw [hmax]
    omega

end QueryOptions

/-- The rows of a page that begins after some rows. -/
def sliced {α : Type} (limit : UInt64) (offset : Option UInt64) (rows : List α) : List α :=
  (rows.drop (offset.getD 0).toNat).take limit.toNat

theorem map_sliced {α β : Type} (f : α → β) (limit : UInt64) (offset : Option UInt64) (rows : List α) :
    (sliced limit offset rows).map f = sliced limit offset (rows.map f) := by
  rw [sliced, sliced, List.map_take, List.map_drop]

/-- The bounds of a page are cut to what a table can hold. -/
theorem cut_eq_sliced {α : Type} {rows : List α} (h : rows.length < 2 ^ 63) (limit : UInt64)
    (offset : Option UInt64) :
    Page.cut ⟨QueryOptions.clamped limit, offset.map QueryOptions.clamped⟩ rows =
      sliced limit offset rows := by
  have hoffset : ((offset.map QueryOptions.clamped).getD 0).toInt.toNat =
      min (offset.getD 0).toNat (2 ^ 63 - 1) := by
    cases offset with
    | none => rfl
    | some k => exact QueryOptions.toNat_clamped k
  have hdrop : rows.drop (min (offset.getD 0).toNat (2 ^ 63 - 1)) =
      rows.drop (offset.getD 0).toNat := by
    rcases Nat.le_total (offset.getD 0).toNat (2 ^ 63 - 1) with hk | hk
    · rw [Nat.min_eq_left hk]
    · rw [Nat.min_eq_right hk, List.drop_of_length_le (by omega), List.drop_of_length_le (by omega)]
  rw [Page.cut, sliced, hoffset, hdrop, QueryOptions.toNat_clamped]
  have hlength : (rows.drop (offset.getD 0).toNat).length < 2 ^ 63 := by
    rw [List.length_drop]
    omega
  rcases Nat.le_total limit.toNat (2 ^ 63 - 1) with hn | hn
  · rw [Nat.min_eq_left hn]
  · rw [Nat.min_eq_right hn, List.take_of_length_le (by omega), List.take_of_length_le (by omega)]

theorem flatMap_pages {α : Type} (rows : List α) (n m : Nat) :
    (List.range m).flatMap (fun i => (rows.drop (i * n)).take n) = rows.take (m * n) := by
  induction m with
  | zero => simp
  | succ m ih =>
    rw [List.range_succ, List.flatMap_append, ih, Nat.succ_mul, List.take_add]
    simp

def pages {α : Type} (limit : UInt64) (rows : List α) : List (List α) :=
  (List.range (rows.length / limit.toNat + 1)).map fun i => (rows.drop (i * limit.toNat)).take limit.toNat

theorem flatten_pages {α : Type} {limit : UInt64} (h : 0 < limit) (rows : List α) :
    (pages limit rows).flatten = rows := by
  have hpos : 0 < limit.toNat := UInt64.lt_iff_toNat_lt.mp h
  have hlast : rows.length < (rows.length / limit.toNat + 1) * limit.toNat := by
    rw [Nat.mul_comm]
    exact Nat.lt_mul_div_succ _ hpos
  rw [pages, ← List.flatMap_def, flatMap_pages, List.take_of_length_le hlast.le]

theorem getElem_pages {α : Type} {limit : UInt64} {rows : List α} (hlength : rows.length < 2 ^ 63)
    {i : Nat} (hi : i < (pages limit rows).length) :
    (pages limit rows)[i] = sliced limit (some (UInt64.ofNat (i * limit.toNat))) rows := by
  have hle : i * limit.toNat ≤ rows.length := by
    have hquotient : i ≤ rows.length / limit.toNat := by
      simpa [pages, Nat.lt_succ_iff] using hi
    exact (Nat.mul_le_mul_right _ hquotient).trans (Nat.div_mul_le_self _ _)
  have hoffset : (UInt64.ofNat (i * limit.toNat)).toNat = i * limit.toNat :=
    UInt64.toNat_ofNat_of_lt ((hle.trans_lt hlength).trans (by decide))
  simp only [pages, sliced, List.getElem_map, List.getElem_range, Option.getD_some, hoffset]

/-- Why a query is refused: the leftmost name that is no field path, or else an offset without a limit,
or else a sort token that denotes no key. -/
def refusal (filter : Filter) (options : QueryOptions) : Option StoreError :=
  match filter.fields.find? fun n => !Field.isPath n with
  | some name => some (.invalidFieldName name)
  | none =>
    if options.offset.isSome ∧ options.limit.isNone then some (.invalidQuery .offsetWithoutLimit)
    else options.sort.bind fun word =>
      if (SortKey.ofToken? word).isSome then none else some (.invalidFieldName word)

theorem refusal_of_invalid {filter : Filter} {e : StoreError} (hv : filter.validated = .error e)
    (options : QueryOptions) : refusal filter options = some e := by
  unfold Filter.validated at hv
  unfold refusal
  cases hfirst : filter.fields.find? fun n => !Field.isPath n with
  | some name =>
    rw [hfirst] at hv
    cases hv
    rfl
  | none =>
    rw [hfirst] at hv
    cases hv

theorem refusal_of_valid {filter : Filter} (hv : filter.validated = .ok ()) (options : QueryOptions) :
    refusal filter options =
      if options.offset.isSome ∧ options.limit.isNone then some (.invalidQuery .offsetWithoutLimit)
      else options.sort.bind fun word =>
        if (SortKey.ofToken? word).isSome then none else some (.invalidFieldName word) := by
  unfold Filter.validated at hv
  unfold refusal
  cases hfirst : filter.fields.find? fun n => !Field.isPath n with
  | some name =>
    rw [hfirst] at hv
    cases hv
  | none => rfl

theorem tail_of_refusal {filter : Filter} {options : QueryOptions} {e : StoreError}
    (hv : filter.validated = .ok ()) (h : refusal filter options = some e) :
    options.tail = .error e := by
  rw [refusal_of_valid hv] at h
  unfold QueryOptions.tail
  split at h
  · next hbounds =>
    cases h
    exact if_pos hbounds
  · next hbounds =>
    rw [if_neg hbounds]
    obtain ⟨word, hsort, hword⟩ := Option.bind_eq_some_iff.mp h
    split at hword
    · cases hword
    · next hkey =>
      cases hword
      rw [hsort]
      simp only [validSortToken, Option.not_isSome_iff_eq_none.mp hkey]
      rfl

theorem exists_key_of_refusal {filter : Filter} {options : QueryOptions}
    (h : refusal filter options = none) : filter.validated = .ok () ∧
      (options.offset.isSome = true → options.limit.isSome = true) ∧
        ∃ key : Option SortKey, options.sort = key.map SortKey.token := by
  cases hv : filter.validated with
  | error e => exact absurd (refusal_of_invalid hv options) (by rw [h]; nofun)
  | ok u =>
    rw [refusal_of_valid hv] at h
    split at h
    · cases h
    · next hbounds =>
      refine ⟨rfl, fun hoffset => ?_, ?_⟩
      · exact Option.isSome_iff_ne_none.mpr fun hlimit =>
          hbounds ⟨hoffset, Option.isNone_iff_eq_none.mpr hlimit⟩
      · cases hsort : options.sort with
        | none => exact ⟨none, rfl⟩
        | some word =>
          rw [hsort] at h
          obtain ⟨key, hkey⟩ : ∃ key, SortKey.ofToken? word = some key := by
            refine Option.isSome_iff_exists.mp ?_
            by_contra hnone
            rw [Option.bind_some, if_neg hnone] at h
            cases h
          exact ⟨some key, by rw [SortKey.ofToken?_eq_some_iff.mp hkey, Option.map_some]⟩

namespace Collection

variable (c : Collection) {s : Store} {filter : Filter}

theorem findWhere_of_refusal {options : QueryOptions} {e : StoreError}
    (h : refusal filter options = some e) : c.findWhere filter options s = (.error e, s) := by
  cases hv : filter.validated with
  | error d =>
    cases (refusal_of_invalid hv options).symm.trans h
    exact c.findWhere_of_badFilter s (Filter.compile_of_invalid hv) options
  | ok u =>
    obtain ⟨p, hp, -⟩ := Filter.compile_of_valid hv
    exact c.findWhere_of_badOptions s hp (tail_of_refusal hv h)

theorem length_ordered (hlt : (s.entries.rows c.name).length < 2 ^ 63) (key : Option SortKey) :
    ((c.chosen filter s.entries).sorted key).length < 2 ^ 63 := by
  rw [Entries.length_sorted]
  exact (List.length_filter_le _ _).trans_lt hlt

theorem gives_page (hwf : ∀ e ∈ s.entries.rows c.name, e.data.WellFormed)
    (hlt : (s.entries.rows c.name).length < 2 ^ 63) (hv : filter.validated = .ok ())
    (key : Option SortKey) (limit : UInt64) (offset : Option UInt64) :
    c.Gives (c.findWhere filter ⟨key.map SortKey.token, some limit, offset⟩) s
      (sliced limit offset ((c.chosen filter s.entries).sorted key)) := by
  have hbounded : offset.isSome = true → (some limit).isSome = true := fun _ => rfl
  have hgives := c.gives_findWhere hwf hv (tail_of_token key hbounded)
  rwa [← cut_eq_sliced (c.length_ordered hlt key)]

theorem error_of_findWhere (hready : s.Ready) (hwf : ∀ e ∈ s.entries.rows c.name, e.data.WellFormed)
    {options : QueryOptions} {e : StoreError} (h : (c.findWhere filter options s).1 = .error e) :
    refusal filter options = some e ∨ ∃ row ∈ s.entries.rows c.name,
      readingLimit < row.data.depth ∧ ∃ cause, e = .corrupted c.name row.id (.unreadable cause) := by
  cases hr : refusal filter options with
  | some d =>
    rw [c.findWhere_of_refusal hr] at h
    cases h
    exact .inl rfl
  | none =>
    obtain ⟨sort, limit, offset⟩ := options
    obtain ⟨hv, hbounded, key, rfl⟩ := exists_key_of_refusal hr
    have hgives := c.gives_findWhere hwf hv (tail_of_token key hbounded)
    have hdeep := mt (hgives.ok hready) (by rw [h]; nofun)
    obtain ⟨row, hrow, hlimit, cause, herror⟩ := hgives.error hready hdeep
    rw [h] at herror
    cases herror
    have hchosen := Entries.mem_sorted_iff.mp (Entries.mem_of_mem_paged hrow)
    exact .inr ⟨row, (List.mem_filter.mp hchosen).1, hlimit, cause, rfl⟩

/-- Whatever a collection holds, for every filter and all options: why finding fails; what it gives
without a page and with one, which is a slice of it; and the consecutive pages together give the whole. -/
theorem find_paged (c : Collection) (s : Store) (hready : s.Ready)
    (hwf : ∀ e ∈ s.entries.rows c.name, e.data.WellFormed)
    (hlt : (s.entries.rows c.name).length < 2 ^ 63) (filter : Filter) :
    (∀ options e, refusal filter options = some e →
      c.findWhere filter options s = (.error e, s)) ∧
    (∀ options e, (c.findWhere filter options s).1 = .error e →
      refusal filter options = some e ∨ ∃ row ∈ s.entries.rows c.name,
        readingLimit < row.data.depth ∧
          ∃ cause, e = .corrupted c.name row.id (.unreadable cause)) ∧
    (∀ options, refusal filter options = none → ∃ key : Option SortKey,
      options.sort = key.map SortKey.token ∧
      let all := (c.chosen filter s.entries).sorted key
      c.Gives (c.findWhere filter ⟨options.sort, none, none⟩) s all ∧
      (∀ limit offset,
        c.Gives (c.findWhere filter ⟨options.sort, some limit, offset⟩) s (sliced limit offset all)) ∧
      ∀ docs, (c.findWhere filter ⟨options.sort, none, none⟩ s).1 = .ok docs →
        (∀ limit offset, (c.findWhere filter ⟨options.sort, some limit, offset⟩ s).1 =
          .ok (sliced limit offset docs)) ∧
        ∀ limit, 0 < limit → ∃ parts : List (List Json), parts.flatten = docs ∧
          ∀ i (h : i < parts.length), (c.findWhere filter
            ⟨options.sort, some limit, some (UInt64.ofNat (i * limit.toNat))⟩ s).1 = .ok parts[i]) ∧
    ∀ j options, Filter.ofJson s.config.strictFilters j = .ok filter →
      c.find j options s = c.findWhere filter options s := by
  refine ⟨fun options e => c.findWhere_of_refusal, fun options e => c.error_of_findWhere hready hwf,
    fun options h => ?_, fun j options hj => c.find_of_parsed hj options⟩
  obtain ⟨hv, -, key, hsort⟩ := exists_key_of_refusal h
  refine ⟨key, hsort, ?_⟩
  rw [hsort]
  have hwhole := c.gives_ordered hwf hv key
  have hpage := c.gives_page hwf hlt hv key
  refine ⟨hwhole, hpage, fun docs hdocs => ?_⟩
  obtain ⟨hshallow, rfl⟩ := hwhole.of_ok hready hdocs
  have hslice (limit : UInt64) (offset : Option UInt64) :
      (c.findWhere filter ⟨key.map SortKey.token, some limit, offset⟩ s).1 =
        .ok (sliced limit offset (((c.chosen filter s.entries).sorted key).map (·.data))) := by
    rw [← map_sliced]
    refine (hpage limit offset).ok hready fun e he => hshallow e ?_
    exact List.mem_of_mem_drop (List.mem_of_mem_take he)
  refine ⟨hslice, fun limit hlimit => ⟨pages limit _, flatten_pages hlimit _, fun i hi => ?_⟩⟩
  rw [hslice, getElem_pages (by rw [List.length_map]; exact c.length_ordered hlt key)]

/-- The second of two documents nests too deep: the page of the first one is found, the greatest page
after it is an error although nothing is wrong with the query, and so is the whole. -/
theorem find_paged_deep :
    let plain : Json := .object [("a", .array [])]
    let deep : Json := .object [("a", .nested 127)]
    let es : Entries := [⟨"c", "x", plain, 0, 0⟩, ⟨"c", "y", deep, 0, 0⟩]
    let s : Store := ⟨.initial, Database.empty.withEntries "documents" es, .zero, [], .still 0⟩
    let c : Collection := ⟨"c"⟩
    refusal .all ⟨none, some (.ofNat (2 ^ 64 - 1)), some 1⟩ = none ∧
      (c.findWhere .all ⟨none, some 1, none⟩ s).1 = .ok [plain] ∧
      (∃ e, (c.findWhere .all ⟨none, some (.ofNat (2 ^ 64 - 1)), some 1⟩ s).1 = .error e) ∧
      ∃ e, (c.findWhere .all .unrestricted s).1 = .error e := by
  intro plain deep es s c
  have hentries : s.entries = es := Database.entries_withEntries _ _ _
  have hready : s.Ready := ⟨rfl, rfl⟩
  have hrows : s.entries.rows c.name = es := by rw [hentries]; rfl
  have hwf : ∀ e ∈ s.entries.rows c.name, e.data.WellFormed := by
    rw [hrows]
    refine List.forall_mem_cons.mpr ⟨⟨List.pairwise_singleton _ _, trivial, trivial⟩,
      List.forall_mem_singleton.mpr ⟨List.pairwise_singleton _ _, Json.wellFormed_nested 127, trivial⟩⟩
  have hnone : refusal .all ⟨none, some (.ofNat (2 ^ 64 - 1)), some 1⟩ = none := by decide
  obtain ⟨-, -, hpages, -⟩ := find_paged c s hready hwf (by rw [hrows]; decide) .all
  obtain ⟨key, hkey, hwhole, hpage, -⟩ := hpages _ hnone
  obtain rfl : key = none := Option.map_eq_none_iff.mp hkey.symm
  have hall : Entries.sorted none (c.chosen .all s.entries) = es := by
    rw [Entries.sorted, chosen, hrows]
    exact List.filter_eq_self.mpr fun _ _ => rfl
  rw [hall] at hwhole hpage
  have hplain : plain.depth ≤ readingLimit := by
    simp [plain, Json.depth, Json.membersDepth, Json.itemsDepth, readingLimit]
  have hdeep : ¬ deep.depth ≤ readingLimit := by
    simp [deep, Json.depth, Json.membersDepth, Json.depth_nested, readingLimit]
  have hfirst : sliced 1 none es = [⟨"c", "x", plain, 0, 0⟩] := rfl
  have hrest : sliced (.ofNat (2 ^ 64 - 1)) (some 1) es = [⟨"c", "y", deep, 0, 0⟩] := by
    simp [sliced, es]
  refine ⟨hnone, ?_, ?_, ?_⟩
  · have hok := (hpage 1 none).ok hready
    rw [hfirst] at hok
    exact hok (List.forall_mem_singleton.mpr hplain)
  · have herror := (hpage (.ofNat (2 ^ 64 - 1)) (some 1)).error hready
    rw [hrest] at herror
    obtain ⟨_, -, -, _, h⟩ := herror fun h => hdeep (h _ List.mem_cons_self)
    exact ⟨_, h⟩
  · obtain ⟨_, -, -, _, h⟩ := hwhole.error hready fun h =>
      hdeep (h _ (List.mem_cons_of_mem _ List.mem_cons_self))
    exact ⟨_, h⟩

end Collection

end DocumentGraph
