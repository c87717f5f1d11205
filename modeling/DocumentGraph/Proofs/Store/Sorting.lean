import DocumentGraph.Proofs.Sql.Comparison
import DocumentGraph.Proofs.Sql.Lexing
import DocumentGraph.Proofs.Store.Finding
set_option autoImplicit false

namespace DocumentGraph

theorem filter_mergeSort {α : Type} {le : α → α → Bool} {p : α → Bool}
    (htrans : ∀ a b c, le a b = true → le b c = true → le a c = true)
    (htotal : ∀ a b, (le a b || le b a) = true)
    (htied : ∀ a b, p a = true → p b = true → le a b = true) (l : List α) :
    (l.mergeSort le).filter p = l.filter p := by
  have hsorted : (l.filter p).Pairwise fun a b => le a b = true := by
    refine List.pairwise_of_forall_mem_list fun a ha b hb => ?_
    exact htied a b (List.mem_filter.mp ha).2 (List.mem_filter.mp hb).2
  have hsub := (List.sublist_mergeSort htrans htotal hsorted List.filter_sublist).filter p
  rw [List.filter_filter] at hsub
  simp only [Bool.and_self] at hsub
  exact (hsub.eq_of_length ((List.mergeSort_perm l le).filter p).length_eq.symm).symm

namespace SortKey

def token (key : SortKey) : String :=
  if key.descending then "-" ++ key.field.name else key.field.name

theorem toList_name_ne (f : Field) (rest : List Char) : f.name.toList ≠ '-' :: rest := by
  intro h
  have hmem : '-' ∈ f.name.toList := h ▸ List.mem_cons_self
  rcases Field.isSegmentChar_of_mem f.valid hmem with h | h
  · revert h
    decide
  · cases h

theorem toList_minus (name : String) : ("-" ++ name).toList = '-' :: name.toList :=
  String.toList_append

theorem ofToken?_eq_some_iff {word : String} {key : SortKey} :
    ofToken? word = some key ↔ word = key.token := by
  obtain ⟨f, descending⟩ := key
  unfold ofToken? token
  split
  · next rest hword =>
    have hminus : word = "-" ++ String.ofList rest := by
      rw [← String.toList_inj, hword, toList_minus, String.toList_ofList]
    cases descending with
    | false =>
      refine iff_of_false (by simp) fun h => toList_name_ne f rest ?_
      rw [← hword, h]
      rfl
    | true =>
      simp only [hminus, Option.map_eq_some_iff, Field.ofName?_eq_some_iff, mk.injEq, and_true,
        exists_eq_right, if_true, String.append_right_inj]
      exact eq_comm
  · next hword =>
    cases descending with
    | false =>
      simp only [Option.map_eq_some_iff, Field.ofName?_eq_some_iff, mk.injEq, and_true,
        exists_eq_right, Bool.false_eq_true, if_false]
      exact eq_comm
    | true =>
      refine iff_of_false (by simp) fun h => hword f.name.toList ?_
      rw [h]
      exact toList_minus f.name

/-- The first document may stand before the second one in the order of the key. -/
def Ordered (key : SortKey) (a b : Json) : Prop :=
  if key.descending then (b.extract key.field).AtMost (a.extract key.field)
  else (a.extract key.field).AtMost (b.extract key.field)

theorem mayPrecede_iff {key : SortKey} {a b : Json} :
    Tail.mayPrecede key a b = true ↔ key.Ordered a b := by
  unfold Tail.mayPrecede Ordered
  cases key.descending with
  | false => simp [SqlValue.order_ne_gt_iff]
  | true => simp [SqlValue.order_ne_lt_iff]

theorem Ordered.total (key : SortKey) (a b : Json) : key.Ordered a b ∨ key.Ordered b a := by
  unfold Ordered
  cases key.descending with
  | false => exact SqlValue.AtMost.total _ _
  | true => exact SqlValue.AtMost.total _ _

theorem Ordered.trans {key : SortKey} {a b c : Json} (hab : key.Ordered a b) (hbc : key.Ordered b c) :
    key.Ordered a c := by
  unfold Ordered at *
  cases hd : key.descending with
  | false =>
    simp only [hd] at hab hbc
    exact hab.trans hbc
  | true =>
    simp only [hd] at hab hbc
    exact hbc.trans hab

def tied (key : SortKey) (v : SqlValue) (doc : Json) : Bool := (doc.extract key.field).Ties v

theorem Ordered.of_tied {key : SortKey} {v : SqlValue} {a b : Json} (ha : key.tied v a = true)
    (hb : key.tied v b = true) : key.Ordered a b := by
  obtain ⟨hav, hva⟩ := of_decide_eq_true ha
  obtain ⟨hbv, hvb⟩ := of_decide_eq_true hb
  unfold Ordered
  split
  · exact hbv.trans hva
  · exact hav.trans hvb

theorem Ordered.tied {key : SortKey} {a b : Json} (hab : key.Ordered a b) (hba : key.Ordered b a) :
    key.tied (b.extract key.field) a = true := by
  unfold Ordered at hab hba
  refine decide_eq_true ?_
  split at hab
  · next hd =>
    rw [if_pos hd] at hba
    exact ⟨hba, hab⟩
  · next hd =>
    rw [if_neg hd] at hba
    exact ⟨hab, hba⟩

/-- The second list is the first one in the order of the key, and documents that tie are left in their
order. -/
structure Sorts (key : SortKey) (docs sorted : List Json) : Prop where
  perm : sorted.Perm docs
  ordered : sorted.Pairwise key.Ordered
  stable : ∀ v, sorted.filter (key.tied v) = docs.filter (key.tied v)

theorem sorts_sorted (key : SortKey) (es : Entries) :
    key.Sorts (es.map (·.data)) ((es.sorted (some key)).map (·.data)) := by
  have htotal (a b : Entry) :
      (Tail.mayPrecede key a.data b.data || Tail.mayPrecede key b.data a.data) = true := by
    rw [Bool.or_eq_true, mayPrecede_iff, mayPrecede_iff]
    exact Ordered.total key a.data b.data
  have htrans (a b c : Entry) (hab : Tail.mayPrecede key a.data b.data = true)
      (hbc : Tail.mayPrecede key b.data c.data = true) :
      Tail.mayPrecede key a.data c.data = true :=
    mayPrecede_iff.mpr ((mayPrecede_iff.mp hab).trans (mayPrecede_iff.mp hbc))
  refine ⟨(List.mergeSort_perm _ _).map _, ?_, fun v => ?_⟩
  · refine List.pairwise_map.mpr ((List.pairwise_mergeSort htrans htotal es).imp ?_)
    exact fun h => mayPrecede_iff.mp h
  · rw [List.filter_map, List.filter_map, Entries.sorted, filter_mergeSort htrans htotal]
    exact fun a b ha hb => mayPrecede_iff.mpr (.of_tied ha hb)

end SortKey

namespace Collection

variable (c : Collection) {filter : Filter} {options : QueryOptions} {tail : Tail} {s : Store}

theorem gives_findWhere (hwf : ∀ e ∈ s.entries.rows c.name, e.data.WellFormed)
    (hv : filter.validated = .ok ()) (ht : options.tail = .ok tail) :
    c.Gives (c.findWhere filter options) s
      (Entries.paged tail.page (Entries.sorted tail.sort (c.chosen filter s.entries))) := by
  refine c.gives_of_decodeAll (fun e he => hwf e ?_) ?_
  · exact (List.mem_filter.mp (Entries.mem_sorted_iff.mp (Entries.mem_of_mem_paged he))).1
  · rw [← c.selected_of_valid hv ht]
    exact c.findWhere_yields s filter options

theorem tail_of_token (key : Option SortKey) {limit offset : Option UInt64}
    (h : offset.isSome = true → limit.isSome = true) :
    (⟨key.map SortKey.token, limit, offset⟩ : QueryOptions).tail =
      .ok ⟨key, (⟨none, limit, offset⟩ : QueryOptions).page⟩ := by
  have hbounded : ¬ (offset.isSome = true ∧ limit.isNone = true) := fun ⟨hoffset, hlimit⟩ => by
    rw [Option.isNone_iff_eq_none.mp hlimit] at h
    exact nomatch h hoffset
  rw [QueryOptions.tail, if_neg hbounded]
  cases key with
  | none => rfl
  | some k =>
    simp only [Option.map_some, validSortToken, SortKey.ofToken?_eq_some_iff.mpr rfl]
    rfl

theorem gives_ordered (hwf : ∀ e ∈ s.entries.rows c.name, e.data.WellFormed)
    (hv : filter.validated = .ok ()) (key : Option SortKey) :
    c.Gives (c.findWhere filter ⟨key.map SortKey.token, none, none⟩) s
      ((c.chosen filter s.entries).sorted key) :=
  c.gives_findWhere hwf hv (tail_of_token key id)

/-- What the filter selects can be read: its names are field paths and no document nests too deep. -/
def Readable (filter : Filter) (es : Entries) : Prop :=
  filter.validated = .ok () ∧ ∀ e ∈ c.chosen filter es, e.data.depth ≤ readingLimit

/-- Whatever a collection holds, whatever the filter selects and whatever the key: finding with the token
of the key sorts what finding without an order gives, and fails only when that fails. The tokens of keys
are all valid tokens, and values are preordered, whatever kinds of members they come from. -/
theorem find_sorted (c : Collection) (s : Store) (hready : s.Ready)
    (hwf : ∀ e ∈ s.entries.rows c.name, e.data.WellFormed) (filter : Filter) (key : SortKey) :
    let plain := (c.findWhere filter .unrestricted s).1
    let sorted := (c.findWhere filter ⟨some key.token, none, none⟩ s).1
    let docs := (c.chosen filter s.entries).map (·.data)
    (c.Readable filter s.entries →
      plain = .ok docs ∧ ∃ docs', sorted = .ok docs' ∧ key.Sorts docs docs') ∧
    (¬ c.Readable filter s.entries → (∃ e, plain = .error e) ∧ ∃ e, sorted = .error e) ∧
    (∀ j options, Filter.ofJson s.config.strictFilters j = .ok filter →
      c.find j options s = c.findWhere filter options s) ∧
    (∀ word k, validSortToken word = .ok k ↔ word = k.token) ∧
    (∀ u v : SqlValue, u.AtMost v ∨ v.AtMost u) ∧
    ∀ u v w : SqlValue, u.AtMost v → v.AtMost w → u.AtMost w := by
  refine ⟨fun ⟨hv, hshallow⟩ => ?_, fun hnot => ?_, fun j options hj => c.find_of_parsed hj options,
    fun word k => ?_, SqlValue.AtMost.total, fun u v w => SqlValue.AtMost.trans⟩
  · have hplain := c.gives_ordered hwf hv none
    have hsorted := c.gives_ordered hwf hv (some key)
    refine ⟨hplain.ok hready hshallow, _, hsorted.ok hready fun e he => ?_, key.sorts_sorted _⟩
    exact hshallow e (Entries.mem_sorted_iff.mp he)
  · cases hv : filter.validated with
    | error e =>
      have hbad := c.findWhere_of_badFilter s (Filter.compile_of_invalid hv)
      exact ⟨⟨e, by rw [hbad]⟩, e, by rw [hbad]⟩
    | ok u =>
      have hdeep : ¬ ∀ e ∈ c.chosen filter s.entries, e.data.depth ≤ readingLimit :=
        fun h => hnot ⟨hv, h⟩
      obtain ⟨_, _, _, _, hplain⟩ := (c.gives_ordered hwf hv none).error hready hdeep
      obtain ⟨_, _, _, _, hsorted⟩ := (c.gives_ordered hwf hv (some key)).error hready fun h =>
        hdeep fun e he => h e (Entries.mem_sorted_iff.mpr he)
      exact ⟨⟨_, hplain⟩, _, hsorted⟩
  · rw [← SortKey.ofToken?_eq_some_iff, validSortToken]
    cases SortKey.ofToken? word <;> simp

/-- Of three documents an integer and a float tie: they stay in their order although the order descends. -/
theorem find_sorted_ties :
    let one : Json := .object [("a", .number (.int 1 (by decide) (by decide)))]
    let unit : Json :=
      .object [("a", .number (.float ⟨false, 4607182418800017408, by decide⟩ (by decide)))]
    let text : Json := .object [("a", .string "1")]
    let es : Entries := [⟨"c", "x", one, 0, 0⟩, ⟨"c", "y", unit, 0, 0⟩, ⟨"c", "z", text, 0, 0⟩]
    let s : Store := ⟨.initial, Database.empty.withEntries "documents" es, .zero, [], .still 0⟩
    let key : SortKey := ⟨⟨"a", by decide⟩, true⟩
    ∃ sorted, ((⟨"c"⟩ : Collection).findWhere .all ⟨some "-a", none, none⟩ s).1 = .ok sorted ∧
      key.Sorts [one, unit, text] sorted ∧ sorted.filter (key.tied (.integer 1)) = [one, unit] := by
  intro one unit text es s key
  have hentries : s.entries = es := Database.entries_withEntries _ _ _
  have hwf : ∀ e ∈ s.entries.rows "c", e.data.WellFormed := by
    have hobject (v : Json) (hv : v.WellFormed) : (Json.object [("a", v)]).WellFormed :=
      ⟨List.pairwise_singleton _ _, hv, trivial⟩
    rw [hentries]
    exact List.forall_mem_cons.mpr ⟨hobject _ trivial, List.forall_mem_cons.mpr ⟨hobject _ trivial,
      List.forall_mem_singleton.mpr (hobject _ trivial)⟩⟩
  have hchosen : Collection.chosen ⟨"c"⟩ .all s.entries = es := by
    rw [hentries]
    exact List.filter_eq_self.mpr fun _ _ => rfl
  obtain ⟨hreadable, -⟩ := find_sorted ⟨"c"⟩ s ⟨rfl, rfl⟩ hwf .all key
  rw [hchosen] at hreadable
  obtain ⟨-, sorted, hsorted, hsorts⟩ := hreadable ⟨rfl, by
    rw [hchosen]
    simp [es, one, unit, text, Json.depth, Json.membersDepth, readingLimit]⟩
  refine ⟨sorted, hsorted, hsorts, ?_⟩
  rw [hsorts.stable]
  have htied : key.tied (.integer 1) one = true ∧ key.tied (.integer 1) unit = true ∧
      key.tied (.integer 1) text = false := by decide +kernel
  simp [es, htied]

end Collection

end DocumentGraph
