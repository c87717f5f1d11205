import DocumentGraph.Proofs.Database.Wording
import DocumentGraph.Proofs.Filter.Compilation
import DocumentGraph.Proofs.Filter.Fragment
import DocumentGraph.Proofs.Filter.Written
import DocumentGraph.Proofs.Store.Inventory
import DocumentGraph.Proofs.Store.Sorting
set_option autoImplicit false

/-!
# What statements do

With the values of a statement for its placeholders, the sentence that its text reads as gives what running
the statement gives, and nothing else: the order that it asks for leaves no choice, and where it asks for
none there is at most one row or only their number counts.
-/

namespace DocumentGraph

namespace Sql

variable {e : Entry} {es : Entries} {rest ps : List SqlValue} {out : Cursor × Entries}
  {a b : NumberedRow} {rows found : List NumberedRow}

theorem eval_cons {c : Column} {s t : String} (hc : c.value e = .text s) (cs : List Column)
    (q : Formula) (ps : List SqlValue) :
    Where.eval e (c :: cs) q (.text t :: ps) =
      (Truth.and (some (decide (s = t))) (Where.eval e cs q ps).1, (Where.eval e cs q ps).2) := by
  have hequal : SqlValue.compared (· = .eq) (.text s) (.text t) = some (decide (s = t)) := by
    have horder : (SqlValue.text s).order (.text t) = .eq ↔ s = t :=
      (SqlValue.order_text_eq_iff t s).trans eq_comm
    rw [SqlValue.compared]
    simp [SqlValue.isNull, horder]
  rw [← hequal, ← hc]
  rfl

theorem Where.Leaves.unique {w : Where} {rest' : List SqlValue} (h : w.Leaves ps rest)
    (h' : w.Leaves ps rest') : rest' = rest :=
  (h' ⟨"", "", .null, 0, 0⟩).symm.trans (h ⟨"", "", .null, 0, 0⟩)

theorem inOrder_rowid : InOrder [.rowid] a b ↔ a.2 ≤ b.2 := by
  simp [InOrder, OrderTerm.order, compare_gt_iff_gt]

theorem inOrder_column {c : Column} {s t : String} (ha : c.value a.1 = .text s)
    (hb : c.value b.1 = .text t) : InOrder [.column c] a b ↔ s ≤ t := by
  have hcompare : compare s t ≠ .gt ↔ s ≤ t := by rw [ne_eq, compare_gt_iff_gt, not_lt]
  rw [← hcompare]
  simp only [InOrder, List.foldr_cons, List.foldr_nil, Ordering.then_eq, OrderTerm.order, ha, hb]
  rfl

theorem order_member {key : SortKey} :
    ((OrderTerm.member key).order a b ≠ .gt ↔ key.Ordered a.1.data b.1.data) ∧
      ((OrderTerm.member key).order a b ≠ .lt ↔ key.Ordered b.1.data a.1.data) := by
  obtain ⟨f, descending⟩ := key
  cases descending with
  | false => exact ⟨SqlValue.order_ne_gt_iff, SqlValue.order_ne_lt_iff⟩
  | true =>
    have hswap : (OrderTerm.member ⟨f, true⟩).order a b =
        (b.1.data.extract f).order (a.1.data.extract f) := SqlValue.order_swap _ _
    rw [hswap]
    exact ⟨SqlValue.order_ne_gt_iff, SqlValue.order_ne_lt_iff⟩

/-- Rows whose members tie stand in the order of their numbers. -/
theorem inOrder_member {key : SortKey} : InOrder [.member key, .rowid] a b ↔
    key.Ordered a.1.data b.1.data ∧ (key.Ordered b.1.data a.1.data → a.2 ≤ b.2) := by
  obtain ⟨hfirst, hsecond⟩ := @order_member a b key
  rw [← hfirst, ← hsecond, ← inOrder_rowid]
  simp only [InOrder, List.foldr_cons, List.foldr_nil]
  cases (OrderTerm.member key).order a b <;> simp

theorem map_filter_zipIdx (keep : Entry → Bool) (es : Entries) :
    (es.zipIdx.filter fun x => keep x.1).map (·.1) = es.filter keep := by
  have h := List.filter_map (f := Prod.fst) (p := keep) (l := es.zipIdx)
  rw [List.zipIdx_map_fst] at h
  exact h.symm

theorem pairwise_numbers (keep : Entry → Bool) (es : Entries) :
    (es.zipIdx.filter fun x => keep x.1).Pairwise fun a b => a.2 < b.2 := by
  refine List.Pairwise.filter _ (List.pairwise_map.mp ?_)
  rw [List.zipIdx_map_snd]
  exact List.pairwise_lt_range'

theorem eq_of_number (h : found.Pairwise fun a b => a.2 < b.2) (ha : a ∈ found) (hb : b ∈ found)
    (hab : a.2 = b.2) : a = b := by
  by_contra hne
  have hsymm : Std.Symm fun a b : NumberedRow => a.2 ≠ b.2 := ⟨fun _ _ => Ne.symm⟩
  exact (h.imp fun h => h.ne).forall ha hb hne hab

theorem pairwise_inOrder_mergeSort (key : SortKey) (h : found.Pairwise fun a b => a.2 < b.2) :
    (found.mergeSort fun a b => Tail.mayPrecede key a.1.data b.1.data).Pairwise
      (InOrder [.member key, .rowid]) := by
  have htrans (a b c : NumberedRow) (hab : Tail.mayPrecede key a.1.data b.1.data = true)
      (hbc : Tail.mayPrecede key b.1.data c.1.data = true) :
      Tail.mayPrecede key a.1.data c.1.data = true :=
    SortKey.mayPrecede_iff.mpr ((SortKey.mayPrecede_iff.mp hab).trans (SortKey.mayPrecede_iff.mp hbc))
  have htotal (a b : NumberedRow) :
      (Tail.mayPrecede key a.1.data b.1.data || Tail.mayPrecede key b.1.data a.1.data) = true := by
    rw [Bool.or_eq_true, SortKey.mayPrecede_iff, SortKey.mayPrecede_iff]
    exact SortKey.Ordered.total key a.1.data b.1.data
  rw [List.pairwise_iff_forall_sublist]
  intro a b hsub
  have hab : key.Ordered a.1.data b.1.data := SortKey.mayPrecede_iff.mp
    (List.pairwise_iff_forall_sublist.mp (List.pairwise_mergeSort htrans htotal found) hsub)
  refine inOrder_member.mpr ⟨hab, fun hba => ?_⟩
  -- Rows that tie with the second one were not moved past each other.
  let tied (x : NumberedRow) : Bool := key.tied (b.1.data.extract key.field) x.1.data
  have htied : (found.mergeSort fun a b => Tail.mayPrecede key a.1.data b.1.data).filter tied =
      found.filter tied :=
    filter_mergeSort htrans htotal
      (fun a b ha hb => SortKey.mayPrecede_iff.mpr (.of_tied ha hb)) found
  have hpair : [a, b].filter tied = [a, b] := List.filter_eq_self.mpr (by
    simp only [List.mem_cons, List.not_mem_nil, or_false, forall_eq_or_imp, forall_eq]
    exact ⟨hab.tied hba, (SortKey.Ordered.total key _ _).elim (fun h => h.tied h) fun h => h.tied h⟩)
  have hkept := hsub.filter tied
  rw [hpair, htied] at hkept
  exact (List.pairwise_iff_forall_sublist.mp h (hkept.trans List.filter_sublist)).le

theorem sorted_of_terms (t : Tail) (h : found.Pairwise fun a b => a.2 < b.2) :
    ∃ rows : List NumberedRow, rows.Perm found ∧ rows.Pairwise (InOrder t.terms) ∧
      rows.map (·.1) = Entries.sorted t.sort (found.map (·.1)) := by
  obtain ⟨sort, page⟩ := t
  cases sort with
  | none => exact ⟨found, .refl _, h.imp fun h => inOrder_rowid.mpr h.le, rfl⟩
  | some key =>
    exact ⟨_, List.mergeSort_perm _ _, pairwise_inOrder_mergeSort key h,
      List.map_mergeSort fun _ _ _ _ => rfl⟩

theorem eq_of_terms (t : Tail) (h : found.Pairwise fun a b => a.2 < b.2) {rows' : List NumberedRow}
    (hrows : rows.Perm found) (hord : rows.Pairwise (InOrder t.terms)) (hrows' : rows'.Perm found)
    (hord' : rows'.Pairwise (InOrder t.terms)) : rows = rows' := by
  refine List.Perm.eq_of_pairwise (fun a b ha hb hab hba => ?_) hord hord' (hrows.trans hrows'.symm)
  refine eq_of_number h (hrows.mem_iff.mp ha) (hrows'.mem_iff.mp hb) ?_
  obtain ⟨sort, page⟩ := t
  cases sort with
  | none => exact (inOrder_rowid.mp hab).antisymm (inOrder_rowid.mp hba)
  | some key =>
    obtain ⟨hkey, hnumber⟩ := inOrder_member.mp hab
    obtain ⟨hkey', hnumber'⟩ := inOrder_member.mp hba
    exact (hnumber hkey').antisymm (hnumber' hkey)

section Columns

variable {c : Column} {text : Entry → String} (hc : ∀ e, c.value e = .text (text e))

include hc

theorem pairwise_texts (h : rows.Pairwise (InOrder [.column c])) :
    (rows.map fun x => text x.1).Pairwise (· ≤ ·) :=
  List.pairwise_map.mpr (h.imp fun h => (inOrder_column (hc _) (hc _)).mp h)

theorem exists_inOrder_column (found : List NumberedRow) :
    ∃ rows : List NumberedRow, rows.Perm found ∧ rows.Pairwise (InOrder [.column c]) := by
  refine ⟨found.mergeSort fun a b => decide (text a.1 ≤ text b.1), List.mergeSort_perm _ _, ?_⟩
  refine (List.pairwise_mergeSort (fun a b c hab hbc => ?_) (fun a b => ?_) found).imp fun h =>
    (inOrder_column (hc _) (hc _)).mpr (of_decide_eq_true h)
  · exact decide_eq_true ((of_decide_eq_true hab).trans (of_decide_eq_true hbc))
  · rw [Bool.or_eq_true, decide_eq_true_eq, decide_eq_true_eq]
    exact le_total _ _

theorem texts_eq_ascending (keep : Entry → Bool)
    (hperm : rows.Perm (es.zipIdx.filter fun x => keep x.1))
    (hord : rows.Pairwise (InOrder [.column c])) :
    (rows.map fun x => text x.1) = Entries.ascending ((es.filter keep).map text) := by
  have htexts := hperm.map fun x => text x.1
  have hfound : ((es.zipIdx.filter fun x => keep x.1).map fun x => text x.1) =
      (es.filter keep).map text := by
    rw [← map_filter_zipIdx, List.map_map]
    rfl
  rw [hfound] at htexts
  exact List.Perm.eq_of_pairwise (fun _ _ _ _ => le_antisymm) (pairwise_texts hc hord)
    (Entries.pairwise_ascending _) (htexts.trans (List.mergeSort_perm _ _).symm)

end Columns

/-- The sentence gives one cursor if all lists of its rows that are in order say the same. -/
theorem gives_select {r : Results} {table : String} {w : Where} {order : List OrderTerm}
    {bounds : Bounds} {told cut : List SqlRow} {keep : Entry → Bool} (hleaves : w.Leaves ps rest)
    (hkeep : ∀ e, w.selects ps e = keep e)
    (hexists : ∃ rows : List NumberedRow, rows.Perm (es.zipIdx.filter fun x => keep x.1) ∧
      rows.Pairwise (InOrder order))
    (hrows : ∀ rows : List NumberedRow, rows.Perm (es.zipIdx.filter fun x => keep x.1) →
      rows.Pairwise (InOrder order) → r.rows (rows.map (·.1)) = told)
    (hcut : bounds.cut told rest = some cut) :
    (Sentence.select r table w order bounds).Gives ps es out ↔ out = (.ofRows cut, es) := by
  simp only [Sentence.Gives, hkeep]
  constructor
  · rintro ⟨rest', rows, cut', hleaves', hperm, hord, hcut', rfl⟩
    rw [hleaves.unique hleaves', hrows rows hperm hord, hcut] at hcut'
    rw [Option.some.inj hcut']
  · rintro rfl
    obtain ⟨rows, hperm, hord⟩ := hexists
    exact ⟨rest, rows, cut, hleaves, hperm, hord, by rw [hrows rows hperm hord, hcut], rfl⟩

theorem gives_delete {table : String} {w : Where} {keep : Entry → Bool} (hleaves : w.Leaves ps [])
    (hkeep : ∀ e, w.selects ps e = keep e) :
    (Sentence.delete table w).Gives ps es out ↔
      out = (.written (es.countP keep), es.filter fun e => !keep e) := by
  have hsame : w.selects ps = keep := funext hkeep
  rw [Sentence.Gives, hsame]
  exact and_iff_right hleaves

theorem upserted_eq_put (collection id : String) (data : Json) (now : Int64) (es : Entries) :
    upserted [.collection, .id] [.data, .updatedAt] ⟨collection, id, data, now, now⟩ es =
      es.put collection id data now := by
  induction es with
  | nil => rfl
  | cons e rest ih =>
    have hkey : ([Column.collection, .id].all fun c =>
        decide (c.value e = c.value ⟨collection, id, data, now, now⟩)) =
          Entries.isAt collection id e := by
      simp [Column.value, Entries.isAt]
    rw [upserted, Entries.put, hkey, ih]
    rfl

end Sql

open Sql

def Predicate.Compiled (p : Predicate) : Prop := ∃ filter : Filter, filter.compile = .ok p

def Tail.Chosen (t : Tail) : Prop := ∃ options : QueryOptions, options.tail = .ok t

theorem Predicate.Compiled.eval {p : Predicate} (h : p.Compiled) (doc : Json)
    (rest : List SqlValue) :
    ((Sql.formula p.condition).eval doc (p.params ++ rest)).2 = rest ∧
      ((Sql.formula p.condition).eval doc (p.params ++ rest)).1.isTrue = p.selects doc := by
  obtain ⟨filter, hp⟩ := h
  have hfields : ∀ name ∈ filter.fields, Field.isPath name = true := fun name hname =>
    Field.isPath_iff_isDotted.mpr (Filter.compiles_iff.mp ⟨p, hp⟩ name hname)
  obtain ⟨q, hq, hd⟩ := Filter.compile_decides filter hfields
  obtain rfl := Except.ok.inj (hp.symm.trans hq)
  obtain ⟨t, ht, htrue⟩ := hd doc rest
  obtain ⟨u, hu, hutrue⟩ := hd doc []
  rw [List.append_nil] at hu
  rw [eval_formula p.condition (Filter.compile_readable filter hp), ht, Predicate.selects,
    Condition.selects, hu]
  exact ⟨rfl, htrue.trans hutrue.symm⟩

namespace Tail

variable {t : Tail}

theorem clamped_nonneg (n : UInt64) : ¬ QueryOptions.clamped n < 0 := by
  rw [Int64.lt_iff_toInt_lt, QueryOptions.clamped]
  split
  · next h =>
    rw [Int64.toInt_ofNat_of_lt h]
    exact not_lt.mpr (Int.natCast_nonneg _)
  · decide

theorem limit_nonneg (h : t.Chosen) {page : Page} (hpage : t.page = some page) :
    ¬ page.limit < 0 := by
  obtain ⟨options, hoptions⟩ := h
  have ht : t.page = options.page := by
    unfold QueryOptions.tail at hoptions
    split at hoptions
    · cases hoptions
    · split at hoptions
      · obtain ⟨key, -, rfl⟩ := Filter.ok_of_map hoptions
        rfl
      · cases hoptions
        rfl
  obtain ⟨limit, -, rfl⟩ := Option.map_eq_some_iff.mp (ht.symm.trans hpage)
  exact clamped_nonneg limit

theorem cut_bounds (h : t.Chosen) {α : Type} (rows : List α) :
    t.bounds.cut rows t.params = some ((t.page.map fun page => page.cut rows).getD rows) := by
  obtain ⟨sort, page⟩ := t
  cases page with
  | none => rfl
  | some page =>
    have hlimit := limit_nonneg h rfl
    obtain ⟨limit, _ | offset⟩ := page
    · exact congrArg some (if_neg hlimit)
    · exact congrArg some (if_neg hlimit)

end Tail

namespace Statement

variable {table collection id : String} {p : Predicate} {t : Tail} {es : Entries} {e : Entry}
  {out : Cursor × Entries}

/-- What is put can be read again, and what is selected was asked for by a filter and by options. -/
def Issued : Statement → Prop
  | .put _ _ data _ => data.WellFormed
  | .find _ p t => p.Compiled ∧ t.Chosen
  | .count _ p => p.Compiled
  | .removeWhere _ p => p.Compiled
  | _ => True

theorem Issued.readable {s : Statement} (h : s.Issued) : s.Readable := by
  have hp {p : Predicate} (h : p.Compiled) : Sql.Readable p.condition := by
    obtain ⟨filter, hfilter⟩ := h
    exact Filter.compile_readable filter hfilter
  cases s with
  | find collection p t => exact hp h.1
  | count collection p => exact hp h
  | removeWhere collection p => exact hp h
  | _ => trivial

theorem leaves_atKey (collection id : String) : atKey.Leaves [.text collection, .text id] [] := by
  intro e
  rw [atKey, eval_cons rfl, eval_cons rfl]
  rfl

theorem selects_atKey (collection id : String) (e : Entry) :
    atKey.selects [.text collection, .text id] e = Entries.isAt collection id e := by
  rw [Where.selects, atKey, eval_cons rfl, eval_cons rfl, Truth.isTrue_and, Truth.isTrue_and]
  simp [Truth.isTrue, Where.eval, Formula.eval, Entries.isAt]

theorem leaves_chosen (hp : p.Compiled) (collection : String) (rest : List SqlValue) :
    (chosen p).Leaves (.text collection :: (p.params ++ rest)) rest := by
  intro e
  rw [chosen, eval_cons rfl]
  exact (hp.eval e.data rest).1

theorem selects_chosen (hp : p.Compiled) (collection : String) (rest : List SqlValue) (e : Entry) :
    (chosen p).selects (.text collection :: (p.params ++ rest)) e =
      Entries.isSelected collection p e := by
  rw [Where.selects, chosen, eval_cons rfl, Truth.isTrue_and, Where.eval, (hp.eval e.data rest).2]
  simp [Truth.isTrue, Entries.isSelected]

theorem filter_isAt (hd : es.Distinct) :
    es.filter (Entries.isAt collection id) = (es.fetch collection id).toList := by
  induction es with
  | nil => rfl
  | cons e rest ih =>
    obtain ⟨hother, hrest⟩ := List.pairwise_cons.mp hd
    by_cases hat : Entries.isAt collection id e = true
    · have hnone : rest.filter (Entries.isAt collection id) = [] := by
        refine List.filter_eq_nil_iff.mpr fun x hx hxat => hother x hx ?_
        obtain ⟨hname, hid⟩ := Entries.isAt_iff.mp hat
        obtain ⟨hxname, hxid⟩ := Entries.isAt_iff.mp hxat
        exact ⟨hname.trans hxname.symm, hid.trans hxid.symm⟩
      rw [List.filter_cons_of_pos hat, hnone, Entries.fetch, List.find?_cons_of_pos hat]
      rfl
    · rw [List.filter_cons_of_neg hat, ih hrest, Entries.fetch, Entries.fetch,
        List.find?_cons_of_neg hat]

theorem rows_atKey (hd : es.Distinct) {rows : List NumberedRow}
    (hrows : rows.Perm (es.zipIdx.filter fun x => Entries.isAt collection id x.1)) :
    rows.map (·.1) = (es.fetch collection id).toList := by
  have hperm := hrows.map (·.1)
  rw [map_filter_zipIdx, filter_isAt hd] at hperm
  cases hfetch : es.fetch collection id with
  | none =>
    rw [hfetch] at hperm
    exact hperm.eq_nil
  | some e =>
    rw [hfetch] at hperm
    exact List.perm_singleton.mp hperm

theorem pairwise_inOrder_nil (rows : List NumberedRow) : rows.Pairwise (InOrder []) :=
  List.pairwise_of_forall fun _ _ => nofun

theorem gives_put {data : Json} {now : Int64} (hdata : data.WellFormed) :
    ((put collection id data now).sentence table).Gives (put collection id data now).params es out ↔
      out = (put collection id data now).run es := by
  have hrun : (put collection id data now).run es = (.written 1,
      upserted [.collection, .id] [.data, .updatedAt] ⟨collection, id, data, now, now⟩ es) :=
    congrArg (Prod.mk _) (upserted_eq_put collection id data now es).symm
  rw [hrun]
  constructor
  · rintro ⟨new, hnew, hvalues, rfl⟩
    obtain ⟨c, i, d, first, last⟩ := new
    simp only [params, Column.value, List.map_cons, List.map_nil, List.cons.injEq,
      SqlValue.text.injEq, SqlValue.integer.injEq, and_true] at hvalues
    obtain ⟨rfl, rfl, hcompact, rfl, rfl⟩ := hvalues
    obtain rfl := Json.compact_injective hnew hdata hcompact
    rfl
  · rintro rfl
    exact ⟨⟨collection, id, data, now, now⟩, hdata, rfl, rfl⟩

theorem gives_remove :
    ((remove collection id).sentence table).Gives (remove collection id).params es out ↔
      out = (remove collection id).run es := by
  have hcount : es.countP (Entries.isAt collection id) =
      es.length - (es.remove collection id).length := by
    have hlength := List.length_eq_countP_add_countP (Entries.isAt collection id) (l := es)
    have hkept : (es.remove collection id).length =
        es.countP (fun e => ¬ Entries.isAt collection id e = true) := by
      simp only [Entries.remove, ← List.countP_eq_length_filter, Bool.not_eq_true, Bool.decide_eq_false]
    omega
  refine (gives_delete (leaves_atKey collection id) (selects_atKey collection id)).trans ?_
  rw [hcount]
  rfl

theorem gives_removeWhere (hp : p.Compiled) :
    ((removeWhere collection p).sentence table).Gives (removeWhere collection p).params es out ↔
      out = (removeWhere collection p).run es := by
  have hparams : (removeWhere collection p).params = .text collection :: (p.params ++ []) := by
    rw [List.append_nil]
    rfl
  rw [hparams]
  refine (gives_delete (leaves_chosen hp collection []) (selects_chosen hp collection [])).trans ?_
  rw [List.countP_eq_length_filter]
  rfl

theorem gives_find (hp : p.Compiled) (ht : t.Chosen) :
    ((find collection p t).sentence table).Gives (find collection p t).params es out ↔
      out = (find collection p t).run es := by
  have hnumbers := pairwise_numbers (Entries.isSelected collection p) es
  obtain ⟨rows, hperm, hord, hsorted⟩ := sorted_of_terms t hnumbers
  rw [map_filter_zipIdx] at hsorted
  have hcut : t.bounds.cut ((Entries.sorted t.sort (es.select collection p)).map Cursor.documentRow)
      t.params = some ((es.find collection p t).map Cursor.documentRow) := by
    rw [Tail.cut_bounds ht, Entries.find]
    cases t.page with
    | none => rfl
    | some page =>
      refine congrArg some ?_
      rw [Option.map_some, Option.getD_some, Entries.paged, Page.cut, Page.cut, List.map_take,
        List.map_drop]
  refine gives_select (leaves_chosen hp collection t.params) (selects_chosen hp collection t.params)
    ⟨rows, hperm, hord⟩ (fun rows' hperm' hord' => ?_) hcut
  rw [eq_of_terms t hnumbers hperm' hord' hperm hord, hsorted]
  rfl

theorem gives_count (hp : p.Compiled) :
    ((count collection p).sentence table).Gives (count collection p).params es out ↔
      out = (count collection p).run es := by
  have hparams : (count collection p).params = .text collection :: (p.params ++ []) := by
    rw [List.append_nil]
    rfl
  rw [hparams]
  refine gives_select (leaves_chosen hp collection []) (selects_chosen hp collection [])
    ⟨_, .refl _, pairwise_inOrder_nil _⟩ (fun rows hrows _ => ?_) rfl
  have hlength : (rows.map (·.1)).length = (es.select collection p).length := by
    rw [(hrows.map (·.1)).length_eq, map_filter_zipIdx]
    rfl
  rw [Results.rows, hlength]

theorem gives_keys : ((keys collection).sentence table).Gives (keys collection).params es out ↔
      out = (keys collection).run es := by
  have hid (e : Entry) : Column.value e .id = .text e.id := rfl
  have hleaves : Where.Leaves ⟨[.collection], .bit true⟩ [.text collection] [] := by
    intro e
    rw [eval_cons rfl]
    rfl
  have hkeep (e : Entry) : Where.selects ⟨[.collection], .bit true⟩ [.text collection] e =
      decide (e.collection = collection) := by
    rw [Where.selects, eval_cons rfl, Truth.isTrue_and]
    simp [Truth.isTrue, Where.eval, Formula.eval]
  refine gives_select hleaves hkeep (exists_inOrder_column hid _) (fun rows hrows hord => ?_) rfl
  have hnames := texts_eq_ascending hid (fun e => decide (e.collection = collection)) hrows hord
  calc Results.rows (rows.map (·.1)) (.columns false [.id])
    _ = (rows.map (·.1.id)).map fun s => ⟨["id"], [.text s]⟩ := by
      rw [List.map_map]
      exact List.map_map
    _ = (es.keys collection).map fun s => ⟨["id"], [.text s]⟩ := by
      rw [hnames]
      rfl

theorem gives_collections : (collections.sentence table).Gives collections.params es out ↔
      out = collections.run es := by
  have hname (e : Entry) : Column.value e .collection = .text e.collection := rfl
  have hleaves : Where.Leaves ⟨[], .bit true⟩ [] [] := fun _ => rfl
  have hkeep (e : Entry) : Where.selects ⟨[], .bit true⟩ [] e = true := rfl
  refine gives_select hleaves hkeep (exists_inOrder_column hname _) (fun rows hrows hord => ?_) rfl
  have hnames := texts_eq_ascending hname (fun _ => true) hrows hord
  rw [List.filter_true] at hnames
  calc Results.rows (rows.map (·.1)) (.columns true [.collection])
    _ = ((rows.map (·.1.collection)).map fun s => (⟨["collection"], [.text s]⟩ : SqlRow)).dedup := by
      rw [List.map_map]
      exact congrArg List.dedup List.map_map
    _ = (rows.map (·.1.collection)).dedup.map fun s => ⟨["collection"], [.text s]⟩ :=
      List.dedup_map_of_injective (fun s t h => by simpa using h) _
    _ = es.collections.map fun s => ⟨["collection"], [.text s]⟩ := by
      rw [hnames, Entries.dedup_of_ascending (Entries.pairwise_ascending _)]
      rfl

/-- The text of a statement says what running the statement does. -/
theorem text_says_run {s : Statement} (htable : IsColumn table) (hs : s.Issued) :
    ∃ x, Sentence.ofText? (s.text table) = some x ∧ x.table = table ∧
      ∀ es : Entries, es.Distinct → ∀ out, x.Gives s.params es out ↔ out = s.run es := by
  refine ⟨s.sentence table, ofText?_text htable hs.readable, by cases s <;> rfl, fun es hd out => ?_⟩
  cases s with
  | put collection id data now => exact gives_put hs
  | fetch collection id =>
    refine gives_select (leaves_atKey collection id) (selects_atKey collection id)
      ⟨_, .refl _, pairwise_inOrder_nil _⟩ (fun rows hrows _ => ?_) rfl
    rw [rows_atKey hd hrows]
    rfl
  | present collection id =>
    refine gives_select (leaves_atKey collection id) (selects_atKey collection id)
      ⟨_, .refl _, pairwise_inOrder_nil _⟩ (fun rows hrows _ => ?_) rfl
    rw [rows_atKey hd hrows]
    rfl
  | remove collection id => exact gives_remove
  | find collection p t => exact gives_find hs.1 hs.2
  | count collection p => exact gives_count hs
  | removeWhere collection p => exact gives_removeWhere hs
  | keys collection => exact gives_keys
  | collections => exact gives_collections

example : IsColumn Config.initial.tableName := ⟨rfl, List.cons_ne_nil _ _, rfl⟩

end Statement

end DocumentGraph
