import DocumentGraph.Proofs.Filter.Meaning
import DocumentGraph.Proofs.Store.Collection
set_option autoImplicit false

/-!
# Shelves

The shelf of a collection is the list of its documents by their ids, in the order in which the ids
were first put. The entries of a table are a shelf for each name, shuffled into one list; what a
statement does to the entries it does to the shelf of its collection, and to no other.
-/

namespace DocumentGraph

abbrev Shelf := List (String × Json)

namespace Shelf

variable {id k : String} {doc d : Json} {shelf : Shelf}

def ids (shelf : Shelf) : List String := shelf.map (·.1)

def docs (shelf : Shelf) : List Json := shelf.map (·.2)

def get? (id : String) (shelf : Shelf) : Option Json := shelf.lookup id

def put (id : String) (doc : Json) (shelf : Shelf) : Shelf :=
  if id ∈ shelf.ids then shelf.map fun d => if d.1 = id then (id, doc) else d
  else shelf ++ [(id, doc)]

def remove (id : String) (shelf : Shelf) : Shelf := shelf.filter fun d => d.1 ≠ id

def matching (filter : Filter) (shelf : Shelf) : Shelf := shelf.filter fun d => filter.holds d.2

def withoutMatching (filter : Filter) (shelf : Shelf) : Shelf :=
  shelf.filter fun d => !filter.holds d.2

def sorted (key : Option SortKey) (shelf : Shelf) : Shelf :=
  match key with
  | none => shelf
  | some k => shelf.mergeSort fun a b => Tail.mayPrecede k a.2 b.2

def paged (page : Option Page) (shelf : Shelf) : Shelf :=
  match page with
  | none => shelf
  | some p => p.cut shelf

def keys (shelf : Shelf) : List String := Entries.ascending shelf.ids

theorem put_nil : put id doc [] = [(id, doc)] := rfl

theorem put_cons_self (h : id ∉ shelf.ids) : put id doc ((id, d) :: shelf) = (id, doc) :: shelf := by
  have hmem : id ∈ ids ((id, d) :: shelf) := List.mem_cons_self
  rw [put, if_pos hmem, List.map_cons, if_pos rfl]
  congr 1
  conv_rhs => rw [← List.map_id shelf]
  refine List.map_congr_left fun e he => if_neg ?_
  rintro rfl
  exact h (List.mem_map_of_mem he)

theorem put_cons_of_ne (h : k ≠ id) :
    put id doc ((k, d) :: shelf) = (k, d) :: put id doc shelf := by
  have hmem : id ∈ ids ((k, d) :: shelf) ↔ id ∈ shelf.ids := by
    rw [ids, List.map_cons, List.mem_cons]
    exact or_iff_right (Ne.symm h)
  by_cases hid : id ∈ shelf.ids
  · rw [put, if_pos (hmem.mpr hid), put, if_pos hid, List.map_cons, if_neg h]
  · rw [put, if_neg (hmem.not.mpr hid), put, if_neg hid, List.cons_append]

theorem ids_put (id : String) (doc : Json) (shelf : Shelf) :
    (put id doc shelf).ids = if id ∈ shelf.ids then shelf.ids else shelf.ids ++ [id] := by
  unfold put
  split
  · rw [ids, List.map_map]
    refine List.map_congr_left fun d _ => ?_
    rw [Function.comp_apply, apply_ite Prod.fst]
    exact ite_eq_right_iff.mpr Eq.symm
  · rw [ids, List.map_append]
    rfl

theorem nodup_put (h : shelf.ids.Nodup) (id : String) (doc : Json) :
    (put id doc shelf).ids.Nodup := by
  rw [ids_put]
  split
  · exact h
  · next hid =>
    refine List.nodup_append.mpr ⟨h, List.pairwise_singleton _ _, fun k hk k' hk' => ?_⟩
    rw [List.mem_singleton.mp hk']
    exact fun heq => hid (heq ▸ hk)

theorem mem_put {e : String × Json} (he : e ∈ put id doc shelf) : e ∈ shelf ∨ e = (id, doc) := by
  unfold put at he
  split at he
  · obtain ⟨d, hd, rfl⟩ := List.mem_map.mp he
    split
    · exact .inr rfl
    · exact .inl hd
  · exact (List.mem_append.mp he).imp_right List.mem_singleton.mp

theorem get?_of_mem {e : String × Json} (h : shelf.ids.Nodup) (he : e ∈ shelf) :
    shelf.get? e.1 = some e.2 := by
  induction shelf with
  | nil => cases he
  | cons d rest ih =>
    obtain ⟨hid, hrest⟩ := List.nodup_cons.mp h
    rw [get?, List.lookup_cons]
    rcases List.mem_cons.mp he with rfl | he
    · simp
    · have hne : (e.1 == d.1) = false := by
        rw [beq_eq_false_iff_ne]
        intro heq
        have hmem := List.mem_map_of_mem (f := Prod.fst) he
        rw [heq] at hmem
        exact hid hmem
      rw [hne]
      exact ih hrest he

end Shelf

namespace Entries

variable {name other id : String} {doc : Json} {now : Int64} {es : Entries} {e : Entry}

def pair (e : Entry) : String × Json := (e.id, e.data)

def rows (name : String) (es : Entries) : Entries := es.filter fun e => e.collection = name

def shelf (name : String) (es : Entries) : Shelf := (es.rows name).map pair

theorem mem_rows : e ∈ es.rows name ↔ e ∈ es ∧ e.collection = name := by
  simp [rows]

theorem rows_cons_self (h : e.collection = name) (es : Entries) :
    rows name (e :: es) = e :: es.rows name := by
  simp [rows, h]

theorem rows_cons_of_ne (h : e.collection ≠ name) (es : Entries) :
    rows name (e :: es) = es.rows name := by
  simp [rows, h]

theorem isAt_iff : isAt name id e = true ↔ e.collection = name ∧ e.id = id := by
  simp [isAt]

theorem rows_put_of_ne (h : name ≠ other) (id : String) (doc : Json) (now : Int64) :
    (es.put name id doc now).rows other = es.rows other := by
  induction es with
  | nil => simp [put, rows, h]
  | cons e rest ih =>
    by_cases hat : isAt name id e = true
    · have hne : e.collection ≠ other := (isAt_iff.mp hat).1 ▸ h
      rw [put, if_pos hat, rows_cons_of_ne hne, rows_cons_of_ne]
      exact hne
    · rw [put, if_neg hat]
      by_cases hname : e.collection = other
      · rw [rows_cons_self hname, rows_cons_self hname, ih]
      · rw [rows_cons_of_ne hname, rows_cons_of_ne hname, ih]

theorem rows_put_of_absent (h : ∀ e ∈ es.rows name, e.id ≠ id) (doc : Json) (now : Int64) :
    (es.put name id doc now).rows name = es.rows name ++ [⟨name, id, doc, now, now⟩] := by
  induction es with
  | nil => simp [put, rows]
  | cons e rest ih =>
    have hat : isAt name id e ≠ true := by
      rw [Ne, isAt_iff]
      rintro ⟨hn, hid⟩
      exact h e (mem_rows.mpr ⟨List.mem_cons_self, hn⟩) hid
    have hrest : ∀ x ∈ rows name rest, x.id ≠ id := fun x hx =>
      h x (mem_rows.mpr ⟨List.mem_cons_of_mem _ (mem_rows.mp hx).1, (mem_rows.mp hx).2⟩)
    rw [put, if_neg hat]
    by_cases hname : e.collection = name
    · rw [rows_cons_self hname, rows_cons_self hname, ih hrest, List.cons_append]
    · rw [rows_cons_of_ne hname, rows_cons_of_ne hname, ih hrest]

theorem rows_filter_of_ne {keep : Entry → Bool}
    (h : ∀ e ∈ es, e.collection = other → keep e = true) :
    rows other (es.filter keep) = es.rows other := by
  rw [rows, rows, List.filter_filter]
  refine List.filter_congr fun e he => ?_
  by_cases hn : e.collection = other
  · simp [hn, h e he hn]
  · simp [hn]

theorem rows_remove_of_ne (h : name ≠ other) (id : String) (es : Entries) :
    (es.remove name id).rows other = es.rows other := by
  refine rows_filter_of_ne fun e _ hn => ?_
  simp [isAt, hn, h.symm]

theorem rows_removeWhere_of_ne (h : name ≠ other) (p : Predicate) (es : Entries) :
    (es.removeWhere name p).rows other = es.rows other := by
  refine rows_filter_of_ne fun e _ hn => ?_
  simp [isSelected, hn, h.symm]

/-- No two entries have the same collection and id. -/
def Distinct (es : Entries) : Prop :=
  es.Pairwise fun a b => ¬ (a.collection = b.collection ∧ a.id = b.id)

theorem shelf_cons_self (h : e.collection = name) (es : Entries) :
    shelf name (e :: es) = (e.id, e.data) :: es.shelf name := by
  rw [shelf, rows_cons_self h, List.map_cons]
  rfl

theorem shelf_cons_of_ne (h : e.collection ≠ name) (es : Entries) :
    shelf name (e :: es) = es.shelf name := by
  rw [shelf, rows_cons_of_ne h, shelf]

theorem shelf_put_self (h : (es.shelf name).ids.Nodup) (id : String) (doc : Json) (now : Int64) :
    (es.put name id doc now).shelf name = (es.shelf name).put id doc := by
  induction es with
  | nil => simp [put, shelf, rows, pair, Shelf.put_nil]
  | cons e rest ih =>
    by_cases hname : e.collection = name
    · rw [shelf_cons_self hname] at h ⊢
      obtain ⟨hid, hrest⟩ := List.nodup_cons.mp h
      by_cases hat : isAt name id e = true
      · obtain ⟨-, rfl⟩ := isAt_iff.mp hat
        rw [put, if_pos hat, Shelf.put_cons_self hid, shelf_cons_self]
        exact hname
      · have hne : e.id ≠ id := fun heq => hat (isAt_iff.mpr ⟨hname, heq⟩)
        rw [put, if_neg hat, shelf_cons_self hname, Shelf.put_cons_of_ne hne, ih hrest]
    · have hat : ¬ isAt name id e = true := fun hat => hname (isAt_iff.mp hat).1
      rw [shelf_cons_of_ne hname] at h ⊢
      rw [put, if_neg hat, shelf_cons_of_ne hname, ih h]

theorem shelf_put_of_ne (h : name ≠ other) (id : String) (doc : Json) (now : Int64) :
    (es.put name id doc now).shelf other = es.shelf other := by
  rw [shelf, rows_put_of_ne h, shelf]

theorem mem_put {x : Entry} (hx : x ∈ es.put name id doc now) :
    x ∈ es ∨ (x.collection = name ∧ x.id = id ∧ x.data = doc) := by
  induction es with
  | nil =>
    obtain rfl := List.mem_singleton.mp hx
    exact .inr ⟨rfl, rfl, rfl⟩
  | cons e rest ih =>
    by_cases hat : isAt name id e = true
    · rw [put, if_pos hat] at hx
      rcases List.mem_cons.mp hx with rfl | hx
      · exact .inr ⟨(isAt_iff.mp hat).1, (isAt_iff.mp hat).2, rfl⟩
      · exact .inl (List.mem_cons_of_mem _ hx)
    · rw [put, if_neg hat] at hx
      rcases List.mem_cons.mp hx with rfl | hx
      · exact .inl List.mem_cons_self
      · exact (ih hx).imp_left (List.mem_cons_of_mem _)

theorem distinct_put (h : es.Distinct) (name id : String) (doc : Json) (now : Int64) :
    (es.put name id doc now).Distinct := by
  induction es with
  | nil => exact List.pairwise_singleton _ _
  | cons e rest ih =>
    obtain ⟨hrest, hd⟩ := List.pairwise_cons.mp h
    by_cases hat : isAt name id e = true
    · rw [put, if_pos hat]
      exact List.pairwise_cons.mpr ⟨hrest, hd⟩
    · rw [put, if_neg hat]
      refine List.pairwise_cons.mpr ⟨fun x hx => ?_, ih hd⟩
      rcases mem_put hx with hx | ⟨hn, hi, -⟩
      · exact hrest x hx
      · rintro ⟨hn', hi'⟩
        exact hat (isAt_iff.mpr ⟨hn'.trans hn, hi'.trans hi⟩)

theorem distinct_filter (h : es.Distinct) (keep : Entry → Bool) :
    Entries.Distinct (es.filter keep) :=
  h.filter keep

theorem shelf_filter_self {keep : Entry → Bool} {kept : String × Json → Bool}
    (h : ∀ e ∈ es, e.collection = name → keep e = kept (e.id, e.data)) :
    shelf name (es.filter keep) = (es.shelf name).filter kept := by
  rw [shelf, shelf, rows, rows, List.filter_map, List.filter_filter, List.filter_filter]
  congr 1
  refine List.filter_congr fun e he => ?_
  by_cases hn : e.collection = name
  · simp [hn, h e he hn, pair]
  · simp [hn]

theorem shelf_filter_sublist (keep : Entry → Bool) (name : String) (es : Entries) :
    (shelf name (es.filter keep)).Sublist (es.shelf name) :=
  (List.filter_sublist.filter _).map _

theorem shelf_remove_self (name id : String) (es : Entries) :
    (es.remove name id).shelf name = (es.shelf name).remove id := by
  refine shelf_filter_self fun e _ hn => ?_
  simp [isAt, hn]

theorem shelf_remove_of_ne (h : name ≠ other) (id : String) (es : Entries) :
    (es.remove name id).shelf other = es.shelf other := by
  rw [shelf, rows_remove_of_ne h, shelf]

variable {filter : Filter} {p : Predicate}

theorem shelf_removeWhere_self (h : ∀ doc, p.selects doc = filter.holds doc) (name : String)
    (es : Entries) : (es.removeWhere name p).shelf name = (es.shelf name).withoutMatching filter := by
  refine shelf_filter_self fun e _ hn => ?_
  simp [isSelected, hn, h]

theorem shelf_removeWhere_of_ne (h : name ≠ other) (p : Predicate) (es : Entries) :
    (es.removeWhere name p).shelf other = es.shelf other := by
  rw [shelf, rows_removeWhere_of_ne h, shelf]

theorem map_pair_select (h : ∀ doc, p.selects doc = filter.holds doc) (name : String)
    (es : Entries) : (es.select name p).map pair = (es.shelf name).matching filter := by
  rw [select, Shelf.matching, shelf, rows, List.filter_map, List.filter_filter]
  congr 1
  refine List.filter_congr fun e _ => ?_
  simp [isSelected, h, pair, Bool.and_comm]

theorem map_pair_sorted (key : Option SortKey) (es : Entries) :
    (es.sorted key).map pair = Shelf.sorted key (es.map pair) := by
  cases key with
  | none => rfl
  | some k => exact List.map_mergeSort fun _ _ _ _ => rfl

theorem map_pair_paged (page : Option Page) (es : Entries) :
    (es.paged page).map pair = Shelf.paged page (es.map pair) := by
  cases page with
  | none => rfl
  | some p =>
    simp only [paged, Shelf.paged, Page.cut]
    rw [List.map_take, List.map_drop]

theorem map_pair_find (h : ∀ doc, p.selects doc = filter.holds doc) (name : String) (t : Tail)
    (es : Entries) : (es.find name p t).map pair =
      Shelf.paged t.page (Shelf.sorted t.sort ((es.shelf name).matching filter)) := by
  rw [find, map_pair_paged, map_pair_sorted, map_pair_select h]

theorem mem_rows_of_find {name : String} {t : Tail} (he : e ∈ es.find name p t) :
    e ∈ es.rows name := by
  obtain ⟨hmem, hsel⟩ := List.mem_filter.mp (mem_select_of_find he)
  refine mem_rows.mpr ⟨hmem, ?_⟩
  simp only [isSelected, decide_eq_true_eq] at hsel
  exact hsel.1

theorem keys_shelf (name : String) (es : Entries) : es.keys name = (es.shelf name).keys := by
  simp [keys, Shelf.keys, Shelf.ids, shelf, rows, pair, Function.comp_def]

theorem fetch_pair (name id : String) (es : Entries) :
    (es.fetch name id).map (·.data) = (es.shelf name).get? id := by
  induction es with
  | nil => rfl
  | cons e rest ih =>
    by_cases hn : e.collection = name
    · rw [shelf_cons_self hn, Shelf.get?, List.lookup_cons, ← Shelf.get?]
      by_cases hid : e.id = id
      · have hat : isAt name id e = true := isAt_iff.mpr ⟨hn, hid⟩
        simp [fetch, hat, hid]
      · have hat : isAt name id e = false := by simp [isAt, hid]
        have hne : (id == e.id) = false := by simpa using Ne.symm hid
        rw [hne]
        simpa [fetch, hat] using ih
    · have hat : isAt name id e = false := by simp [isAt, hn]
      rw [shelf_cons_of_ne hn, ← ih]
      simp [fetch, hat]

theorem mem_shelf_of_fetch (h : (es.fetch name id).map (·.data) = some doc) :
    (id, doc) ∈ es.shelf name := by
  obtain ⟨e, he, rfl⟩ := Option.map_eq_some_iff.mp h
  have hat := isAt_iff.mp (List.find?_some he)
  rw [← hat.2]
  exact List.mem_map_of_mem (f := pair) (mem_rows.mpr ⟨List.mem_of_find?_eq_some he, hat.1⟩)

theorem fetch_rows (name id : String) (es : Entries) :
    es.fetch name id = (es.rows name).find? fun e => e.id = id := by
  rw [fetch, rows, List.find?_filter]
  congr 1
  funext e
  simp [isAt]

theorem fetch_put_of_ne {k : String} (h : k ≠ id) (name : String) (doc : Json) (now : Int64)
    (es : Entries) : (es.put name id doc now).fetch name k = es.fetch name k := by
  induction es with
  | nil =>
    have hat : isAt name k ⟨name, id, doc, now, now⟩ = false := by simp [isAt, Ne.symm h]
    simp [put, fetch, hat]
  | cons e rest ih =>
    by_cases hat : isAt name id e = true
    · have hid : e.id ≠ k := fun he => h (he.symm.trans (isAt_iff.mp hat).2)
      rw [put, if_pos hat]
      simp [fetch, isAt, hid]
    · rw [put, if_neg hat]
      rw [fetch, fetch] at ih
      simp only [fetch, List.find?_cons, ih]

theorem fetch_remove_of_ne {k : String} (h : k ≠ id) (name : String) (es : Entries) :
    (es.remove name id).fetch name k = es.fetch name k := by
  rw [fetch, fetch, remove, List.find?_filter]
  congr 1
  funext e
  by_cases hat : isAt name k e = true
  · have hid : e.id ≠ id := fun he => h ((isAt_iff.mp hat).2.symm.trans he)
    simp [isAt, hid]
  · simp [hat]

end Entries

end DocumentGraph
