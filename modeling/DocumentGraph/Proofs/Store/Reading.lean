import DocumentGraph.Proofs.Filter.Validation
import DocumentGraph.Proofs.Store.Legible
import DocumentGraph.Proofs.Store.Shelf
import DocumentGraph.Store.Record
set_option autoImplicit false

namespace DocumentGraph

namespace Collection

variable (c : Collection) {es : Entries}

theorem legible_of_decodeAll {docs : List Document} (hwf : ∀ e ∈ es, e.data.WellFormed)
    (h : c.decodeAll (es.map Cursor.documentRow) = .ok docs) : ∀ e ∈ es, e.data.Legible := by
  induction es generalizing docs with
  | nil =>
    intro e he
    cases he
  | cons e rest ih =>
    obtain ⟨doc, others, hd, hrest, -⟩ := c.ok_of_decodeAll h
    intro x hx
    rcases List.mem_cons.mp hx with rfl | hx
    · refine ⟨hwf x List.mem_cons_self, ?_⟩
      -- Text that nests too deep would have been an error.
      by_contra hdeep
      obtain ⟨fault, hfault⟩ :=
        Json.read_compact_of_deep (hwf x List.mem_cons_self) (Nat.lt_of_not_le hdeep)
      rw [c.decode_of_unreadable hfault] at hd
      cases hd
    · exact ih (fun y hy => hwf y (List.mem_cons_of_mem _ hy)) hrest x hx

theorem decodeAll_of_deep {before : Entries} {e : Entry} (hwf : e.data.WellFormed)
    (hbefore : ∀ b ∈ before, b.data.Legible) (hdeep : readingLimit < e.data.depth)
    (after : Entries) :
    ∃ cause, c.decodeAll ((before ++ e :: after).map Cursor.documentRow) =
      .error (.corrupted c.name e.id (.unreadable cause)) := by
  obtain ⟨cause, hcause⟩ := Json.read_compact_of_deep hwf hdeep
  refine ⟨cause, ?_⟩
  induction before with
  | nil =>
    rw [List.nil_append, List.map_cons, decodeAll, c.decode_of_unreadable hcause]
    rfl
  | cons b bs ih =>
    rw [List.cons_append, List.map_cons, decodeAll,
      c.decode_documentRow (hbefore b List.mem_cons_self),
      ih fun x hx => hbefore x (List.mem_cons_of_mem _ hx)]
    rfl

def chosen (filter : Filter) (es : Entries) : Entries :=
  (es.rows c.name).filter fun e => filter.holds e.data

theorem select_eq_chosen {filter : Filter} {p : Predicate}
    (h : ∀ doc, p.selects doc = filter.holds doc) (es : Entries) :
    es.select c.name p = c.chosen filter es := by
  rw [Entries.select, chosen, Entries.rows, List.filter_filter]
  refine List.filter_congr fun e _ => ?_
  simp [Entries.isSelected, h, Bool.and_comm]

theorem selected_of_valid {filter : Filter} {options : QueryOptions} {tail : Tail}
    (hv : filter.validated = .ok ()) (ht : options.tail = .ok tail) (es : Entries) :
    c.selected filter options es = c.decodeAll
      ((Entries.paged tail.page (Entries.sorted tail.sort (c.chosen filter es))).map
        Cursor.documentRow) := by
  obtain ⟨p, hp, hsel⟩ := Filter.compile_of_valid hv
  unfold selected
  rw [hp, ht, ← c.select_eq_chosen hsel]
  rfl

theorem selected_unrestricted {filter : Filter} (hv : filter.validated = .ok ()) (es : Entries) :
    c.selected filter .unrestricted es =
      c.decodeAll ((c.chosen filter es).map Cursor.documentRow) :=
  have ht : QueryOptions.unrestricted.tail = .ok ⟨none, none⟩ := rfl
  c.selected_of_valid hv ht es

theorem map_pair_chosen (filter : Filter) (es : Entries) :
    ((c.chosen filter es).map Entries.pair) =
      ((es.rows c.name).map Entries.pair).filter fun d => filter.holds d.2 := by
  rw [chosen, List.filter_map]
  rfl

end Collection

end DocumentGraph
