import DocumentGraph.CommandLine.Run
import DocumentGraph.Proofs.Store.Reading
import DocumentGraph.Proofs.Store.Refinement
import DocumentGraph.Proofs.Text.Bytes
import Mathlib.Algebra.BigOperators.Group.List.Lemmas
set_option autoImplicit false

namespace DocumentGraph

namespace Entries

variable {names : List String} {name : String} {es : Entries}

theorem mem_withoutRepeats : name ∈ withoutRepeats names ↔ name ∈ names := by
  induction names with
  | nil => rfl
  | cons s rest ih =>
    cases rest with
    | nil => rfl
    | cons t rest =>
      rw [withoutRepeats]
      split
      · next heq =>
        subst heq
        rw [ih]
        simp
      · rw [List.mem_cons, ih, List.mem_cons (b := s)]

theorem pairwise_withoutRepeats (h : names.Pairwise (· ≤ ·)) :
    (withoutRepeats names).Pairwise (· < ·) := by
  induction names with
  | nil => exact .nil
  | cons s rest ih =>
    cases rest with
    | nil => exact List.pairwise_singleton _ _
    | cons t rest =>
      obtain ⟨hs, hrest⟩ := List.pairwise_cons.mp h
      rw [withoutRepeats]
      split
      · exact ih hrest
      · next hne =>
        refine List.pairwise_cons.mpr ⟨fun u hu => ?_, ih hrest⟩
        have hst : s < t := lt_of_le_of_ne (hs t List.mem_cons_self) hne
        rcases List.mem_cons.mp (mem_withoutRepeats.mp hu) with rfl | hu
        · exact hst
        · exact hst.trans_le ((List.pairwise_cons.mp hrest).1 u hu)

theorem dedup_of_ascending (h : names.Pairwise (· ≤ ·)) : names.dedup = withoutRepeats names := by
  have hrepeats := pairwise_withoutRepeats h
  have hperm : names.dedup.Perm (withoutRepeats names) :=
    (List.perm_ext_iff_of_nodup (List.nodup_dedup _) (hrepeats.imp fun h => h.ne)).mpr fun name =>
      List.mem_dedup.trans mem_withoutRepeats.symm
  exact List.Perm.eq_of_pairwise (fun _ _ _ _ => le_antisymm) (h.sublist (List.dedup_sublist _))
    (hrepeats.imp fun h => h.le) hperm

theorem mem_collections : name ∈ es.collections ↔ ∃ e ∈ es, e.collection = name := by
  rw [collections, mem_withoutRepeats, mem_ascending, List.mem_map]

theorem pairwise_collections (es : Entries) : es.collections.Pairwise (· < ·) :=
  pairwise_withoutRepeats (pairwise_ascending _)

theorem length_rows (name : String) (es : Entries) :
    (es.rows name).length = (es.map (·.collection)).count name := by
  rw [rows, List.count, List.countP_map, List.countP_eq_length_filter]
  exact congrArg List.length (List.filter_congr fun e _ => (beq_eq_decide e.collection name).symm)

theorem length_rows_pos : 0 < (es.rows name).length ↔ name ∈ es.collections := by
  rw [length_rows, List.count_pos_iff, mem_collections, List.mem_map]

theorem sum_length_rows (es : Entries) :
    (es.collections.map fun name => (es.rows name).length).sum = es.length := by
  have hperm : es.collections.Perm (es.map (·.collection)).dedup := by
    refine (List.perm_ext_iff_of_nodup ?_ (List.nodup_dedup _)).mpr fun name => ?_
    · exact (pairwise_collections es).imp fun h => h.ne
    · rw [mem_collections, List.mem_dedup, List.mem_map]
  calc (es.collections.map fun name => (es.rows name).length).sum
    _ = (es.collections.map fun name => (es.map (·.collection)).count name).sum := by
      simp only [length_rows]
    _ = ((es.map (·.collection)).dedup.map fun name => (es.map (·.collection)).count name).sum :=
      (hperm.map _).sum_eq
    _ = es.length := by rw [List.sum_map_count_dedup_eq_length, List.length_map]

theorem length_rows_le (name : String) (es : Entries) : (es.rows name).length ≤ es.length :=
  List.length_filter_le _ _

def inventory (es : Entries) : List (String × Nat) :=
  es.collections.map fun name => (name, (es.rows name).length)

theorem lookup_inventory (name : String) (es : Entries) :
    (es.inventory.lookup name).getD 0 = (es.rows name).length := by
  have hlookup (names : List String) :
      (names.map fun name => (name, (es.rows name).length)).lookup name =
        if name ∈ names then some (es.rows name).length else none := by
    induction names with
    | nil => rfl
    | cons n rest ih =>
      rw [List.map_cons, List.lookup_cons, ih]
      by_cases h : name = n
      · simp [h]
      · simp [h, beq_eq_false_iff_ne.mpr h]
  rw [inventory, hlookup]
  split
  · rfl
  · next hnot => exact (Nat.eq_zero_of_not_pos (mt length_rows_pos.mp hnot)).symm

end Entries

namespace Store

variable {s : Store}

theorem collections_yields (s : Store) : Yields collections s (.ok s.entries.collections) s.entries := by
  have hnames : (Statement.collections.run s.entries).1.rows.filterMap (·.text? "collection") =
      s.entries.collections := by
    simp only [Statement.run, Cursor.ofTexts, Cursor.ofRows, List.filterMap_map]
    exact List.filterMap_some
  have hyields := (exec_yields .collections s).map fun cursor =>
    cursor.rows.filterMap (·.text? "collection")
  rwa [Except.map, hnames] at hyields

theorem countAll_yields (c : Collection) (hlt : s.entries.length < 2 ^ 63) :
    Yields (c.countWhere .all) s (.ok (s.entries.rows c.name).length) s.entries := by
  obtain ⟨p, hp, hsel⟩ := Filter.compile_of_valid CollectionCall.validated_all
  have hall : c.chosen .all s.entries = s.entries.rows c.name :=
    List.filter_eq_self.mpr fun e _ => Filter.holds_all e.data
  have hyields := c.countWhere_yields s .all
  rwa [hp, Except.map, c.select_eq_chosen hsel, hall,
    CollectionCall.counted_of_lt ((Entries.length_rows_le _ _).trans_lt hlt)] at hyields

open CommandLine in
theorem collectionCounts_ends (hready : s.Ready) (hlt : s.entries.length < 2 ^ 63)
    (names : List String) : Ends (collectionCounts names) s
      (.ok (names.map fun name => (name, (s.entries.rows name).length))) s.entries := by
  induction names generalizing s with
  | nil => exact ends_pure _ s
  | cons name rest ih =>
    refine ((countAll_yields ⟨name⟩ hlt).of_ready hready).bind fun t hk ht => ?_
    have hrest := ih (hk.ready hready) (ht ▸ hlt)
    rw [ht] at hrest
    refine hrest.bind fun u _ hu => ?_
    rw [← hu]
    exact ends_pure _ u

end Store

end DocumentGraph
