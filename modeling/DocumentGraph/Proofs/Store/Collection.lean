import DocumentGraph.Proofs.Store.Operation
set_option autoImplicit false

/-!
# What the operations of a collection do

Each operation of a collection checks its arguments, executes one statement and decodes what it
gave. Rejected arguments leave the store as it is.
-/

namespace DocumentGraph

def writable (id : String) (doc : Json) : Except StoreError Unit := do
  validId id
  validDocument doc

theorem validId_eq_ok {id : String} : validId id = .ok () ↔ id ≠ "" := by
  unfold validId
  split <;> simp_all

theorem validDocument_eq_ok {doc : Json} : validDocument doc = .ok () ↔ doc.isObject = true := by
  unfold validDocument
  split <;> simp_all

theorem writable_eq_ok {id : String} {doc : Json} :
    writable id doc = .ok () ↔ validId id = .ok () ∧ validDocument doc = .ok () := by
  unfold writable
  cases validId id <;> simp [bind, Except.bind]

namespace Entries

variable {collection id : String} {es : Entries} {e : Entry}

theorem mem_sorted_iff {key : Option SortKey} : e ∈ es.sorted key ↔ e ∈ es := by
  cases key with
  | none => exact Iff.rfl
  | some k => exact (List.mergeSort_perm _ _).mem_iff

theorem length_sorted (key : Option SortKey) (es : Entries) : (es.sorted key).length = es.length := by
  cases key with
  | none => rfl
  | some k => exact List.length_mergeSort _

theorem mem_of_mem_paged {page : Option Page} (h : e ∈ es.paged page) : e ∈ es := by
  cases page with
  | none => exact h
  | some p => exact List.mem_of_mem_drop (List.mem_of_mem_take h)

theorem mem_select_of_find {p : Predicate} {t : Tail} (h : e ∈ es.find collection p t) :
    e ∈ es.select collection p :=
  mem_sorted_iff.mp (mem_of_mem_paged h)

theorem mem_ascending {name : String} {names : List String} :
    name ∈ ascending names ↔ name ∈ names :=
  (List.mergeSort_perm _ _).mem_iff

theorem pairwise_ascending (names : List String) : (ascending names).Pairwise (· ≤ ·) := by
  have hsorted : (ascending names).Pairwise fun s t => decide (s ≤ t) = true := by
    refine List.pairwise_mergeSort (fun a b c hab hbc => ?_) (fun a b => ?_) _
    · rw [decide_eq_true_eq] at hab hbc ⊢
      exact String.le_trans hab hbc
    · rw [Bool.or_eq_true, decide_eq_true_eq, decide_eq_true_eq]
      exact String.le_total a b
  exact hsorted.imp fun h => decide_eq_true_eq.mp h

theorem length_remove_lt_iff :
    0 < es.length - (es.remove collection id).length ↔ (es.fetch collection id).isSome := by
  have hle := List.length_filter_le (fun e => !isAt collection id e) es
  have hlt := List.length_filter_lt_length_iff_exists (p := fun e => !isAt collection id e) (l := es)
  rw [fetch, List.find?_isSome]
  change 0 < es.length - (es.filter fun e => !isAt collection id e).length ↔ _
  simp only [Bool.not_eq_true', Bool.not_eq_false] at hlt
  rw [← hlt]
  omega

end Entries

namespace Collection

open Store

variable (c : Collection) (s : Store) {id : String} {doc : Json} {e : StoreError}

theorem put_rejected (h : writable id doc = .error e) : c.put id doc s = (.error e, s) := by
  unfold writable at h
  cases hid : validId id with
  | error d =>
    rw [hid] at h
    cases h
    exact Operation.bind_of_error (by rw [check, hid])
  | ok u =>
    rw [hid] at h
    have hdoc : validDocument doc = .error e := h
    have h₁ : check (validId id) s = (.ok u, s) := by rw [check, hid]
    refine (Operation.bind_of_ok h₁).trans ?_
    exact Operation.bind_of_error (by rw [check, hdoc])

theorem put_yields (h : writable id doc = .ok ()) :
    Yields (c.put id doc) s (.ok ()) (s.entries.put c.name id doc s.clock.now) := by
  obtain ⟨hid, hdoc⟩ := writable_eq_ok.mp h
  have h₁ : check (validId id) s = (.ok (), s) := by rw [check, hid]
  have h₂ : check (validDocument doc) s = (.ok (), s) := by rw [check, hdoc]
  have hput : c.put id doc s = (readClock >>= fun now =>
      observed (.put c.name id doc now) >>= fun _ => record Metrics.recordWrite) s :=
    (Operation.bind_of_ok h₁).trans (Operation.bind_of_ok h₂)
  refine Yields.congr ?_ hput
  refine (ends_readClock s).bind_yields fun t _ ht => ?_
  refine (observed_yields _ t).bind fun u _ hu => ?_
  rw [← ht]
  change u.entries = t.entries.put c.name id doc s.clock.now at hu
  rw [← hu]
  exact ends_record _ u

theorem put_of_ok {t : Store} {u : Unit} (h : c.put id doc s = (.ok u, t)) :
    s.Keeps t ∧ t.entries = s.entries.put c.name id doc s.clock.now := by
  cases hw : writable id doc with
  | error e =>
    rw [c.put_rejected s hw] at h
    cases h
  | ok v => exact ((c.put_yields s hw).of_ok h).2

/-- The document that lies under an id, as it is read. -/
def fetched (id : String) (es : Entries) : Except StoreError (Option Document) :=
  match es.fetch c.name id with
  | none => .ok none
  | some e => do
    let doc ← c.decode (Cursor.documentRow e)
    .ok (some doc)

theorem getDocument_yields (id : String) :
    Yields (c.getDocument id) s (c.fetched id s.entries) s.entries := by
  refine (observed_yields (.fetch c.name id) s).bind fun t _ ht => ?_
  change t.entries = s.entries at ht
  rw [fetched, ← ht]
  cases hf : t.entries.fetch c.name id with
  | none =>
    simp only [Statement.run, hf]
    exact (ends_record _ t).bind fun u _ hu => hu ▸ ends_pure _ u
  | some e =>
    simp only [Statement.run, hf]
    refine (ends_check _ t).bind_except fun doc u _ hu => ?_
    rw [← hu]
    exact (ends_record _ u).bind fun v _ hv => hv ▸ ends_pure _ v

theorem get_yields (id : String) :
    Yields (c.get id) s ((c.fetched id s.entries).map fun d => d.map (·.data)) s.entries :=
  (c.getDocument_yields s id).map _

theorem has_yields (id : String) :
    Yields (c.has id) s (.ok (s.entries.fetch c.name id).isSome) s.entries := by
  refine (observed_yields (.present c.name id) s).bind fun t _ ht => ?_
  change t.entries = s.entries at ht
  rw [← ht]
  have hfound : decide (0 < ((Statement.present c.name id).run t.entries).1.rowsRead) =
      (t.entries.fetch c.name id).isSome := by
    cases hf : t.entries.fetch c.name id <;> simp [Statement.run, hf, Cursor.rowsRead_ofRows]
  rw [hfound]
  exact (ends_record _ t).bind fun u _ hu => hu ▸ ends_pure _ u

theorem delete_yields (id : String) :
    Yields (c.delete id) s (.ok (s.entries.fetch c.name id).isSome)
      (s.entries.remove c.name id) := by
  refine (observed_yields (.remove c.name id) s).bind fun t _ ht => ?_
  change t.entries = s.entries.remove c.name id at ht
  rw [← ht]
  refine (ends_record _ t).bind fun u _ hu => ?_
  have hfound : decide (0 < ((Statement.remove c.name id).run s.entries).1.rowsWritten) =
      (s.entries.fetch c.name id).isSome := by
    rw [Statement.run, Cursor.rowsWritten_written, Bool.eq_iff_iff, decide_eq_true_iff]
    exact Entries.length_remove_lt_iff
  rw [hfound, ← hu]
  exact ends_pure _ u

/-- The documents that a filter selects, as they are read. -/
def selected (filter : Filter) (options : QueryOptions) (es : Entries) :
    Except StoreError (List Document) := do
  let p ← filter.compile
  let t ← options.tail
  c.decodeAll ((es.find c.name p t).map Cursor.documentRow)

theorem findDocuments_yields (filter : Filter) (options : QueryOptions) :
    Yields (c.findDocuments filter options) s (c.selected filter options s.entries) s.entries := by
  refine check_yields fun p _ => check_yields fun tail _ => ?_
  refine (observed_yields (.find c.name p tail) s).bind fun t _ ht => ?_
  change t.entries = s.entries at ht
  rw [← ht]
  have h : Ends (check (c.decodeAll ((t.entries.find c.name p tail).map Cursor.documentRow)) >>=
      fun docs => do
        record (Metrics.recordQuery docs.length)
        return docs) t
      (c.decodeAll ((t.entries.find c.name p tail).map Cursor.documentRow) >>= pure) t.entries := by
    refine (ends_check _ t).bind_except fun docs u _ hu => ?_
    rw [← hu]
    exact (ends_record _ u).bind fun v _ hv => hv ▸ ends_pure _ v
  rwa [bind_pure] at h

theorem findWhere_yields (filter : Filter) (options : QueryOptions) :
    Yields (c.findWhere filter options) s
      ((c.selected filter options s.entries).map fun ds => ds.map (·.data)) s.entries :=
  (c.findDocuments_yields s filter options).map _

theorem findWhere_of_badFilter {filter : Filter} (h : filter.compile = .error e)
    (options : QueryOptions) : c.findWhere filter options s = (.error e, s) :=
  Operation.bind_of_error (Operation.bind_of_error (by rw [check, h]))

theorem findWhere_of_badOptions {filter : Filter} {p : Predicate} {options : QueryOptions}
    (hp : filter.compile = .ok p) (h : options.tail = .error e) :
    c.findWhere filter options s = (.error e, s) := by
  have hcompiled : check filter.compile s = (.ok p, s) := by rw [check, hp]
  refine Operation.bind_of_error ((Operation.bind_of_ok hcompiled).trans ?_)
  exact Operation.bind_of_error (by rw [check, h])

/-- A number as it comes out of a column of 64-bit integers. -/
def counted (n : Nat) : Nat := (Int64.ofNat n).toInt.toNat

theorem countWhere_yields (filter : Filter) :
    Yields (c.countWhere filter) s
      (filter.compile.map fun p => counted (s.entries.select c.name p).length) s.entries := by
  refine check_yields fun p _ => ?_
  refine (observed_yields (.count c.name p) s).bind fun t _ ht => ?_
  change t.entries = s.entries at ht
  rw [← ht]
  exact (ends_record _ t).bind fun u _ hu => hu ▸ ends_pure _ u

theorem keys_yields : Yields c.keys s (.ok (s.entries.keys c.name)) s.entries := by
  refine (observed_yields (.keys c.name) s).bind fun t _ ht => ?_
  change t.entries = s.entries at ht
  rw [← ht]
  have hids : ((Statement.keys c.name).run t.entries).1.rows.filterMap (·.text? "id") =
      t.entries.keys c.name := by
    simp only [Statement.run, Cursor.ofTexts, Cursor.ofRows, List.filterMap_map]
    exact List.filterMap_some
  rw [hids]
  exact (ends_record _ t).bind fun u _ hu => hu ▸ ends_pure _ u

theorem deleteWhere_rejected {filter : Filter} (h : filter.compile = .error e) :
    c.deleteWhere filter s = (.error e, s) :=
  Operation.bind_of_error (by rw [check, h])

theorem deleteWhere_yields {filter : Filter} {p : Predicate} (h : filter.compile = .ok p) :
    Yields (c.deleteWhere filter) s (.ok (s.entries.select c.name p).length)
      (s.entries.removeWhere c.name p) := by
  have hp : check filter.compile s = (.ok p, s) := by rw [check, h]
  refine Yields.congr ?_ (Operation.bind_of_ok hp)
  refine (observed_yields (.removeWhere c.name p) s).bind fun t _ ht => ?_
  change t.entries = s.entries.removeWhere c.name p at ht
  rw [← ht]
  exact (ends_record _ t).bind fun u _ hu => hu ▸ ends_pure _ u

end Collection

end DocumentGraph
