import DocumentGraph.Proofs.Store.Calls
import DocumentGraph.Proofs.Store.Reading
set_option autoImplicit false

/-!
# Records filed in a collection

Entries that hold the documents of a list of records, in their order, give these records when they
are read: all of them, as they are read back, or an error about the first one that nests too deep.
-/

namespace DocumentGraph

namespace Record

variable {α : Type} [Record α]

def filed (r : α) : String × Json := (key r, document r)

/-- Documents of records that decode to what is read back, and whose keys ascend. -/
structure Readable (readBack : α → α) (list : List α) : Prop where
  decode : ∀ r ∈ list, ofDocument (document r) = .ok (readBack r)
  wellFormed : ∀ r ∈ list, (document r).WellFormed

theorem Readable.filter {readBack : α → α} {list : List α} (h : Readable readBack list)
    (keep : α → Bool) : Readable readBack (list.filter keep) :=
  ⟨fun r hr => h.decode r (List.mem_filter.mp hr).1,
    fun r hr => h.wellFormed r (List.mem_filter.mp hr).1⟩

end Record

namespace Collection

open Store

variable {α : Type} [Record α] (c : Collection)

def recordsOf (es : Entries) : Except StoreError (List α) :=
  c.decodeAll (es.map Cursor.documentRow) >>= c.decodeRecords

theorem findRecords_decodes (s : Store) (filter : Filter) (options : QueryOptions) :
    Yields (c.findRecords filter options : StoreM (List α)) s
      (c.selected filter options s.entries >>= c.decodeRecords) s.entries := by
  rcases c.findDocuments_yields s filter options with hends | ⟨hnot, d, t, ht, hk, he⟩
  · refine .inl (hends.bind_except fun docs t _ ht => ?_)
    rw [← ht]
    exact ends_check _ t
  · exact .inr ⟨hnot, d, t, Operation.bind_of_error ht, hk, he⟩

theorem findRecords_yields (s : Store) {filter : Filter} (hv : filter.validated = .ok ()) :
    Yields (c.findRecords filter .unrestricted : StoreM (List α)) s
      (c.recordsOf (c.chosen filter s.entries)) s.entries := by
  have hyields := c.findRecords_decodes (α := α) s filter .unrestricted
  rwa [c.selected_unrestricted hv] at hyields

variable {es : Entries} {list : List α} {readBack : α → α}

theorem chosen_filed (hes : (es.rows c.name).map Entries.pair = list.map Record.filed)
    {filter : Filter} {test : α → Bool}
    (htest : ∀ r : α, filter.holds (Record.document r) = test r) :
    (c.chosen filter es).map Entries.pair = (list.filter test).map Record.filed := by
  rw [map_pair_chosen, hes, List.filter_map]
  exact congrArg _ (List.filter_congr fun r _ => htest r)

theorem ok_of_decodeRecord {id : String} {data : Json} {r : α} (h : c.decodeRecord id data = .ok r) :
    Record.ofDocument data = .ok r := by
  unfold decodeRecord at h
  split at h
  · next hr =>
    cases h
    exact hr
  · cases h

theorem ok_of_decodeRecords {d : Document} {rest : List Document}
    (h : c.decodeRecords (d :: rest) = .ok list) :
    ∃ r rs, c.decodeRecord d.id d.data = .ok r ∧ c.decodeRecords rest = .ok rs ∧ list = r :: rs := by
  rw [decodeRecords] at h
  cases hr : (c.decodeRecord d.id d.data : Except StoreError α) with
  | error e =>
    rw [hr] at h
    cases h
  | ok r =>
    rw [hr] at h
    cases hrs : (c.decodeRecords rest : Except StoreError (List α)) with
    | error e =>
      rw [hrs] at h
      cases h
    | ok rs =>
      rw [hrs] at h
      cases h
      exact ⟨r, rs, rfl, rfl, rfl⟩

theorem decodeRecords_documents (hes : es.map Entries.pair = list.map Record.filed)
    (hlist : Record.Readable readBack list) :
    c.decodeRecords (es.map Entry.document) = .ok (list.map readBack) := by
  induction es generalizing list with
  | nil =>
    obtain rfl := List.map_eq_nil_iff.mp hes.symm
    rfl
  | cons e rest ih =>
    obtain ⟨r, rs, rfl, hr, hrs⟩ := List.map_eq_cons_iff.mp hes.symm
    have hdata : Record.document r = e.data := congrArg Prod.snd hr
    have he : c.decodeRecord e.document.id e.document.data = .ok (readBack r) := by
      rw [decodeRecord, Entry.document, ← hdata, hlist.decode r List.mem_cons_self]
    have hrest : Record.Readable readBack rs :=
      ⟨fun x hx => hlist.decode x (List.mem_cons_of_mem _ hx),
        fun x hx => hlist.wellFormed x (List.mem_cons_of_mem _ hx)⟩
    rw [List.map_cons, decodeRecords, he, ih hrs.symm hrest]
    rfl

theorem forall₂_of_decodeRecords (h : c.decodeRecords (es.map Entry.document) = .ok list) :
    List.Forall₂ (fun e r => Record.ofDocument e.data = .ok r) es list := by
  induction es generalizing list with
  | nil =>
    cases h
    exact .nil
  | cons e rest ih =>
    rw [List.map_cons] at h
    obtain ⟨r, rs, hr, hrs, rfl⟩ := c.ok_of_decodeRecords h
    exact .cons (c.ok_of_decodeRecord hr) (ih hrs)

theorem recordsOf_legible (hlegible : ∀ e ∈ es, e.data.Legible)
    (hlist : List.Forall₂ (fun e r => Record.ofDocument e.data = .ok r) es list) :
    c.recordsOf es = .ok list := by
  rw [recordsOf, c.decodeAll_documentRows hlegible]
  change c.decodeRecords (es.map Entry.document) = .ok list
  clear hlegible
  induction hlist with
  | nil => rfl
  | cons hr hrest ih =>
    rw [List.map_cons, decodeRecords, decodeRecord, Entry.document, hr, ih]
    rfl

theorem document_of_mem (hes : es.map Entries.pair = list.map Record.filed) {e : Entry}
    (he : e ∈ es) : ∃ r ∈ list, e.data = Record.document r := by
  have hmem := List.mem_map_of_mem (f := Entries.pair) he
  rw [hes] at hmem
  obtain ⟨r, hr, hpair⟩ := List.mem_map.mp hmem
  exact ⟨r, hr, (congrArg Prod.snd hpair).symm⟩

theorem recordsOf_shallow (hes : es.map Entries.pair = list.map Record.filed)
    (hlist : Record.Readable readBack list)
    (hdepth : ∀ r ∈ list, (Record.document r).depth ≤ readingLimit) :
    c.recordsOf es = .ok (list.map readBack) := by
  have hlegible : ∀ e ∈ es, e.data.Legible := by
    intro e he
    obtain ⟨r, hr, hdata⟩ := document_of_mem hes he
    exact hdata ▸ ⟨hlist.wellFormed r hr, hdepth r hr⟩
  rw [recordsOf, c.decodeAll_documentRows hlegible]
  exact c.decodeRecords_documents hes hlist

theorem recordsOf_of_ok (hes : es.map Entries.pair = list.map Record.filed)
    (hlist : Record.Readable readBack list) {rs : List α} (h : c.recordsOf es = .ok rs) :
    rs = list.map readBack := by
  have hwf : ∀ e ∈ es, e.data.WellFormed := by
    intro e he
    obtain ⟨r, hr, hdata⟩ := document_of_mem hes he
    exact hdata ▸ hlist.wellFormed r hr
  rw [recordsOf] at h
  cases hdocs : c.decodeAll (es.map Cursor.documentRow) with
  | error e =>
    rw [hdocs] at h
    cases h
  | ok docs =>
    rw [c.decodeAll_documentRows (c.legible_of_decodeAll hwf hdocs)] at h
    have hdecoded := (c.decodeRecords_documents hes hlist).symm.trans h
    cases hdecoded
    rfl

theorem recordsOf_deep {before after : List α} {r : α}
    (hes : es.map Entries.pair = (before ++ r :: after).map Record.filed)
    (hlist : Record.Readable readBack (before ++ r :: after))
    (hbefore : ∀ b ∈ before, (Record.document b).depth ≤ readingLimit)
    (hdeep : readingLimit < (Record.document r).depth) :
    ∃ cause, (c.recordsOf es : Except StoreError (List α)) =
      .error (.corrupted c.name (Record.key r) (.unreadable cause)) := by
  rw [List.map_append, List.map_cons] at hes
  obtain ⟨bs, rest, rfl, hbs, hrest⟩ := List.map_eq_append_iff.mp hes
  obtain ⟨e, as, rfl, he, -⟩ := List.map_eq_cons_iff.mp hrest
  obtain ⟨hid, hdata⟩ := Prod.mk.inj he
  obtain ⟨hwfs, hwf⟩ := List.forall_mem_append.mp hlist.wellFormed
  have hlegible : ∀ b ∈ bs, b.data.Legible := by
    intro b hb
    obtain ⟨x, hx, hdata⟩ := document_of_mem hbs hb
    exact hdata ▸ ⟨hwfs x hx, hbefore x hx⟩
  obtain ⟨cause, hcause⟩ := c.decodeAll_of_deep (hdata ▸ hwf r List.mem_cons_self) hlegible
    (hdata ▸ hdeep) as
  refine ⟨cause, ?_⟩
  rw [recordsOf, hcause, hid]
  rfl

theorem decodeRecords_filter {keep : Entry → Bool} {test : α → Bool}
    (htest : ∀ e ∈ es, ∀ r, Record.ofDocument e.data = .ok r → keep e = test r)
    (h : c.decodeRecords (es.map Entry.document) = .ok list) :
    c.decodeRecords ((es.filter keep).map Entry.document) = .ok (list.filter test) := by
  induction es generalizing list with
  | nil =>
    cases h
    rfl
  | cons e rest ih =>
    rw [List.map_cons] at h
    obtain ⟨r, rs, hr, hrs, rfl⟩ := c.ok_of_decodeRecords h
    have hrest := ih (fun x hx => htest x (List.mem_cons_of_mem _ hx)) hrs
    have hkeep := htest e List.mem_cons_self r (c.ok_of_decodeRecord hr)
    rw [List.filter_cons, List.filter_cons, ← hkeep]
    split
    · rw [List.map_cons, decodeRecords, hr, hrest]
      rfl
    · exact hrest

/-- If all records can be read then those of some of the entries can, and they are the records that
pass a test if these entries are told apart by it. -/
theorem recordsOf_filter (hwf : ∀ e ∈ es, e.data.WellFormed) {keep : Entry → Bool} {test : α → Bool}
    (htest : ∀ e ∈ es, ∀ r, Record.ofDocument e.data = .ok r → keep e = test r)
    (h : c.recordsOf es = .ok list) : c.recordsOf (es.filter keep) = .ok (list.filter test) := by
  rw [recordsOf] at h
  cases hdocs : c.decodeAll (es.map Cursor.documentRow) with
  | error e =>
    rw [hdocs] at h
    cases h
  | ok docs =>
    have hlegible := c.legible_of_decodeAll hwf hdocs
    rw [c.decodeAll_documentRows hlegible] at h
    rw [recordsOf, c.decodeAll_documentRows fun e he => hlegible e (List.mem_filter.mp he).1]
    exact c.decodeRecords_filter htest h

theorem mem_of_decodeRecords (h : c.decodeRecords (es.map Entry.document) = .ok list) :
    ∀ r ∈ list, ∃ e ∈ es, Record.ofDocument e.data = .ok r := by
  induction es generalizing list with
  | nil =>
    cases h
    exact List.forall_mem_nil _
  | cons e rest ih =>
    rw [List.map_cons] at h
    obtain ⟨r, rs, hr, hrs, rfl⟩ := c.ok_of_decodeRecords h
    refine List.forall_mem_cons.mpr ⟨⟨e, List.mem_cons_self, c.ok_of_decodeRecord hr⟩, fun x hx => ?_⟩
    obtain ⟨f, hf, hfx⟩ := ih hrs x hx
    exact ⟨f, List.mem_cons_of_mem _ hf, hfx⟩

/-- Whatever is found, with any order and page, is stored. -/
theorem mem_of_findRecords {s t : Store} {filter : Filter} {options : QueryOptions}
    (hwf : ∀ e ∈ s.entries.rows c.name, e.data.WellFormed)
    (h : c.findRecords filter options s = (.ok list, t)) :
    ∀ r ∈ list, ∃ e ∈ s.entries.rows c.name, Record.ofDocument e.data = .ok r := by
  obtain ⟨docs, u, hdocs, hdecode⟩ := Operation.ok_of_bind h
  have hlist : c.decodeRecords docs = .ok list := congrArg Prod.fst hdecode
  have hselected := ((c.findDocuments_yields s filter options).of_ok hdocs).1
  unfold selected at hselected
  cases hp : filter.compile with
  | error e =>
    rw [hp] at hselected
    cases hselected
  | ok p =>
    rw [hp] at hselected
    cases ht : options.tail with
    | error e =>
      rw [ht] at hselected
      cases hselected
    | ok tail =>
      rw [ht] at hselected
      change c.decodeAll ((s.entries.find c.name p tail).map Cursor.documentRow) = .ok docs
        at hselected
      have hlegible := c.legible_of_decodeAll
        (fun e he => hwf e (Entries.mem_rows_of_find he)) hselected
      rw [c.decodeAll_documentRows hlegible] at hselected
      cases hselected
      intro r hr
      obtain ⟨e, he, her⟩ := c.mem_of_decodeRecords hlist r hr
      exact ⟨e, Entries.mem_rows_of_find he, her⟩

def recordAt (id : String) (es : Entries) : Except StoreError (Option α) := do
  match ← c.fetched id es with
  | none => .ok none
  | some d => (c.decodeRecord id d.data).map some

theorem getRecord_yields (s : Store) (id : String) :
    Yields (c.getRecord id : StoreM (Option α)) s (c.recordAt id s.entries) s.entries := by
  have hresult : c.recordAt id s.entries =
      ((c.fetched id s.entries).map fun d => d.map (·.data)) >>= fun found =>
        found.elim (.ok none) fun data =>
          (c.decodeRecord id data : Except StoreError α).map some := by
    unfold recordAt
    rcases c.fetched id s.entries with e | _ | d <;> rfl
  rcases c.get_yields s id with hends | ⟨hnot, d, t, ht, hk, he⟩
  · rw [hresult]
    refine .inl (hends.bind_except fun found t _ ht => ?_)
    rw [← ht]
    cases found with
    | none => exact ends_pure none t
    | some data =>
      have hmap : (c.decodeRecord id data : Except StoreError α).map some =
          c.decodeRecord id data >>= fun r => .ok (some r) := by
        rcases c.decodeRecord id data with e | r <;> rfl
      rw [Option.elim, hmap]
      exact (ends_check _ t).bind_except fun r u _ hu => hu ▸ ends_pure (some r) u
  · exact .inr ⟨hnot, d, t, Operation.bind_of_error ht, hk, he⟩

variable {id : String} {r r' : α}

theorem recordAt_of_absent (h : es.fetch c.name id = none) :
    (c.recordAt id es : Except StoreError (Option α)) = .ok none := by
  rw [recordAt, fetched, h]
  rfl

theorem recordAt_eq_decodeRecord {e : Entry} (h : es.fetch c.name id = some e)
    (hlegible : e.data.Legible) :
    c.recordAt id es = (c.decodeRecord id e.data : Except StoreError α).map some := by
  have hdoc : c.decode (Cursor.documentRow e) = .ok e.document := c.decode_documentRow hlegible
  rw [recordAt, fetched, h]
  simp only [hdoc]
  rfl

theorem recordAt_of_legible {e : Entry} (h : es.fetch c.name id = some e) (hlegible : e.data.Legible)
    (hr : Record.ofDocument e.data = .ok r) : c.recordAt id es = .ok (some r) := by
  rw [c.recordAt_eq_decodeRecord h hlegible, decodeRecord, hr]
  rfl

theorem recordAt_document (h : (es.fetch c.name id).map (·.data) = some (Record.document r))
    (hdecode : Record.ofDocument (Record.document r) = .ok r')
    (hlegible : (Record.document r).Legible) : c.recordAt id es = .ok (some r') := by
  obtain ⟨e, he, hdata⟩ := Option.map_eq_some_iff.mp h
  exact c.recordAt_of_legible he (hdata ▸ hlegible) (hdata ▸ hdecode)

theorem recordAt_of_deep {doc : Json} (h : (es.fetch c.name id).map (·.data) = some doc)
    (hwf : doc.WellFormed) (hdeep : readingLimit < doc.depth) :
    ∃ cause, (c.recordAt id es : Except StoreError (Option α)) =
      .error (.corrupted c.name id (.unreadable cause)) := by
  obtain ⟨e, he, rfl⟩ := Option.map_eq_some_iff.mp h
  obtain ⟨-, -, rfl⟩ := Entries.mem_of_fetch he
  obtain ⟨cause, hcause⟩ := Json.read_compact_of_deep hwf hdeep
  refine ⟨cause, ?_⟩
  rw [recordAt, fetched, he]
  simp only [c.decode_of_unreadable hcause]
  rfl

theorem recordAt_of_ok (h : (es.fetch c.name id).map (·.data) = some (Record.document r))
    (hdecode : Record.ofDocument (Record.document r) = .ok r') (hwf : (Record.document r).WellFormed)
    {found : Option α} (hfound : c.recordAt id es = .ok found) : found = some r' := by
  by_cases hdepth : (Record.document r).depth ≤ readingLimit
  · rw [c.recordAt_document h hdecode ⟨hwf, hdepth⟩] at hfound
    cases hfound
    rfl
  · obtain ⟨cause, hcause⟩ := c.recordAt_of_deep (α := α) h hwf (Nat.lt_of_not_le hdepth)
    rw [hcause] at hfound
    cases hfound

theorem isOpen_of_getRecord {s t : Store} {found : Option α}
    (h : c.getRecord id s = (.ok found, t)) : s.database.isOpen = true := by
  cases hopen : s.database.isOpen with
  | true => rfl
  | false =>
    have hfetch : observed (.fetch c.name id) s =
        (.error (.storage .closed), { s with metrics := s.metrics.recordError }) :=
      observed_of_error (exec_of_error (Database.exec_of_closed hopen _ _))
    have hget : c.get id s = _ := Operation.bind_of_error (Operation.bind_of_error hfetch)
    rw [getRecord, Operation.bind_of_error hget] at h
    cases h

end Collection

end DocumentGraph
