import DocumentGraph.Proofs.Record.Description
import DocumentGraph.Proofs.Record.Filing
import DocumentGraph.Proofs.Store.Paging
import DocumentGraph.Proofs.Store.RoundTrip
set_option autoImplicit false

/-!
# Reading records from any documents

A collection may hold documents that are no records of the type that is asked for. Finding records gives
those of the documents that finding documents gives, in their order, if all of them are records, and
else an error about the first one that is none; looking up an id does the same with one document. No
other document matters, and what does not decode documents does not notice any. Documents that nest too
deep are errors of their own, before any document is decoded.
-/

namespace DocumentGraph

theorem exists_forall₂_iff {α β : Type} {R : α → β → Prop} {as : List α} :
    (∃ bs, List.Forall₂ R as bs) ↔ ∀ a ∈ as, ∃ b, R a b := by
  induction as with
  | nil => exact iff_of_true ⟨[], .nil⟩ (List.forall_mem_nil _)
  | cons a as ih =>
    rw [List.forall_mem_cons, ← ih]
    constructor
    · rintro ⟨-, hab | ⟨hab, hrest⟩⟩
      exact ⟨⟨_, hab⟩, _, hrest⟩
    · rintro ⟨⟨b, hab⟩, bs, hrest⟩
      exact ⟨b :: bs, .cons hab hrest⟩

theorem forall₂_congr {α β : Type} {R S : α → β → Prop} {as : List α} {bs : List β}
    (h : ∀ a ∈ as, ∀ b, R a b ↔ S a b) : List.Forall₂ R as bs ↔ List.Forall₂ S as bs := by
  induction as generalizing bs with
  | nil => simp
  | cons a as ih =>
    obtain ⟨ha, has⟩ := List.forall_mem_cons.mp h
    cases bs with
    | nil => simp
    | cons b bs => rw [List.forall₂_cons, List.forall₂_cons, ha b, ih has]

namespace Record

variable {α : Type} [Record α]

/-- The document is an object from whose members the record is read. -/
def Describes (describes : List (String × Json) → α → Prop) (doc : Json) (r : α) : Prop :=
  ∃ ms, doc = .object ms ∧ describes ms r

theorem ofDocument_eq_ok_iff [Described α] {doc : Json} (h : doc.WellFormed) {r : α} :
    ofDocument doc = .ok r ↔ Describes Described.IsReadFrom doc r := by
  constructor
  · intro hr
    obtain ⟨ms, rfl, -⟩ := ok_of_ofDocument hr
    exact ⟨ms, rfl, (Described.ofDocument_eq_ok h.1).mp hr⟩
  · rintro ⟨ms, rfl, hr⟩
    exact (Described.ofDocument_eq_ok h.1).mpr hr

/-- The result is that of decoding the documents of entries: all records, or an error about the first
document that is none. -/
structure Decodes (describes : List (String × Json) → α → Prop) (c : Collection) (es : Entries)
    (result : Except StoreError (List α)) : Prop where
  ok_iff : ∀ rs, result = .ok rs ↔ List.Forall₂ (fun e r => Describes describes e.data r) es rs
  ends_iff : (∃ rs, result = .ok rs) ↔ ∀ e ∈ es, ∃ r, Describes describes e.data r
  first : ∀ before e after, es = before ++ e :: after →
    (∀ b ∈ before, ∃ r, Describes describes b.data r) →
    (¬ ∃ r, Describes describes e.data r) → ∃ cause, result = .error (.corrupted c.name e.id (.undecodable cause))

/-- What reading records through a collection gives, whatever the documents are. -/
structure ReadsExactly (describes : List (String × Json) → α → Prop) (c : Collection) (s : Store) :
    Prop where
  refused : ∀ filter options e, refusal filter options = some e →
    (c.findDocuments filter options s).1 = .error e ∧
      ((c.findRecords filter options : StoreM (List α)) s).1 = .error e
  found : ∀ filter options, refusal filter options = none → ∃ tail, options.tail = .ok tail ∧
    c.Finds s filter options (c.found filter tail s.entries) ∧
    ((∀ e ∈ c.found filter tail s.entries, e.data.depth ≤ readingLimit) →
      Decodes describes c (c.found filter tail s.entries) (c.findRecords filter options s).1) ∧
    ∀ before e after, c.found filter tail s.entries = before ++ e :: after →
      (∀ b ∈ before, b.data.depth ≤ readingLimit) → readingLimit < e.data.depth →
        ∃ cause, ((c.findRecords filter options : StoreM (List α)) s).1 =
          .error (.corrupted c.name e.id (.unreadable cause))
  outside : ∀ filter options (t : Store),
    (c.findDocuments filter options t).1 = (c.findDocuments filter options s).1 →
      ((c.findRecords filter options : StoreM (List α)) t).1 = (c.findRecords filter options s).1
  absent : ∀ id, s.entries.fetch c.name id = none →
    (c.get id s).1 = .ok none ∧ ((c.getRecord id : StoreM (Option α)) s).1 = .ok none
  looked : ∀ id e, s.entries.fetch c.name id = some e → e.data.depth ≤ readingLimit →
    (c.get id s).1 = .ok (some e.data) ∧
    (∀ r, (c.getRecord id s).1 = .ok (some r) ↔ Describes describes e.data r) ∧
    ((¬ ∃ r, Describes describes e.data r) → ∃ cause,
      ((c.getRecord id : StoreM (Option α)) s).1 = .error (.corrupted c.name id (.undecodable cause)))
  deep : ∀ id e, s.entries.fetch c.name id = some e → readingLimit < e.data.depth → ∃ cause,
    (c.get id s).1 = .error (.corrupted c.name id (.unreadable cause)) ∧
      ((c.getRecord id : StoreM (Option α)) s).1 = .error (.corrupted c.name id (.unreadable cause))

end Record

namespace Collection

open Store Record

variable {α : Type} [Record α] [Described α] (c : Collection) {es : Entries} {list : List α}

theorem decodeRecord_of_none (id : String) {doc : Json} (h : doc.WellFormed)
    (hnone : ¬ ∃ r : α, Describes Described.IsReadFrom doc r) :
    ∃ cause, (c.decodeRecord id doc : Except StoreError α) =
      .error (.corrupted c.name id (.undecodable cause)) := by
  unfold decodeRecord
  cases hr : (Record.ofDocument doc : Except DecodeError α) with
  | ok r => exact absurd ⟨r, (ofDocument_eq_ok_iff h).mp hr⟩ hnone
  | error e => exact ⟨e, rfl⟩

theorem decodeRecords_of_none {before after : Entries} {e : Entry}
    (hwf : ∀ x ∈ before ++ e :: after, x.data.WellFormed)
    (hbefore : ∀ b ∈ before, ∃ r : α, Describes Described.IsReadFrom b.data r)
    (hnone : ¬ ∃ r : α, Describes Described.IsReadFrom e.data r) :
    ∃ cause, (c.decodeRecords ((before ++ e :: after).map Entry.document) :
      Except StoreError (List α)) = .error (.corrupted c.name e.id (.undecodable cause)) := by
  induction before with
  | nil =>
    obtain ⟨cause, hcause⟩ := c.decodeRecord_of_none e.id (hwf e List.mem_cons_self) hnone
    refine ⟨cause, ?_⟩
    rw [List.nil_append, List.map_cons, decodeRecords, Entry.document, hcause]
    rfl
  | cons b bs ih =>
    obtain ⟨hb, hbs⟩ := List.forall_mem_cons.mp hbefore
    obtain ⟨hwfb, hwfs⟩ := List.forall_mem_cons.mp hwf
    obtain ⟨r, hr⟩ := hb
    obtain ⟨cause, hcause⟩ := ih hwfs hbs
    refine ⟨cause, ?_⟩
    rw [List.cons_append, List.map_cons, decodeRecords, decodeRecord, hcause, Entry.document,
      (ofDocument_eq_ok_iff hwfb).mpr hr]
    rfl

theorem decodes_recordsOf (hlegible : ∀ e ∈ es, e.data.Legible) :
    Decodes Described.IsReadFrom c es (c.recordsOf es : Except StoreError (List α)) := by
  have hwf : ∀ e ∈ es, e.data.WellFormed := fun e he => (hlegible e he).1
  have hall : c.recordsOf es =
      (c.decodeRecords (es.map Entry.document) : Except StoreError (List α)) := by
    rw [recordsOf, c.decodeAll_documentRows hlegible]
    rfl
  have hok (rs : List α) : c.recordsOf es = .ok rs ↔
      List.Forall₂ (fun e r => Describes Described.IsReadFrom e.data r) es rs := by
    rw [← forall₂_congr fun e he r => ofDocument_eq_ok_iff (hwf e he)]
    exact ⟨fun h => c.forall₂_of_decodeRecords (hall ▸ h), c.recordsOf_legible hlegible⟩
  refine ⟨hok, ?_, ?_⟩
  · simp only [hok]
    exact exists_forall₂_iff
  · rintro before e after rfl hbefore hnone
    rw [hall]
    exact c.decodeRecords_of_none hwf hbefore hnone

omit [Described α] in
theorem findRecords_fst (filter : Filter) (options : QueryOptions) (s : Store) :
    ((c.findRecords filter options : StoreM (List α)) s).1 =
      (c.findDocuments filter options s).1 >>= c.decodeRecords := by
  rw [findRecords, Operation.bind_apply]
  rcases c.findDocuments filter options s with ⟨e | docs, t⟩ <;> rfl

omit [Described α] in
theorem getRecord_fst (id : String) (s : Store) :
    ((c.getRecord id : StoreM (Option α)) s).1 = (c.get id s).1 >>= fun found =>
      found.elim (.ok none) fun doc => (c.decodeRecord id doc).map some := by
  rw [getRecord, Operation.bind_apply]
  rcases c.get id s with ⟨e | _ | doc, t⟩
  · rfl
  · rfl
  · change ((Store.check (c.decodeRecord id doc) >>= fun r => pure (some r)) t).1 =
      (c.decodeRecord id doc : Except StoreError α).map some
    rw [Operation.bind_apply, Store.check]
    cases (c.decodeRecord id doc : Except StoreError α) <;> rfl

theorem readsExactly {s : Store} (hready : s.Ready) (hs : s.entries.Tidy) :
    ReadsExactly (Described.IsReadFrom (α := α)) c s := by
  refine ⟨fun filter options e he => ?_, fun filter options hnone => ?_, fun filter options t ht => ?_,
    fun id hid => ?_, fun id e he hshallow => ?_, fun id e he hdeep => ?_⟩
  · have hdocs : c.findDocuments filter options s = (.error e, s) :=
      Operation.error_of_map (c.findWhere_of_refusal he)
    have hrecords : (c.findRecords filter options : StoreM (List α)) s = (.error e, s) :=
      Operation.bind_of_error hdocs
    exact ⟨by rw [hdocs], by rw [hrecords]⟩
  · obtain ⟨sort, limit, offset⟩ := options
    obtain ⟨hv, hbounded, key, rfl⟩ := exists_key_of_refusal hnone
    have htail := tail_of_token key hbounded
    refine ⟨_, htail, finds_found hs hready hv htail, ?_⟩
    have hwf : ∀ e ∈ c.found filter ⟨key, QueryOptions.page ⟨none, limit, offset⟩⟩ s.entries,
        e.data.WellFormed := fun e he => hs.wellFormed e (mem_of_found he).1
    obtain ⟨t, ht, -⟩ := (c.findRecords_decodes (α := α) s filter
      ⟨key.map SortKey.token, limit, offset⟩).of_ready hready
    rw [c.selected_of_valid hv htail] at ht
    rw [ht]
    refine ⟨fun hshallow => c.decodes_recordsOf fun e he => ⟨hwf e he, hshallow e he⟩, ?_⟩
    intro before e after hsplit hbefore hdeep
    rw [hsplit] at hwf
    obtain ⟨hwfs, hwfe⟩ := List.forall_mem_append.mp hwf
    obtain ⟨cause, hcause⟩ := c.decodeAll_of_deep (hwfe e List.mem_cons_self)
      (fun b hb => ⟨hwfs b hb, hbefore b hb⟩) hdeep after
    refine ⟨cause, ?_⟩
    change c.decodeAll ((c.found filter _ s.entries).map Cursor.documentRow) >>= c.decodeRecords = _
    rw [hsplit, hcause]
    rfl
  · rw [findRecords_fst, findRecords_fst, ht]
  · obtain ⟨t, ht, -⟩ := (c.get_yields s id).of_ready hready
    have hget : (c.get id s).1 = .ok none := by
      rw [ht, fetched, hid]
      rfl
    rw [getRecord_fst, hget]
    exact ⟨rfl, rfl⟩
  · have hwf := hs.wellFormed e (Entries.mem_of_fetch he).1
    have hget := ((readsBack_of_fetch hs hready he).returned hshallow).1
    have hrecord : ((c.getRecord id : StoreM (Option α)) s).1 =
        (c.decodeRecord id e.data).map some := by
      rw [getRecord_fst, hget]
      rfl
    rw [hrecord]
    refine ⟨hget, fun r => ?_, fun hnone => ?_⟩
    · rw [← ofDocument_eq_ok_iff hwf, decodeRecord]
      cases (Record.ofDocument e.data : Except DecodeError α) <;> simp [Except.map]
    · obtain ⟨cause, hcause⟩ := c.decodeRecord_of_none (α := α) id hwf hnone
      exact ⟨cause, by rw [hcause]; rfl⟩
  · obtain ⟨cause, hget, -⟩ := (readsBack_of_fetch hs hready he).refused hdeep
    rw [getRecord_fst, hget]
    exact ⟨cause, rfl, rfl⟩

/-- What does not decode documents ends as the entries say, whatever the documents are. -/
structure Undeterred (c : Collection) (s : Store) : Prop where
  has : ∀ id, (c.has id s).1 = .ok (s.entries.fetch c.name id).isSome
  delete : ∀ id, ∃ t, c.delete id s = (.ok (s.entries.fetch c.name id).isSome, t) ∧
    t.entries = s.entries.remove c.name id
  count : ∀ filter, filter.validated = .ok () →
    (c.countWhere filter s).1 = .ok (counted (c.chosen filter s.entries).length)
  deleteWhere : ∀ filter, filter.validated = .ok () →
    ∃ t, c.deleteWhere filter s = (.ok (c.chosen filter s.entries).length, t) ∧
      t.entries = s.entries.filter fun e => !(decide (e.collection = c.name) && filter.holds e.data)
  refused : ∀ filter e, filter.validated = .error e →
    (c.countWhere filter s).1 = .error e ∧ c.deleteWhere filter s = (.error e, s)

theorem undeterred {s : Store} (hready : s.Ready) : c.Undeterred s := by
  refine ⟨fun id => ?_, fun id => ?_, fun filter hv => ?_, fun filter hv => ?_, fun filter e hv => ?_⟩
  · obtain ⟨t, ht, -⟩ := (c.has_yields s id).of_ready hready
    rw [ht]
  · obtain ⟨t, ht, -, hentries⟩ := (c.delete_yields s id).of_ready hready
    exact ⟨t, ht, hentries⟩
  · obtain ⟨p, hp, hsel⟩ := Filter.compile_of_valid hv
    obtain ⟨t, ht, -⟩ := (c.countWhere_yields s filter).of_ready hready
    rw [ht, hp, Except.map, c.select_eq_chosen hsel]
  · obtain ⟨p, hp, hsel⟩ := Filter.compile_of_valid hv
    obtain ⟨t, ht, -, hentries⟩ := (c.deleteWhere_yields s hp).of_ready hready
    refine ⟨t, by rw [ht, c.select_eq_chosen hsel], ?_⟩
    rw [hentries, Entries.removeWhere]
    refine List.filter_congr fun e _ => ?_
    simp [Entries.isSelected, hsel]
  · obtain ⟨t, ht, -⟩ := (c.countWhere_yields s filter).of_ready hready
    have hcompile := Filter.compile_of_invalid hv
    rw [ht, hcompile]
    exact ⟨rfl, c.deleteWhere_rejected s hcompile⟩

end Collection

namespace Record

open Collection

/-- Whatever documents a collection holds, for records of all six types: finding and looking up decode
what finding and looking up documents give, the first document that is no record is the error, and
nothing else of the collection matters; a document that nests too deep is an error before that. The
operations that do not decode end as for documents. -/
theorem read_exactly (c : Collection) (s : Store) (hready : s.Ready) (hs : s.entries.Tidy) :
    ReadsExactly Noun.IsReadFrom c s ∧ ReadsExactly Verb.IsReadFrom c s ∧
      ReadsExactly Thing.IsReadFrom c s ∧ ReadsExactly Action.IsReadFrom c s ∧
      ReadsExactly Relationship.IsReadFrom c s ∧ ReadsExactly Note.IsReadFrom c s ∧ c.Undeterred s :=
  ⟨c.readsExactly hready hs, c.readsExactly hready hs, c.readsExactly hready hs,
    c.readsExactly hready hs, c.readsExactly hready hs, c.readsExactly hready hs, c.undeterred hready⟩

/-- Of three documents the second one is a note: a query for it alone gives it, one that selects the
first one as well is an error about that, and one that selects all is an error about the third one, which
nests too deep. All three are counted. -/
theorem read_exactly_mixed :
    let plain : Json := .object [("id", .string "a")]
    let doc : Json := .object [("body", .string "b"), ("id", .string "x"),
      ("stars", .number (.ofUInt32 1))]
    let es : Entries := [⟨"c", "a", plain, 0, 0⟩, ⟨"c", "x", doc, 0, 0⟩,
      ⟨"c", "y", .object [("d", .nested 127)], 0, 0⟩]
    let s : Store := ⟨.initial, Database.empty.withEntries "documents" es, .zero, [], .still 0⟩
    let c : Collection := ⟨"c"⟩
    s.Ready ∧ s.entries.Tidy ∧
      (c.findRecords (.implicit "body" (.string "b")) .unrestricted s).1 =
        .ok [(⟨"x", "b", 1, none⟩ : Note)] ∧
      (∃ cause, ((c.findRecords (.existence "id" true) .unrestricted : StoreM (List Note)) s).1 =
        .error (.corrupted "c" "a" (.undecodable cause))) ∧
      (∃ cause, ((c.findRecords .all .unrestricted : StoreM (List Note)) s).1 =
        .error (.corrupted "c" "y" (.unreadable cause))) ∧
      (c.countWhere .all s).1 = .ok 3 := by
  intro plain doc es s c
  have hentries : s.entries = es := Database.entries_withEntries _ _ _
  have hready : s.Ready := ⟨rfl, rfl⟩
  have hkeys : ["body", "id", "stars"].Pairwise (· < ·) := by decide
  have htidy : s.entries.Tidy := by
    rw [hentries]
    refine ⟨by simp [Entries.Distinct, es], List.forall_mem_cons.mpr ⟨?_, List.forall_mem_cons.mpr
      ⟨?_, List.forall_mem_singleton.mpr ?_⟩⟩⟩
    · exact ⟨List.pairwise_singleton _ _, trivial, trivial⟩
    · exact ⟨hkeys, trivial, trivial, trivial, trivial⟩
    · exact ⟨List.pairwise_singleton _ _, Json.wellFormed_nested 127, trivial⟩
  have hfound (filter : Filter) {tail : Tail} (htail : QueryOptions.unrestricted.tail = .ok tail) :
      c.found filter tail s.entries = es.filter fun e => filter.holds e.data := by
    cases htail
    rw [hentries]
    rfl
  have hshallow : plain.depth ≤ readingLimit ∧ doc.depth ≤ readingLimit := by
    simp [plain, doc, Json.depth, Json.membersDepth, readingLimit]
  obtain ⟨-, -, -, -, -, hnotes, hothers⟩ := read_exactly c s hready htidy
  refine ⟨hready, htidy, ?_, ?_, ?_, ?_⟩
  · obtain ⟨tail, htail, -, hdecodes, -⟩ :=
      hnotes.found (.implicit "body" (.string "b")) .unrestricted rfl
    have hselected : c.found (.implicit "body" (.string "b")) tail s.entries =
        [⟨"c", "x", doc, 0, 0⟩] := hfound _ htail
    rw [hselected] at hdecodes
    refine ((hdecodes (List.forall_mem_singleton.mpr hshallow.2)).ok_iff _).mpr (.cons ?_ .nil)
    exact ⟨_, rfl, Note.IsReadFrom.mk rfl rfl rfl rfl⟩
  · obtain ⟨tail, htail, -, hdecodes, -⟩ := hnotes.found (.existence "id" true) .unrestricted rfl
    have hselected : c.found (.existence "id" true) tail s.entries =
        [⟨"c", "a", plain, 0, 0⟩, ⟨"c", "x", doc, 0, 0⟩] := hfound _ htail
    rw [hselected] at hdecodes
    refine (hdecodes (List.forall_mem_cons.mpr ⟨hshallow.1, List.forall_mem_singleton.mpr
      hshallow.2⟩)).first [] _ _ rfl (List.forall_mem_nil _) ?_
    rintro ⟨note, ms, hms, hread⟩
    cases hms
    cases hread.body
  · obtain ⟨tail, htail, -, -, hdeep⟩ := hnotes.found .all .unrestricted rfl
    refine hdeep [⟨"c", "a", plain, 0, 0⟩, ⟨"c", "x", doc, 0, 0⟩] _ [] (hfound _ htail)
      (List.forall_mem_cons.mpr ⟨hshallow.1, List.forall_mem_singleton.mpr hshallow.2⟩) ?_
    simp [Json.depth, Json.membersDepth, Json.depth_nested, readingLimit]
  · have hchosen : c.chosen .all s.entries = es := by
      rw [hentries]
      rfl
    rw [hothers.count .all rfl, hchosen]
    rfl

end Record

end DocumentGraph
