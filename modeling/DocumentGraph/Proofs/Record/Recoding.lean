import DocumentGraph.Proofs.Record.Filing
import DocumentGraph.Proofs.Record.Reread
import DocumentGraph.Proofs.Store.RoundTrip
set_option autoImplicit false

/-!
# Records that are stored again

The document of a record decodes to the record, with a payload of null not set. What was read from any
object has no such payload, so it decodes from its own document as it is, and storing it again under
its id leaves what is read by ids as it was, and what is found by queries that make no difference
between the old document and the new one. The new document has none of the members that the record does
not know.
-/

namespace DocumentGraph

namespace Entries

variable {es : Entries} {e : Entry} {name id : String}

def replacedAt (name id : String) (doc : Json) (now : Int64) (e : Entry) : Entry :=
  if isAt name id e then { e with data := doc, updatedAt := now } else e

theorem replacedAt_of_ne {x : Entry} (h : isAt name id x = false) (doc : Json) (now : Int64) :
    replacedAt name id doc now x = x := by
  rw [replacedAt, h]
  rfl

@[simp] theorem collection_replacedAt (name id : String) (doc : Json) (now : Int64) (x : Entry) :
    (replacedAt name id doc now x).collection = x.collection := by
  unfold replacedAt
  split <;> rfl

@[simp] theorem id_replacedAt (name id : String) (doc : Json) (now : Int64) (x : Entry) :
    (replacedAt name id doc now x).id = x.id := by
  unfold replacedAt
  split <;> rfl

theorem put_eq_map (hd : es.Distinct) (h : es.fetch name id = some e) (doc : Json) (now : Int64) :
    es.put name id doc now = es.map (replacedAt name id doc now) := by
  induction es with
  | nil => cases h
  | cons x rest ih =>
    obtain ⟨hx, hrest⟩ := List.pairwise_cons.mp hd
    rw [put, List.map_cons]
    split
    · next hat =>
      -- No later entry lies under the id.
      have hothers : rest.map (replacedAt name id doc now) = rest := by
        conv_rhs => rw [← List.map_id rest]
        refine List.map_congr_left fun y hy => replacedAt_of_ne ?_ doc now
        rw [← Bool.not_eq_true, isAt_iff]
        intro hy'
        obtain ⟨hname, hid⟩ := isAt_iff.mp hat
        exact hx y hy ⟨hname.trans hy'.1.symm, hid.trans hy'.2.symm⟩
      rw [hothers, replacedAt, if_pos hat]
    · next hat =>
      have hat : isAt name id x = false := Bool.not_eq_true _ ▸ hat
      have hfetch : fetch name id rest = some e := by
        rw [fetch, List.find?_cons, hat] at h
        exact h
      rw [replacedAt_of_ne hat, ih hrest hfetch]

theorem data_replacedAt (hd : es.Distinct) (h : es.fetch name id = some e) (doc : Json) (now : Int64)
    {x : Entry} (hx : x ∈ es) : (replacedAt name id doc now x).data = x.data ∨
      (replacedAt name id doc now x).data = doc ∧ x = e := by
  cases hat : isAt name id x with
  | false => exact .inl (congrArg Entry.data (replacedAt_of_ne hat doc now))
  | true =>
    obtain ⟨hname, hid⟩ := isAt_iff.mp hat
    obtain ⟨he, hname', hid'⟩ := mem_of_fetch h
    refine .inr ⟨?_, hd.eq_of_mem hx he (hname.trans hname'.symm) (hid.trans hid'.symm)⟩
    rw [replacedAt, if_pos hat]

end Entries

namespace Collection

open Store

variable (c : Collection) {es : Entries} {f : Entry → Entry}

/-- A change of documents that neither the filter nor the order notices changes what is found in its
places. -/
theorem found_map {filter : Filter} {tail : Tail}
    (hname : ∀ e ∈ es, (f e).collection = e.collection)
    (hholds : ∀ e ∈ es.rows c.name, filter.holds (f e).data = filter.holds e.data)
    (hsort : ∀ key, tail.sort = some key → ∀ e ∈ es.rows c.name,
      (f e).data.extract key.field = e.data.extract key.field) :
    c.found filter tail (es.map f) = (c.found filter tail es).map f := by
  have hrows : Entries.rows c.name (es.map f) = (es.rows c.name).map f := by
    rw [Entries.rows, List.filter_map]
    refine congrArg _ (List.filter_congr fun e he => ?_)
    rw [Function.comp_apply, hname e he]
  have hchosen : c.chosen filter (es.map f) = (c.chosen filter es).map f := by
    rw [chosen, hrows, List.filter_map]
    exact congrArg _ (List.filter_congr fun e he => hholds e he)
  have hsorted : Entries.sorted tail.sort ((c.chosen filter es).map f) =
      (Entries.sorted tail.sort (c.chosen filter es)).map f := by
    cases hkey : tail.sort with
    | none => rfl
    | some key =>
      refine (List.map_mergeSort fun a ha b hb => ?_).symm
      rw [Tail.mayPrecede, Tail.mayPrecede, hsort key hkey a (List.mem_filter.mp ha).1,
        hsort key hkey b (List.mem_filter.mp hb).1]
  rw [found, hchosen, hsorted, found]
  cases tail.page with
  | none => rfl
  | some p =>
    simp only [Entries.paged, Page.cut]
    rw [List.map_take, List.map_drop]

variable {α : Type} [Record α]

variable (α) in
def ReadAlike (a b : Entry) : Prop :=
  a.id = b.id ∧ (a.data = b.data ∨ (a.data.Legible ∧ b.data.Legible ∧
    (Record.ofDocument a.data : Except DecodeError α) = Record.ofDocument b.data))

variable (α) in
def outcome (d : Document) : Except StoreError α := c.decodeRecord d.id d.data

theorem outcome_decode {a b : Entry} (h : ReadAlike α a b) :
    (c.decode (Cursor.documentRow a)).map (c.outcome α) =
      (c.decode (Cursor.documentRow b)).map (c.outcome α) := by
  obtain ⟨hid, hdata | ⟨ha, hb, hsame⟩⟩ := h
  · cases hread : Json.read readingLimit b.data.compact with
    | error x =>
      rw [c.decode_of_unreadable hread, c.decode_of_unreadable (hdata ▸ hread), hid]
    | ok data =>
      rw [c.decode_of_read hread, c.decode_of_read (hdata ▸ hread)]
      simp only [Except.map, outcome, hid]
  · rw [c.decode_documentRow ha, c.decode_documentRow hb]
    simp only [Except.map, outcome, Entry.document, decodeRecord, hid, hsame]

theorem decodeRecords_congr {ds ds' : List Document}
    (h : ds.map (c.outcome α) = ds'.map (c.outcome α)) :
    (c.decodeRecords ds : Except StoreError (List α)) = c.decodeRecords ds' := by
  induction ds generalizing ds' with
  | nil =>
    obtain rfl := List.map_eq_nil_iff.mp h.symm
    rfl
  | cons d rest ih =>
    obtain ⟨d', rest', rfl, hd, hrest⟩ := List.map_eq_cons_iff.mp h.symm
    have hfirst : (c.decodeRecord d.id d.data : Except StoreError α) = c.decodeRecord d'.id d'.data :=
      hd.symm
    rw [decodeRecords, decodeRecords, hfirst, ih hrest.symm]

theorem error_or_ok_of_map {ε β γ : Type} {x y : Except ε β} {g : β → γ} (h : x.map g = y.map g) :
    (∃ e, x = .error e ∧ y = .error e) ∨ ∃ a b, x = .ok a ∧ y = .ok b ∧ g a = g b := by
  rcases x with e | a <;> rcases y with e' | b <;> simp_all [Except.map]

theorem decodeAll_alike (h : ∀ e ∈ es, ReadAlike α (f e) e) :
    (c.decodeAll ((es.map f).map Cursor.documentRow)).map (List.map (c.outcome α)) =
      (c.decodeAll (es.map Cursor.documentRow)).map (List.map (c.outcome α)) := by
  induction es with
  | nil => rfl
  | cons e rest ih =>
    simp only [List.map_cons, decodeAll]
    rcases error_or_ok_of_map (c.outcome_decode (h e List.mem_cons_self)) with
      ⟨x, hx, hy⟩ | ⟨a, b, ha, hb, hab⟩
    · rw [hx, hy]
      rfl
    · rcases error_or_ok_of_map (ih fun x hx => h x (List.mem_cons_of_mem _ hx)) with
        ⟨x, hx, hy⟩ | ⟨as, bs, has, hbs, hrest⟩
      · rw [ha, hb, hx, hy]
        rfl
      · rw [ha, hb, has, hbs]
        change Except.ok (c.outcome α a :: as.map (c.outcome α)) =
          .ok (c.outcome α b :: bs.map (c.outcome α))
        rw [hab, hrest]

theorem recordsOf_map (h : ∀ e ∈ es, ReadAlike α (f e) e) :
    (c.recordsOf (es.map f) : Except StoreError (List α)) = c.recordsOf es := by
  unfold recordsOf
  rcases error_or_ok_of_map (c.decodeAll_alike h) with ⟨x, hx, hy⟩ | ⟨as, bs, has, hbs, hsame⟩
  · rw [hx, hy]
  · rw [has, hbs]
    exact c.decodeRecords_congr hsame

theorem recordAt_of_fetch {fs : Entries} {k : String}
    (h : es.fetch c.name k = fs.fetch c.name k) :
    (c.recordAt k es : Except StoreError (Option α)) = c.recordAt k fs := by
  rw [recordAt, fetched, h, ← fetched, ← recordAt]

theorem found_error_or_ok (filter : Filter) (options : QueryOptions) :
    (∃ e, ∀ es, c.selected filter options es = .error e) ∨
      ∃ tail, options.tail = .ok tail ∧ ∀ es, c.selected filter options es >>= c.decodeRecords =
        (c.recordsOf (c.found filter tail es) : Except StoreError (List α)) := by
  cases hv : filter.validated with
  | error e =>
    refine .inl ⟨e, fun es => ?_⟩
    rw [selected, Filter.compile_of_invalid hv]
    rfl
  | ok u =>
    cases ht : options.tail with
    | error e =>
      obtain ⟨p, hp, -⟩ := Filter.compile_of_valid hv
      refine .inl ⟨e, fun es => ?_⟩
      rw [selected, hp, ht]
      rfl
    | ok tail =>
      refine .inr ⟨tail, rfl, fun es => ?_⟩
      rw [c.selected_of_valid hv ht]
      rfl

end Collection

namespace Record

open Store

/-- A query makes no difference between two documents: the filter holds of both or of none, and both
have the same value at the field that it sorts by. -/
structure Indifferent (filter : Filter) (options : QueryOptions) (a b : Json) : Prop where
  holds : filter.holds a = filter.holds b
  sorted : ∀ tail key, options.tail = .ok tail → tail.sort = some key →
    a.extract key.field = b.extract key.field

variable {α : Type} [Record α]

/-- Encoding a record and decoding it gives what is read back of it, and exactly the record if it was
decoded itself. Then storing it again where it came from succeeds and is not noticed by looking records
up, or by finding them with a query that makes no difference between the old document and the new one. -/
structure Inverts (readBack : α → α) : Prop where
  object : ∀ r : α, (document r).isObject = true
  decoded : ∀ r : α, ofDocument (document r) = .ok (readBack r)
  again : ∀ ms (r : α), ofDocument (.object ms) = .ok r → ofDocument (document r) = .ok r
  restored : ∀ (c : Collection) (s : Store) (id : String) (doc : Json) (r : α), s.Ready →
    s.entries.Tidy → (c.get id s).1 = .ok (some doc) → ofDocument doc = .ok r → key r = id →
      id ≠ "" → ∃ t, c.putRecord r s = (.ok (), t) ∧
        (∀ k, ((c.getRecord k : StoreM (Option α)) t).1 = (c.getRecord k s).1) ∧
        ∀ filter options, Indifferent filter options doc (document r) →
          ((c.findRecords filter options : StoreM (List α)) t).1 = (c.findRecords filter options s).1

variable [Codec α]

theorem again_of_read {j : Json} {r : α} (h : ofDocument j = .ok r) :
    ofDocument (document r) = .ok r := by
  obtain ⟨ms, -, hbuild⟩ := ok_of_ofDocument h
  rw [Codec.ofDocument_document, Codec.readBack_of_read (Described.build_eq_ok.mp hbuild)]

theorem legible_of_read {j : Json} {r : α} (hj : j.Legible) (h : ofDocument j = .ok r) :
    (document r).Legible := by
  obtain ⟨ms, rfl, hbuild⟩ := ok_of_ofDocument h
  exact Codec.legible (Described.build_eq_ok.mp hbuild) hj

theorem restored (c : Collection) (s : Store) (id : String) (doc : Json) (r : α) (hready : s.Ready)
    (hs : s.entries.Tidy) (hget : (c.get id s).1 = .ok (some doc)) (hr : ofDocument doc = .ok r)
    (hkey : key r = id) (hid : id ≠ "") :
    ∃ t, c.putRecord r s = (.ok (), t) ∧
      (∀ k, ((c.getRecord k : StoreM (Option α)) t).1 = (c.getRecord k s).1) ∧
      ∀ filter options, Indifferent filter options doc (document r) →
        ((c.findRecords filter options : StoreM (List α)) t).1 =
          (c.findRecords filter options s).1 := by
  subst hkey
  obtain ⟨e, hfetch, rfl, hlegible⟩ := Collection.exists_fetch_of_get hready hs hget
  have hagain := again_of_read hr
  have hdocument := legible_of_read hlegible hr
  have hw : writable (key r) (document r) = .ok () :=
    writable_eq_ok.mpr ⟨validId_eq_ok.mpr hid, validDocument_eq_ok.mpr rfl⟩
  obtain ⟨t, hput, hkeeps, hentries⟩ := (c.put_yields s hw).of_ready hready
  have ht : t.Ready := hkeeps.ready hready
  refine ⟨t, hput, fun k => ?_, fun filter options hsame => ?_⟩
  · obtain ⟨u, hu, -⟩ := (c.getRecord_yields (α := α) t k).of_ready ht
    obtain ⟨v, hv, -⟩ := (c.getRecord_yields (α := α) s k).of_ready hready
    rw [hu, hv, hentries]
    by_cases hk : k = key r
    · subst hk
      have hafter := c.recordAt_document (Entries.data_fetch_put c.name (key r) (document r)
        s.clock.now s.entries) hagain hdocument
      rw [hafter, c.recordAt_of_legible hfetch hlegible hr]
    · exact c.recordAt_of_fetch (Entries.fetch_put_of_ne hk _ _ _ _)
  · obtain ⟨u, hu, -⟩ := (c.findRecords_decodes (α := α) t filter options).of_ready ht
    obtain ⟨v, hv, -⟩ := (c.findRecords_decodes (α := α) s filter options).of_ready hready
    rw [hu, hv, hentries, Entries.put_eq_map hs.distinct hfetch]
    rcases c.found_error_or_ok (α := α) filter options with ⟨x, hx⟩ | ⟨tail, htail, hfound⟩
    · rw [hx, hx]
    · have hdata {x : Entry} (hx : x ∈ s.entries) := Entries.data_replacedAt hs.distinct hfetch
        (document r) s.clock.now hx
      have hrow {x : Entry} (hx : x ∈ s.entries.rows c.name) := hdata (Entries.mem_rows.mp hx).1
      rw [hfound, hfound, c.found_map (fun x _ => Entries.collection_replacedAt _ _ _ _ x)]
      · refine c.recordsOf_map fun x hx => ⟨Entries.id_replacedAt _ _ _ _ x, ?_⟩
        rcases hdata (Collection.mem_of_found hx).1 with hx | ⟨hx, rfl⟩
        · exact .inl hx
        · rw [hx]
          exact .inr ⟨hdocument, hlegible, hagain.trans hr.symm⟩
      · intro x hx
        rcases hrow hx with hx | ⟨hx, rfl⟩
        · rw [hx]
        · rw [hx, hsame.holds]
      · intro key hkey x hx
        rcases hrow hx with hx | ⟨hx, rfl⟩
        · rw [hx]
        · rw [hx, hsame.sorted tail key htail hkey]

theorem inverts : Inverts (Codec.readBack (α := α)) :=
  ⟨fun _ => rfl, Codec.ofDocument_document, fun _ _ h => again_of_read h, restored⟩

/-- All six types of records are kept by their documents, up to payloads of null. -/
theorem records_invert :
    Inverts Noun.readBack ∧ Inverts (fun v : Verb => v) ∧ Inverts (fun t : Thing => t) ∧
      Inverts Action.readBack ∧ Inverts Relationship.readBack ∧ Inverts (fun n : Note => n) :=
  ⟨inverts, inverts, inverts, inverts, inverts, inverts⟩

def holding (name id : String) (doc : Json) : Store :=
  ⟨.initial, Database.empty.withEntries "documents" [⟨name, id, doc, 0, 0⟩], .zero, [], .still 0⟩

theorem entries_holding (name id : String) (doc : Json) :
    (holding name id doc).entries = [⟨name, id, doc, 0, 0⟩] := Database.entries_withEntries _ _ _

variable {c : Collection} {id : String} {doc : Json}

theorem tidy_holding (h : doc.WellFormed) : (holding c.name id doc).entries.Tidy := by
  rw [entries_holding]
  exact ⟨List.pairwise_singleton _ _, List.forall_mem_singleton.mpr h⟩

theorem fetch_holding :
    (holding c.name id doc).entries.fetch c.name id = some ⟨c.name, id, doc, 0, 0⟩ := by
  rw [entries_holding]
  simp [Entries.fetch, Entries.isAt]

theorem get_holding (h : doc.Legible) : (c.get id (holding c.name id doc)).1 = .ok (some doc) :=
  ((Collection.readsBack_of_fetch (tidy_holding h.1) ⟨rfl, rfl⟩ fetch_holding).returned h.2).1

/-- A noun with a schema of null and with a member that nouns do not know is read, with no schema, and
stored again. -/
theorem records_invert_null_schema :
    let doc : Json := .object [("createdAt", .number (.ofInt64 0)), ("extra", .bool true),
      ("name", .string "N"), ("schema", .null)]
    let noun : Noun := ⟨"N", none, none, 0⟩
    let c : Collection := ⟨"nouns"⟩
    let s := holding c.name "N" doc
    ofDocument (document { noun with schema := some .null }) = .ok noun ∧
      s.Ready ∧ s.entries.Tidy ∧ (c.get "N" s).1 = .ok (some doc) ∧ ofDocument doc = .ok noun ∧
      ofDocument (document noun) = .ok noun ∧
      ∃ t, c.putRecord noun s = (.ok (), t) ∧
        ((c.getRecord "N" : StoreM (Option Noun)) t).1 = (c.getRecord "N" s).1 ∧
        ((c.findRecords .all .unrestricted : StoreM (List Noun)) t).1 =
          (c.findRecords .all .unrestricted s).1 := by
  intro doc noun c s
  have hkeys : ["createdAt", "extra", "name", "schema"].Pairwise (· < ·) := by decide
  have hwf : doc.WellFormed := ⟨hkeys, trivial, trivial, trivial, trivial, trivial⟩
  have hlegible : doc.Legible := ⟨hwf, by simp [doc, Json.depth, Json.membersDepth, readingLimit]⟩
  have hread : ofDocument doc = .ok noun :=
    (Described.ofDocument_eq_ok hwf.1).mpr (Noun.IsReadFrom.mk rfl rfl rfl rfl)
  obtain ⟨hnoun, -⟩ := records_invert
  obtain ⟨t, hput, hget, hfind⟩ := hnoun.restored c s "N" doc noun ⟨rfl, rfl⟩ (tidy_holding hwf)
    (get_holding hlegible) hread rfl (by decide)
  have hall : Indifferent .all .unrestricted doc (document noun) := by
    refine ⟨by rw [Filter.holds_all, Filter.holds_all], fun tail key htail hkey => ?_⟩
    cases htail
    cases hkey
  exact ⟨hnoun.decoded _, ⟨rfl, rfl⟩, tidy_holding hwf, get_holding hlegible, hread,
    hnoun.again _ noun hread, t, hput, hget "N", hfind _ _ hall⟩

/-- A note with a member that notes do not know is stored again: it is looked up as before, but it is
not found any more by that member. -/
theorem extra_member_dropped :
    let doc : Json := .object [("body", .string "b"), ("extra", .bool true), ("id", .string "x"),
      ("stars", .number (.ofUInt32 1))]
    let note : Note := ⟨"x", "b", 1, none⟩
    let filter : Filter := .implicit "extra" (.bool true)
    let c : Collection := ⟨"c"⟩
    let s := holding c.name "x" doc
    (c.getRecord "x" s).1 = .ok (some note) ∧
      (c.findRecords filter .unrestricted s).1 = .ok [note] ∧
      ∃ t, c.putRecord note s = (.ok (), t) ∧ (c.getRecord "x" t).1 = .ok (some note) ∧
        ((c.findRecords filter .unrestricted : StoreM (List Note)) t).1 = .ok [] := by
  intro doc note filter c s
  have hready : s.Ready := ⟨rfl, rfl⟩
  have hkeys : ["body", "extra", "id", "stars"].Pairwise (· < ·) := by decide
  have hwf : doc.WellFormed := ⟨hkeys, trivial, trivial, trivial, trivial, trivial⟩
  have hlegible : doc.Legible := ⟨hwf, by simp [doc, Json.depth, Json.membersDepth, readingLimit]⟩
  have hread : ofDocument doc = .ok note :=
    (Described.ofDocument_eq_ok hwf.1).mpr (Note.IsReadFrom.mk rfl rfl rfl rfl)
  have hrecord : (c.getRecord "x" s).1 = .ok (some note) := by
    obtain ⟨t, ht, -⟩ := (c.getRecord_yields (α := Note) s "x").of_ready hready
    rw [ht, c.recordAt_of_legible fetch_holding hlegible hread]
  have hvalid : filter.validated = .ok () := rfl
  have hfound : (c.findRecords filter .unrestricted s).1 = .ok [note] := by
    obtain ⟨t, ht, -⟩ := (c.findRecords_yields (α := Note) s hvalid).of_ready hready
    have hholds : filter.holds doc = true := by decide
    have hchosen : c.chosen filter s.entries = [⟨"c", "x", doc, 0, 0⟩] := by
      rw [entries_holding]
      simp [Collection.chosen, Entries.rows, c, hholds]
    rw [ht, hchosen, c.recordsOf_legible (List.forall_mem_singleton.mpr hlegible) (.cons hread .nil)]
  obtain ⟨t, hput, hsame, -⟩ := restored c s "x" doc note hready (tidy_holding hwf)
    (get_holding hlegible) hread rfl (by decide)
  refine ⟨hrecord, hfound, t, hput, (hsame "x").trans hrecord, ?_⟩
  obtain ⟨hkeeps, hstored⟩ := c.put_of_ok s hput
  obtain ⟨u, hu, -⟩ := (c.findRecords_yields (α := Note) t hvalid).of_ready (hkeeps.ready hready)
  have hholds : filter.holds (document note) = false := by decide
  have hchosen : c.chosen filter t.entries = [] := by
    rw [hstored, entries_holding]
    simp [Collection.chosen, Entries.rows, Entries.put, Entries.isAt, c, hholds, key, note]
  rw [hu, hchosen]
  rfl

end Record

end DocumentGraph
