import DocumentGraph.Proofs.Store.Course
import DocumentGraph.Proofs.Store.RoundTrip
set_option autoImplicit false

/-!
# The times of documents

An entry is dated by readings of the clock: created at the reading of the put that stored it first
since it was absent, and updated at the reading of the last put. So the two are ordered as these
readings are. While the clock does not step back an entry is never updated before it was created, nor
before its last update.
-/

namespace DocumentGraph

open Operation

namespace Entries

variable {name id : String} {doc : Json} {now : Int64} {es : Entries} {e : Entry}

theorem isSome_fetch_of_mem (he : e ∈ es) : (es.fetch e.collection e.id).isSome = true :=
  List.find?_isSome.mpr ⟨e, he, isAt_iff.mpr ⟨rfl, rfl⟩⟩

theorem Distinct.fetch_of_mem (h : es.Distinct) (he : e ∈ es) :
    es.fetch e.collection e.id = some e := by
  obtain ⟨x, hx⟩ := Option.isSome_iff_exists.mp (isSome_fetch_of_mem he)
  obtain ⟨hmem, hname, hid⟩ := mem_of_fetch hx
  rw [hx, h.eq_of_mem hmem he hname hid]

def replaced (doc : Json) (now : Int64) (e : Entry) : Entry :=
  { e with data := doc, updatedAt := now }

theorem fetch_put (es : Entries) (name id : String) (doc : Json) (now : Int64) :
    (es.put name id doc now).fetch name id =
      some (((es.fetch name id).map (replaced doc now)).getD ⟨name, id, doc, now, now⟩) := by
  induction es with
  | nil => simp [put, fetch, isAt]
  | cons e rest ih =>
    by_cases hat : isAt name id e = true
    · have hat' : isAt name id { e with data := doc, updatedAt := now } = true := hat
      rw [put, if_pos hat, fetch, fetch, List.find?_cons_of_pos hat', List.find?_cons_of_pos hat]
      rfl
    · rw [put, if_neg hat, fetch, List.find?_cons_of_neg hat]
      rw [fetch] at ih
      rw [ih, fetch, fetch, List.find?_cons_of_neg hat]

theorem mem_put_cases (h : es.Distinct) (he : e ∈ es.put name id doc now) :
    (es.put name id doc now).fetch name id = some e ∨
      ¬ (e.collection = name ∧ e.id = id) ∧ e ∈ es := by
  by_cases hat : e.collection = name ∧ e.id = id
  · obtain ⟨rfl, rfl⟩ := hat
    exact .inl ((distinct_put h _ _ _ _).fetch_of_mem he)
  · refine .inr ⟨hat, (mem_put he).resolve_right ?_⟩
    rintro ⟨hname, hid, -⟩
    exact hat ⟨hname, hid⟩

end Entries

theorem Collection.put_of_error {c : Collection} {s t : Store} {id : String} {doc : Json}
    {e : StoreError} (h : c.put id doc s = (.error e, t)) : t.entries = s.entries := by
  cases hw : writable id doc with
  | error d =>
    cases (c.put_rejected s hw).symm.trans h
    rfl
  | ok u =>
    obtain ⟨-, ⟨hok, -⟩ | ⟨-, hsame⟩⟩ := (c.put_yields s hw).of_error h
    · cases hok
    · exact hsame

namespace CollectionStep

def reading (step : CollectionStep) : Int64 := step.before.clock.now

def Puts (name id : String) (step : CollectionStep) : Prop :=
  step.collection.name = name ∧ (∃ doc, step.call = .put id doc) ∧ step.isFailed = false

variable {s t : Store} {step : CollectionStep}

theorem Puts.unique {name id other key : String} (h : step.Puts name id) (k : step.Puts other key) :
    name = other ∧ id = key := by
  obtain ⟨rfl, ⟨doc, hcall⟩, -⟩ := h
  obtain ⟨rfl, ⟨doc', hcall'⟩, -⟩ := k
  cases hcall.symm.trans hcall'
  exact ⟨rfl, rfl⟩

/-- A call puts a document at the reading of the clock, or it takes entries away at most. -/
theorem Happens.entries (h : step.Happens s t) :
    (∃ id doc, step.Puts step.collection.name id ∧
      t.entries = s.entries.put step.collection.name id doc step.reading) ∨
    (∀ name id, ¬ step.Puts name id) ∧ ∃ keep : Entry → Bool, t.entries = s.entries.filter keep := by
  obtain ⟨rfl, hrun⟩ := h
  obtain ⟨before, c, call, outcome⟩ := step
  have hsame (he : t.entries = before.entries) :
      ∃ keep : Entry → Bool, t.entries = before.entries.filter keep :=
    ⟨fun _ => true, he.trans (List.filter_true _).symm⟩
  by_cases hput : ∃ id doc, call = .put id doc
  · obtain ⟨id, doc, rfl⟩ := hput
    cases outcome with
    | ok reply =>
      obtain ⟨u, hu, -⟩ := value_of_map hrun
      exact .inl ⟨id, doc, ⟨rfl, ⟨doc, rfl⟩, rfl⟩, (c.put_of_ok before hu).2⟩
    | error e =>
      refine .inr ⟨fun name id hputs => ?_, hsame (Collection.put_of_error (error_of_map hrun))⟩
      cases hputs.2.2
  · refine .inr ⟨fun name id hputs => hput ⟨id, hputs.2.1⟩, ?_⟩
    have hchanges := (call.run_confined c before outcome t hrun).2
    generalize t.entries = es at hchanges hsame ⊢
    cases hchanges with
    | nothing => exact hsame rfl
    | stored id doc now h => exact absurd ⟨id, doc, h⟩ hput
    | removed keep _ => exact ⟨keep, rfl⟩

theorem Happens.replaces {e : Entry} (h : step.Happens step.before t)
    (hdistinct : step.before.entries.Distinct) (he : e ∈ step.before.entries)
    (hputs : step.Puts e.collection e.id) :
    ∃ new, t.entries.fetch e.collection e.id = some new ∧ new.createdAt = e.createdAt ∧
      new.updatedAt = step.reading := by
  rcases h.entries with ⟨id, doc, hstored, ht⟩ | ⟨hnone, -⟩
  · obtain ⟨hname, hid⟩ := hstored.unique hputs
    refine ⟨Entries.replaced doc step.reading e, ?_, rfl, rfl⟩
    rw [ht, hname, hid, Entries.fetch_put, hdistinct.fetch_of_mem he]
    rfl
  · exact absurd hputs (hnone _ _)

end CollectionStep

namespace Entry

/-- The call stored the entry where there was none. -/
structure CreatedBy (e : Entry) (step : CollectionStep) : Prop where
  puts : step.Puts e.collection e.id
  createdAt : e.createdAt = step.reading
  absent : step.before.entries.fetch e.collection e.id = none

/-- The last of the calls that put the entry was at the time of its last update. -/
def UpdatedIn (e : Entry) (steps : List CollectionStep) : Prop :=
  ∃ earlier last later, steps = earlier ++ last :: later ∧ last.Puts e.collection e.id ∧
    e.updatedAt = last.reading ∧ ∀ step ∈ later, ¬ step.Puts e.collection e.id

/-- One of the calls created the entry, which has been there since and was updated by them. -/
def Dated (e : Entry) (steps : List CollectionStep) : Prop :=
  ∃ old first rest, steps = old ++ first :: rest ∧ e.CreatedBy first ∧
    (∀ step ∈ rest, (step.before.entries.fetch e.collection e.id).isSome = true) ∧
    e.UpdatedIn (first :: rest)

variable {e : Entry} {steps : List CollectionStep} {step : CollectionStep} {name id : String}

theorem dated_new (hputs : step.Puts name id) (habsent : step.before.entries.fetch name id = none)
    (doc : Json) (steps : List CollectionStep) :
    Dated ⟨name, id, doc, step.reading, step.reading⟩ (steps ++ [step]) :=
  ⟨steps, step, [], rfl, ⟨hputs, rfl, habsent⟩, List.forall_mem_nil _,
    [], step, [], rfl, hputs, rfl, List.forall_mem_nil _⟩

theorem Dated.extend (h : e.Dated steps)
    (hthere : (step.before.entries.fetch e.collection e.id).isSome = true)
    (hspared : ¬ step.Puts e.collection e.id) : e.Dated (steps ++ [step]) := by
  obtain ⟨old, first, rest, rfl, hcreated, hpresent, earlier, last, later, hsplit, hputs, hlast,
    hlater⟩ := h
  refine ⟨old, first, rest ++ [step], by rw [List.append_assoc, List.cons_append], hcreated,
    List.forall_mem_append.mpr ⟨hpresent, List.forall_mem_singleton.mpr hthere⟩,
    earlier, last, later ++ [step], ?_, hputs, hlast,
    List.forall_mem_append.mpr ⟨hlater, List.forall_mem_singleton.mpr hspared⟩⟩
  rw [← List.cons_append, hsplit, List.append_assoc, List.cons_append]

theorem Dated.replaced (h : e.Dated steps)
    (hthere : (step.before.entries.fetch e.collection e.id).isSome = true)
    (hputs : step.Puts e.collection e.id) (doc : Json) :
    (Entries.replaced doc step.reading e).Dated (steps ++ [step]) := by
  obtain ⟨old, first, rest, rfl, hcreated, hpresent, -⟩ := h
  exact ⟨old, first, rest ++ [step], by rw [List.append_assoc, List.cons_append],
    ⟨hcreated.puts, hcreated.createdAt, hcreated.absent⟩,
    List.forall_mem_append.mpr ⟨hpresent, List.forall_mem_singleton.mpr hthere⟩,
    first :: rest, step, [], rfl, hputs, rfl, List.forall_mem_nil _⟩

theorem Dated.ordered (h : e.Dated steps)
    (hclock : steps.Pairwise fun a b => a.reading ≤ b.reading) : e.createdAt ≤ e.updatedAt := by
  obtain ⟨old, first, rest, rfl, hcreated, -, earlier, last, later, hsplit, -, hlast, -⟩ := h
  have htail := (List.pairwise_append.mp hclock).2.1
  rw [hcreated.createdAt, hlast]
  cases earlier with
  | nil =>
    obtain ⟨rfl, -⟩ := List.cons.inj hsplit
    exact Int64.le_refl _
  | cons x xs =>
    have hmem : last ∈ rest := by
      rw [(List.cons.inj hsplit).2]
      exact List.mem_append_right _ List.mem_cons_self
    exact (List.pairwise_cons.mp htail).1 last hmem

theorem Dated.exists_updated (h : e.Dated steps) : ∃ step ∈ steps, e.updatedAt = step.reading := by
  obtain ⟨old, first, rest, rfl, -, -, earlier, last, later, hsplit, -, hlast, -⟩ := h
  refine ⟨last, List.mem_append_right _ ?_, hlast⟩
  rw [hsplit]
  exact List.mem_append_right _ List.mem_cons_self

end Entry

namespace Store

/-- The entries are left alone; the clock may be set. -/
def SameEntries (s t : Store) : Prop := t.entries = s.entries

variable {s t : Store} {steps : List CollectionStep} {step : CollectionStep}

theorem dated_of_happens (h : step.Happens s t) (hdistinct : s.entries.Distinct)
    (hdated : ∀ e ∈ s.entries, e.Dated steps) :
    t.entries.Distinct ∧ ∀ e ∈ t.entries, e.Dated (steps ++ [step]) := by
  obtain rfl := h.1
  rcases h.entries with ⟨id, doc, hputs, ht⟩ | ⟨hnone, keep, ht⟩
  · rw [ht]
    refine ⟨Entries.distinct_put hdistinct _ _ _ _, fun e he => ?_⟩
    rcases Entries.mem_put_cases hdistinct he with hfetch | ⟨hother, hmem⟩
    · rw [Entries.fetch_put] at hfetch
      cases hold : step.before.entries.fetch step.collection.name id with
      | none =>
        rw [hold] at hfetch
        cases hfetch
        exact Entry.dated_new hputs hold doc steps
      | some old =>
        rw [hold] at hfetch
        cases hfetch
        obtain ⟨hmem, hname, hid⟩ := Entries.mem_of_fetch hold
        rw [← hname, ← hid] at hputs
        exact (hdated old hmem).replaced (Entries.isSome_fetch_of_mem hmem) hputs doc
    · exact (hdated e hmem).extend (Entries.isSome_fetch_of_mem hmem) fun hother' =>
        hother (hother'.unique hputs)
  · rw [ht]
    refine ⟨Entries.distinct_filter hdistinct keep, fun e he => ?_⟩
    have hmem := List.mem_of_mem_filter he
    exact (hdated e hmem).extend (Entries.isSome_fetch_of_mem hmem) (hnone _ _)

theorem Course.dated (hempty : s.entries = []) (hcourse : s.Course SameEntries steps t) :
    t.entries.Distinct ∧ ∀ e ∈ t.entries, e.Dated steps := by
  induction hcourse with
  | nil =>
    rw [hempty]
    exact ⟨List.Pairwise.nil, List.forall_mem_nil _⟩
  | event _ happens ih => exact dated_of_happens happens ih.1 ih.2
  | amid _ move ih =>
    rw [move]
    exact ih

end Store

namespace Collection

variable (c : Collection) {es : Entries}

def Shows (doc : Document) (e : Entry) : Prop :=
  doc.id = e.id ∧ doc.createdAt = e.createdAt ∧ doc.updatedAt = e.updatedAt

theorem shows_of_decode {e : Entry} {doc : Document}
    (h : c.decode (Cursor.documentRow e) = .ok doc) : Shows doc e := by
  unfold decode at h
  dsimp only at h
  split at h
  · cases h
    exact ⟨rfl, rfl, rfl⟩
  · cases h

theorem shows_of_decodeAll {docs : List Document}
    (h : c.decodeAll (es.map Cursor.documentRow) = .ok docs) :
    ∀ doc ∈ docs, ∃ e ∈ es, Shows doc e := by
  induction es generalizing docs with
  | nil =>
    cases h
    exact List.forall_mem_nil _
  | cons e rest ih =>
    obtain ⟨first, others, hfirst, hothers, rfl⟩ := c.ok_of_decodeAll h
    refine List.forall_mem_cons.mpr ⟨⟨e, List.mem_cons_self, c.shows_of_decode hfirst⟩, ?_⟩
    intro doc hdoc
    obtain ⟨x, hx, hshows⟩ := ih hothers doc hdoc
    exact ⟨x, List.mem_cons_of_mem e hx, hshows⟩

variable {s t : Store}

theorem shows_of_getDocument {id : String} {doc : Document}
    (h : c.getDocument id s = (.ok (some doc), t)) :
    ∃ e ∈ s.entries, e.collection = c.name ∧ e.id = id ∧ Shows doc e := by
  have hfetched := ((c.getDocument_yields s id).of_ok h).1
  unfold fetched at hfetched
  cases hf : s.entries.fetch c.name id with
  | none =>
    rw [hf] at hfetched
    cases hfetched
  | some e =>
    rw [hf] at hfetched
    dsimp only at hfetched
    obtain ⟨hmem, hname, hid⟩ := Entries.mem_of_fetch hf
    cases hd : c.decode (Cursor.documentRow e) with
    | error x =>
      rw [hd] at hfetched
      cases hfetched
    | ok read =>
      rw [hd] at hfetched
      cases hfetched
      exact ⟨e, hmem, hname, hid, c.shows_of_decode hd⟩

theorem shows_of_findDocuments {filter : Filter} {options : QueryOptions} {docs : List Document}
    (h : c.findDocuments filter options s = (.ok docs, t)) :
    ∀ doc ∈ docs, ∃ e ∈ s.entries, e.collection = c.name ∧ Shows doc e := by
  have hselected := ((c.findDocuments_yields s filter options).of_ok h).1
  unfold selected at hselected
  intro doc hdoc
  cases hp : filter.compile with
  | error x =>
    rw [hp] at hselected
    cases hselected
  | ok p =>
    cases htail : options.tail with
    | error x =>
      rw [hp, htail] at hselected
      cases hselected
    | ok tail =>
      rw [hp, htail] at hselected
      obtain ⟨e, he, hshows⟩ := c.shows_of_decodeAll hselected doc hdoc
      obtain ⟨hmem, hname⟩ := Entries.mem_rows.mp (Entries.mem_rows_of_find he)
      exact ⟨e, hmem, hname, hshows⟩

end Collection

namespace Store

variable {s t : Store} {steps : List CollectionStep}

/-- Every entry of a course is dated by its calls, and a put in the place of an entry keeps when it was
created and says when it was put, be that earlier or later. So if the clock does not step back from
one call to another no entry is updated before it was created or before its last update; and documents
show the times of their entries. -/
theorem times_of_course (hempty : s.entries = []) (hcourse : s.Course SameEntries steps t) :
    (∀ e ∈ t.entries, e.Dated steps) ∧
    (∀ step ∈ steps, ∃ after, step.Happens step.before after ∧ ∀ e ∈ step.before.entries,
      step.Puts e.collection e.id → ∃ new, after.entries.fetch e.collection e.id = some new ∧
        new.createdAt = e.createdAt ∧ new.updatedAt = step.reading) ∧
    (steps.Pairwise (fun a b => a.reading ≤ b.reading) →
      (∀ e ∈ t.entries, e.createdAt ≤ e.updatedAt) ∧
      ∀ step ∈ steps, ∀ e ∈ step.before.entries, e.updatedAt ≤ step.reading) ∧
    (∀ (c : Collection) id doc u, c.getDocument id t = (.ok (some doc), u) →
      ∃ e ∈ t.entries, e.collection = c.name ∧ e.id = id ∧ Collection.Shows doc e) ∧
    ∀ (c : Collection) filter options docs u, c.findDocuments filter options t = (.ok docs, u) →
      ∀ doc ∈ docs, ∃ e ∈ t.entries, e.collection = c.name ∧ Collection.Shows doc e := by
  have hdated := (hcourse.dated hempty).2
  refine ⟨hdated, fun step hmem => ?_, fun hclock => ⟨fun e he => (hdated e he).ordered hclock,
    fun step hmem e he => ?_⟩, fun c id doc u => c.shows_of_getDocument,
    fun c filter options docs u => c.shows_of_findDocuments⟩
  · obtain ⟨earlier, -, after, -, hearlier, hstep⟩ := hcourse.upto hmem
    exact ⟨after, hstep, fun e he => hstep.replaces (hearlier.dated hempty).1 he⟩
  · obtain ⟨earlier, later, after, rfl, hearlier, -⟩ := hcourse.upto hmem
    obtain ⟨last, hlast, hupdated⟩ := ((hearlier.dated hempty).2 e he).exists_updated
    rw [hupdated]
    exact (List.pairwise_append.mp hclock).2.2 last hlast step List.mem_cons_self

/-- The clock steps back between two puts, and the document is updated before it was created. -/
theorem times_of_stepping_back :
    let s : Store := ⟨.initial, .empty, .zero, [], ⟨fun n => if n = 0 then 5 else 3, 0⟩⟩
    let c : Collection := ⟨"notes"⟩
    let t := (CollectionCall.run c (.put "a" (.object [])) s).2
    let u := (CollectionCall.run c (.put "a" (.object [])) t).2
    let steps : List CollectionStep :=
      [⟨s, c, .put "a" (.object []), .ok .done⟩, ⟨t, c, .put "a" (.object []), .ok .done⟩]
    s.Course SameEntries steps u ∧
      ∃ e ∈ u.entries, e.Dated steps ∧ e.createdAt = 5 ∧ e.updatedAt = 3 := by
  intro s c t u steps
  have hfirst : CollectionStep.Happens s ⟨s, c, .put "a" (.object []), .ok .done⟩ t := ⟨rfl, rfl⟩
  have hsecond : CollectionStep.Happens t ⟨t, c, .put "a" (.object []), .ok .done⟩ u := ⟨rfl, rfl⟩
  have hcourse : s.Course SameEntries steps u := .event (.event .nil hfirst) hsecond
  have hentries : u.entries = [⟨"notes", "a", .object [], 5, 3⟩] := by
    have hnew := c.put_of_ok s (show c.put "a" (.object []) s = (.ok (), t) from rfl)
    have hreplaced := c.put_of_ok t (show c.put "a" (.object []) t = (.ok (), u) from rfl)
    rw [hreplaced.2, hnew.2]
    exact if_pos rfl
  have hmem : (⟨"notes", "a", .object [], 5, 3⟩ : Entry) ∈ u.entries :=
    hentries ▸ List.mem_cons_self
  exact ⟨hcourse, _, hmem, (times_of_course rfl hcourse).1 _ hmem, rfl, rfl⟩

end Store

end DocumentGraph
