import DocumentGraph.Proofs.Graph.PartialWrite
import DocumentGraph.Proofs.Graph.Reading
import DocumentGraph.Proofs.Record.Life
set_option autoImplicit false

/-!
# The things of a run

Each call creates, updates or deletes one thing at most and leaves the others as they are, also if it
fails. What is stored under an id is the thing that has come of its life, whatever the clock said and
whatever the engine refused; under an id that no thing lives under nothing is stored, and updating it
gives nothing.
-/

namespace DocumentGraph

open Identifier Operation DocumentGraph.Graph

namespace Graph

def nextId (name : String) (g : Graph) : String :=
  make name ((g.ids.generator.advance g.store.clock.now).suffix (g.ids.tails g.ids.drawn))

/-- The thing that is created at an id, or at a new one; to make that the clock is read first. -/
def firstThing (g : Graph) (type : String) (data : Json) : Option String → Thing
  | some id => .first id type (membersOf data) g.store.clock.now
  | none =>
    .first (g.nextId (Unicode.lowercase type)) type (membersOf data) g.store.clock.advance.now

def isUnmatched (g : Graph) (q : Question) : Bool :=
  match g.matcher with
  | some m =>
    match m q with
    | .ok candidates => (Candidate.best q.threshold candidates).isNone
    | .error _ => false
  | none => false

def createsFor (g : Graph) (type text : String) (data : Option Json)
    (threshold : Option Binary64) : Bool :=
  g.isUnmatched (g.question type text threshold) && decide (type ≠ "") &&
    (dataOf text data).isObject

end Graph

/-- What a call does to a thing when it comes to write one. -/
def GraphCall.event? (g : Graph) : GraphCall → Option ThingEvent
  | createThing type data id => some (.created (g.firstThing type data id))
  | updateThing id changes => some (.updated id ⟨membersOf changes, g.store.clock.now⟩)
  | deleteThing id => some (.deleted id)
  | fuzzyRelate _ _ type text data threshold =>
    if g.createsFor type text data threshold then
      some (.created (g.firstThing type (dataOf text data) none))
    else none
  | _ => none

namespace GraphStep

/-- After the call another record of a thing lies under the id, or none where there was one, or one
where there was none. -/
def Alters (s : GraphStep) (id : String) : Prop :=
  (s.call.run s.before).2.entries.fetch thingCollection.name id ≠
    s.before.entries.fetch thingCollection.name id

theorem alters_iff {g h : Graph} {call : GraphCall} {outcome : Except StoreError GraphReply}
    {id : String} (hx : call.run g = (outcome, h)) :
    (⟨g, call, outcome⟩ : GraphStep).Alters id ↔
      h.entries.fetch thingCollection.name id ≠ g.entries.fetch thingCollection.name id := by
  rw [Alters, hx]

theorem alters_of_map {α : Type} {f : Entry → α} {g h : Graph} {call : GraphCall}
    {outcome : Except StoreError GraphReply} {id : String} (hx : call.run g = (outcome, h))
    (hne : (h.entries.fetch thingCollection.name id).map f ≠
      (g.entries.fetch thingCollection.name id).map f) :
    (⟨g, call, outcome⟩ : GraphStep).Alters id :=
  (alters_iff hx).mpr (ne_of_apply_ne (Option.map f) hne)

open Classical in
/-- What the step did to a thing. A call that ended well did it, unless it says that there was no
thing; a call that failed did it if the record is another one afterwards. -/
noncomputable def event? (s : GraphStep) : Option ThingEvent :=
  match s.outcome, s.call.event? s.before with
  | .ok (.foundThing none), _ => none
  | .ok (.flag false), _ => none
  | .ok _, e => e
  | .error _, none => none
  | .error _, some e => if s.Alters e.id then some e else none

theorem event?_of_none {s : GraphStep} (h : s.call.event? s.before = none) : s.event? = none := by
  unfold event?
  rw [h]
  split <;> simp_all

theorem event?_of_altered {g : Graph} {call : GraphCall} {d : StoreError} {e : ThingEvent}
    (he : call.event? g = some e) (h : (⟨g, call, .error d⟩ : GraphStep).Alters e.id) :
    (⟨g, call, .error d⟩ : GraphStep).event? = some e := by
  simp only [event?, he]
  exact if_pos h

theorem event?_of_unaltered {g : Graph} {call : GraphCall} {d : StoreError}
    (h : ∀ e, call.event? g = some e → ¬ (⟨g, call, .error d⟩ : GraphStep).Alters e.id) :
    (⟨g, call, .error d⟩ : GraphStep).event? = none := by
  cases he : call.event? g with
  | none => exact event?_of_none he
  | some e =>
    simp only [event?, he]
    exact if_neg (h e he)

theorem call_event? {s : GraphStep} {e : ThingEvent} (h : s.event? = some e) :
    s.call.event? s.before = some e := by
  unfold event? at h
  split at h
  · cases h
  · cases h
  · exact h
  · cases h
  · next he =>
    obtain ⟨-, h⟩ := Option.ite_none_right_eq_some.mp h
    exact he.trans h

end GraphStep

def ThingEvent.WellFormed : ThingEvent → Prop
  | created t => (Json.object t.data).WellFormed
  | updated _ c => (Json.object c.members).WellFormed
  | deleted _ => True

def GraphCall.ThingDataWellFormed : GraphCall → Prop
  | createThing _ data _ => data.WellFormed
  | updateThing _ changes => changes.WellFormed
  | fuzzyRelate _ _ _ _ data _ => ∀ j, data = some j → j.WellFormed
  | _ => True

namespace Graph

variable {g h k : Graph} {id : String}

def stored (id : String) (g : Graph) : Option Json :=
  (g.entries.fetch thingCollection.name id).map (·.data)

/-- The thing of one id was written or removed; the other things are as before. -/
structure Rewrites (id : String) (doc : Option Json) (g h : Graph) : Prop where
  stored : h.stored id = doc
  others : ∀ k, k ≠ id →
    h.entries.fetch thingCollection.name k = g.entries.fetch thingCollection.name k

theorem fetch_of_rows {name : String} {es es' : Entries} (hrows : es.rows name = es'.rows name)
    (id : String) : es.fetch name id = es'.fetch name id := by
  rw [Entries.fetch_rows, Entries.fetch_rows, hrows]

theorem fetch_of_put {name : String} {doc : Json} {now : Int64}
    (hrows : h.rows name = (g.entries.put name id doc now).rows name) :
    (h.entries.fetch name id).map (·.data) = some doc ∧
      ∀ k, k ≠ id → h.entries.fetch name k = g.entries.fetch name k := by
  refine ⟨?_, fun k hk => ?_⟩
  · rw [fetch_of_rows hrows, Entries.data_fetch_put]
  · rw [fetch_of_rows hrows, Entries.fetch_put_of_ne hk]

theorem Rewrites.of_put {doc : Json} {now : Int64}
    (hrows : h.rows thingCollection.name =
      (g.entries.put thingCollection.name id doc now).rows thingCollection.name) :
    Rewrites id (some doc) g h :=
  ⟨(fetch_of_put hrows).1, (fetch_of_put hrows).2⟩

theorem Rewrites.of_remove
    (hrows : h.rows thingCollection.name =
      (g.entries.remove thingCollection.name id).rows thingCollection.name) :
    Rewrites id none g h := by
  refine ⟨?_, fun k hk => ?_⟩
  · rw [Graph.stored, fetch_of_rows hrows, Entries.fetch_remove]
    rfl
  · rw [fetch_of_rows hrows, Entries.fetch_remove_of_ne hk]

theorem Rewrites.after {doc : Option Json} (hw : Rewrites id doc k h)
    (hrows : k.rows thingCollection.name = g.rows thingCollection.name) : Rewrites id doc g h :=
  ⟨hw.stored, fun x hx => (hw.others x hx).trans (fetch_of_rows hrows x)⟩

theorem Rewrites.before {doc : Option Json} (hw : Rewrites id doc g k)
    (hrows : h.rows thingCollection.name = k.rows thingCollection.name) : Rewrites id doc g h := by
  refine ⟨?_, fun x hx => (fetch_of_rows hrows x).trans (hw.others x hx)⟩
  rw [Graph.stored, fetch_of_rows hrows]
  exact hw.stored

def Puts (t : Thing) (g h : Graph) : Prop :=
  ∃ now, h.rows thingCollection.name =
    (g.entries.put thingCollection.name t.id (Record.document t) now).rows thingCollection.name

theorem Puts.rewrites {t : Thing} (hp : Puts t g h) :
    Rewrites t.id (some (Record.document t)) g h := by
  obtain ⟨now, hrows⟩ := hp
  exact .of_put hrows

theorem Puts.after {t : Thing} (hp : Puts t k h) (he : k.entries = g.entries) : Puts t g h := by
  obtain ⟨now, hrows⟩ := hp
  exact ⟨now, he ▸ hrows⟩

theorem Puts.before {t : Thing} (hp : Puts t g k)
    (hrows : h.rows thingCollection.name = k.rows thingCollection.name) : Puts t g h := by
  obtain ⟨now, hput⟩ := hp
  exact ⟨now, hrows.trans hput⟩

theorem Puts.shelf {t : Thing} (hp : Puts t g h)
    (hids : (g.entries.shelf thingCollection.name).ids.Nodup) :
    h.entries.shelf thingCollection.name =
      (g.entries.shelf thingCollection.name).put t.id (Record.document t) := by
  obtain ⟨now, hrows⟩ := hp
  rw [← Entries.shelf_put_self hids _ _ now]
  exact congrArg (List.map Entries.pair) hrows

theorem putLogged_puts {α : Type} {a b : α} {t : Thing} {entry : ActionEntry} (hx : (do
    onStore (thingCollection.putRecord t)
    let _ ← log entry
    return a : GraphM α) g = (.ok b, h)) :
    b = a ∧ Puts t g h := by
  obtain ⟨w, k, hput, hx⟩ := ok_of_bind hx
  obtain ⟨x, l, hlog, hx⟩ := ok_of_bind hx
  cases hx
  refine ⟨rfl, _, Eq.trans ?_ (congrArg _ (entries_putRecord hput))⟩
  exact (spares_log (by decide) entry k _ h hlog).2

theorem failed_of_bind {α β : Type} {m : GraphM α} {f : α → GraphM β} {e : StoreError} {P : Prop}
    (hm : Reads m) (hx : (m >>= f) g = (.error e, h))
    (hf : ∀ a k, m g = (.ok a, k) → k.entries = g.entries → f a k = (.error e, h) →
      h.rows thingCollection.name = k.rows thingCollection.name ∨ P) :
    h.rows thingCollection.name = g.rows thingCollection.name ∨ P := by
  rcases error_of_bind hx with hx | ⟨a, k, hk, hx⟩
  · exact .inl (congrArg (Entries.rows _) (hm g _ h hx).2)
  · have he : k.entries = g.entries := (hm g _ k hk).2
    exact (hf a k hk he hx).imp_left fun hrows => hrows.trans (congrArg (Entries.rows _) he)

theorem putLogged_of_error {α : Type} {a : α} {t : Thing} {entry : ActionEntry} {e : StoreError}
    (hx : (do
      onStore (thingCollection.putRecord t)
      let _ ← log entry
      return a : GraphM α) g = (.error e, h)) :
    h.rows thingCollection.name = g.rows thingCollection.name ∨ Puts t g h := by
  rcases error_of_bind hx with hput | ⟨u, k, hput, hx⟩
  · exact .inl (congrArg (Entries.rows _) (entries_of_putRecord_error hput))
  · refine .inr ⟨_, Eq.trans ?_ (congrArg _ (entries_putRecord hput))⟩
    exact (spares_log (by decide) entry k _ h (error_of_map hx)).2

variable {type : String} {data : Json} {given : Option String}

theorem newId_eq {name : String} (hx : newId name g = (.ok id, h)) :
    id = g.nextId name ∧ h.entries = g.entries ∧ h.store.clock = g.store.clock.advance := by
  have he := (reads_newId name g _ h hx).2
  rw [newId_apply] at hx
  cases hx
  exact ⟨rfl, he, rfl⟩

theorem createThing_creates {t : Thing} (hx : createThing type data given g = (.ok t, h)) :
    data.isObject = true ∧ type ≠ "" ∧ t = g.firstThing type data given ∧ Puts t g h := by
  obtain ⟨u, g₁, hdata, hx⟩ := ok_of_bind hx
  obtain ⟨v, g₂, htype, hx⟩ := ok_of_bind hx
  obtain ⟨hobject, rfl⟩ := Prod.mk.inj hdata
  obtain ⟨hnonempty, rfl⟩ := Prod.mk.inj htype
  have hwrite {id : String} {k : Graph} (hk : k.entries = g.entries) (hx : (do
      let t := Thing.first id type (membersOf data) (← now)
      onStore (thingCollection.putRecord t)
      let _ ← log (.about "created" t.id)
      return t : GraphM Thing) k = (.ok t, h)) :
      t = .first id type (membersOf data) k.store.clock.now ∧ Puts t g h := by
    obtain ⟨time, l, htime, hx⟩ := ok_of_bind hx
    have hl : l.entries = g.entries := (reads_now _ _ _ htime).2.trans hk
    cases htime
    obtain ⟨rfl, hp⟩ := putLogged_puts hx
    exact ⟨rfl, hp.after hl⟩
  refine ⟨validDocument_eq_ok.mp hobject, ?_, ?_⟩
  · rintro rfl
    cases hnonempty
  · cases given with
    | some id =>
      obtain ⟨x, k, hcheck, hx⟩ := ok_of_bind hx
      obtain ⟨-, rfl⟩ := Prod.mk.inj hcheck
      exact hwrite rfl hx
    | none =>
      obtain ⟨id, k, hid, hx⟩ := ok_of_bind hx
      obtain ⟨rfl, he, hclock⟩ := newId_eq hid
      rw [firstThing, ← hclock]
      exact hwrite he hx

theorem createThing_of_error {e : StoreError} (hx : createThing type data given g = (.error e, h)) :
    h.rows thingCollection.name = g.rows thingCollection.name ∨
      (type ≠ "" ∧ data.isObject = true) ∧ Puts (g.firstThing type data given) g h := by
  refine failed_of_bind (reads_check _) hx fun u g₁ hdata _ hx => ?_
  obtain ⟨hobject, rfl⟩ := Prod.mk.inj hdata
  refine failed_of_bind (reads_check _) hx fun v g₂ htype _ hx => ?_
  obtain ⟨hnonempty, rfl⟩ := Prod.mk.inj htype
  have harguments : type ≠ "" ∧ data.isObject = true := by
    refine ⟨?_, validDocument_eq_ok.mp hobject⟩
    rintro rfl
    cases hnonempty
  have hwrite {id : String} {k : Graph} (hk : k.entries = g.entries) (hx : (do
      let t := Thing.first id type (membersOf data) (← now)
      onStore (thingCollection.putRecord t)
      let _ ← log (.about "created" t.id)
      return t : GraphM Thing) k = (.error e, h)) :
      h.rows thingCollection.name = k.rows thingCollection.name ∨
        Puts (.first id type (membersOf data) k.store.clock.now) g h := by
    refine failed_of_bind reads_now hx fun time l htime hl hx => ?_
    cases htime
    exact (putLogged_of_error hx).imp_right fun hp => hp.after (hl.trans hk)
  cases given with
  | some id =>
    refine failed_of_bind (reads_check _) hx fun x k hcheck hk hx => ?_
    obtain ⟨-, rfl⟩ := Prod.mk.inj hcheck
    exact (hwrite hk hx).imp_right fun hp => ⟨harguments, hp⟩
  | none =>
    refine failed_of_bind (reads_newId _) hx fun id k hid hk hx => ?_
    obtain ⟨rfl, -, hclock⟩ := newId_eq hid
    rw [firstThing, ← hclock]
    exact (hwrite hk hx).imp_right fun hp => ⟨harguments, hp⟩

variable {changes : Json} {old t : Thing} {found : Option Thing}

theorem thing_of_ok (hx : thing id g = (.ok found, h)) :
    thingCollection.recordAt id g.entries = .ok found ∧ h.entries = g.entries ∧
      h.store.clock = g.store.clock := by
  have he := (reads_thing id g _ h hx).2
  have hr := getRecord_of_ok thingCollection hx
  obtain ⟨s, hget, rfl⟩ := onStore_eq hx
  exact ⟨hr, he, thingCollection.timeless_getRecord id _ _ _ hget⟩

theorem thing_of_ready (hready : g.store.Ready) (id : String) :
    ∃ h, thing id g = (thingCollection.recordAt id g.entries, h) :=
  getRecord_of_ready thingCollection hready id

theorem recordAt_of_stored (hold : g.stored id = some (Record.document old))
    (hwf : (Json.object old.data).WellFormed)
    (hfound : thingCollection.recordAt id g.entries = .ok found) : found = some old :=
  thingCollection.recordAt_of_ok hold old.ofDocument_document (old.wellFormed_document hwf) hfound

theorem recordAt_of_shallow (hold : g.stored id = some (Record.document old))
    (hwf : (Json.object old.data).WellFormed) (hshallow : old.IsShallow) :
    thingCollection.recordAt id g.entries = .ok (some old) :=
  thingCollection.recordAt_document hold old.ofDocument_document
    ⟨old.wellFormed_document hwf, old.depth_document_le_iff.mpr hshallow⟩

theorem recordAt_of_none (habsent : g.stored id = none) :
    thingCollection.recordAt id g.entries = .ok (none : Option Thing) :=
  thingCollection.recordAt_of_absent (Option.map_eq_none_iff.mp habsent)

/-- An update ends well only if its changes are an object; it changes the thing that is stored, or
there is none. -/
theorem updateThing_of_ok (hx : updateThing id changes g = (.ok found, h)) :
    changes.isObject = true ∧ ∃ r : Option Thing, thingCollection.recordAt id g.entries = .ok r ∧
      (r = none → found = none ∧ h.entries = g.entries) ∧
      ∀ old, r = some old →
        let t := old.changed (membersOf changes) g.store.clock.now
        found = some t ∧ Rewrites t.id (some (Record.document t)) g h := by
  obtain ⟨u, g₁, hdata, hx⟩ := ok_of_bind hx
  obtain ⟨hobject, rfl⟩ := Prod.mk.inj hdata
  obtain ⟨r, k, hthing, hx⟩ := ok_of_bind hx
  obtain ⟨hr, hk, hclock⟩ := thing_of_ok hthing
  refine ⟨validDocument_eq_ok.mp hobject, r, hr, ?_, ?_⟩
  · rintro rfl
    cases hx
    exact ⟨rfl, hk⟩
  · rintro old rfl
    obtain ⟨time, l, htime, hx⟩ := ok_of_bind hx
    have hl : l.entries = g.entries := (reads_now _ _ _ htime).2.trans hk
    cases htime
    obtain ⟨rfl, hp⟩ := putLogged_puts hx
    rw [← hclock]
    exact ⟨rfl, (hp.after hl).rewrites⟩

theorem updateThing_of_error {e : StoreError} (hx : updateThing id changes g = (.error e, h)) :
    h.rows thingCollection.name = g.rows thingCollection.name ∨
      ∃ old : Thing, thingCollection.recordAt id g.entries = .ok (some old) ∧
        Puts (old.changed (membersOf changes) g.store.clock.now) g h := by
  refine failed_of_bind (reads_check _) hx fun u g₁ hdata _ hx => ?_
  obtain ⟨-, rfl⟩ := Prod.mk.inj hdata
  refine failed_of_bind (reads_thing id) hx fun r k hthing hk hx => ?_
  obtain ⟨hr, -, hclock⟩ := thing_of_ok hthing
  cases r with
  | none => cases hx
  | some old =>
    refine failed_of_bind reads_now hx fun time l htime hl hx => ?_
    cases htime
    rw [← hclock]
    exact (putLogged_of_error hx).imp_right fun hp => ⟨old, hr, hp.after (hl.trans hk)⟩

theorem updateThing_of_not_object (hchanges : changes.isObject = false) (id : String) (g : Graph) :
    updateThing id changes g = (.error (.invalidDocument changes.kindName), g) := by
  refine bind_of_error ?_
  rw [check, validDocument, hchanges]
  rfl

theorem updateThing_of_none (hx : updateThing id changes g = (.ok none, h)) :
    thingCollection.recordAt id g.entries = .ok (none : Option Thing) ∧ h.entries = g.entries := by
  obtain ⟨-, r, hr, hnone, hsome⟩ := updateThing_of_ok hx
  cases r with
  | none => exact ⟨hr, (hnone rfl).2⟩
  | some old => cases (hsome old rfl).1

theorem updateThing_of_absent (habsent : g.stored id = none) (ms : List (String × Json))
    (hready : g.store.Ready) : ∃ h, updateThing id (.object ms) g = (.ok none, h) := by
  obtain ⟨h, hthing⟩ := thing_of_ready hready id
  rw [recordAt_of_none habsent] at hthing
  have hcheck : check (validDocument (.object ms)) g = (.ok (), g) := rfl
  exact ⟨h, (bind_of_ok hcheck).trans (bind_of_ok hthing)⟩

theorem remove_of_absent {name : String} {es : Entries} (h : es.fetch name id = none) :
    es.remove name id = es := by
  refine List.filter_eq_self.mpr fun e he => ?_
  simpa using List.find?_eq_none.mp h e he

theorem spares_removed (id : String) (there : Bool) :
    Spares thingCollection.name (if there then do
      let _ ← onStore (relationshipCollection.deleteWhere (Relationship.touching id))
      let _ ← log (.about "deleted" id)
      return true
    else return false) := by
  have hR := frames_spares thingCollection.name
  split
  · exact hR.bind (spares_onStore (Collection.spares_deleteWhere (by decide) _)) fun _ =>
      hR.map (spares_log (by decide) _) _
  · exact hR.pure _

theorem deleteThing_of_ok {b : Bool} (hx : deleteThing id g = (.ok b, h)) :
    b = (g.stored id).isSome ∧ (b = true → Rewrites id none g h) ∧
      (b = false → h.entries = g.entries) := by
  obtain ⟨there, k, hthing, hx⟩ := ok_of_bind hx
  obtain ⟨s, hdelete, rfl⟩ := onStore_eq hthing
  obtain ⟨hthere, -, hs⟩ := (thingCollection.delete_yields g.store id).of_ok hdelete
  have hremoved : Rewrites id none g { g with store := s } :=
    .of_remove (congrArg (Entries.rows _) hs)
  have hrest := (spares_removed id there _ _ h hx).2
  obtain rfl : b = there := by
    cases there with
    | false =>
      cases hx
      rfl
    | true =>
      obtain ⟨n, l, -, hx⟩ := ok_of_bind hx
      obtain ⟨a, l', -, hx⟩ := ok_of_bind hx
      cases hx
      rfl
  obtain rfl := Except.ok.inj hthere
  rw [stored, Option.isSome_map]
  refine ⟨rfl, fun _ => hremoved.before hrest, fun hfalse => ?_⟩
  rw [hfalse] at hx
  cases hx
  exact hs.trans (remove_of_absent (Option.not_isSome_iff_eq_none.mp (by simp [hfalse])))

theorem deleteThing_of_error {e : StoreError} (hx : deleteThing id g = (.error e, h)) :
    h.rows thingCollection.name = g.rows thingCollection.name ∨ Rewrites id none g h := by
  rcases error_of_bind hx with hthing | ⟨there, k, hthing, hx⟩
  · obtain ⟨s, hdelete, rfl⟩ := onStore_eq hthing
    obtain ⟨-, ⟨hr, -⟩ | ⟨-, hs⟩⟩ := (thingCollection.delete_yields g.store id).of_error hdelete
    · cases hr
    · exact .inl (congrArg (Entries.rows _) hs)
  · obtain ⟨s, hdelete, rfl⟩ := onStore_eq hthing
    obtain ⟨-, -, hs⟩ := (thingCollection.delete_yields g.store id).of_ok hdelete
    have hremoved : Rewrites id none g { g with store := s } :=
      .of_remove (congrArg (Entries.rows _) hs)
    exact .inr (hremoved.before (spares_removed id there _ _ h hx).2)

variable {source verb text : String} {payload : Option Json} {threshold : Option Binary64}

theorem isUnmatched_iff {q : Question} : g.isUnmatched q = true ↔ g.Unmatched q := by
  unfold isUnmatched Unmatched
  cases g.matcher with
  | none => simp
  | some m => cases hq : m q <;> simp [hq, Option.isNone_iff_eq_none]

theorem ask_spares {r : Except StoreError (Binary64 × List Candidate)}
    (hx : ask type text threshold g = (r, h)) : h.store = g.store ∧ h.ids = g.ids := by
  unfold ask at hx
  split at hx
  · cases hx
    exact ⟨rfl, rfl⟩
  · dsimp only at hx
    split at hx <;>
    · cases hx
      exact ⟨rfl, rfl⟩

theorem firstThing_congr (hstore : h.store = g.store) (hids : h.ids = g.ids) :
    h.firstThing type data given = g.firstThing type data given := by
  cases given with
  | some id => rw [firstThing, firstThing, hstore]
  | none => rw [firstThing, firstThing, nextId, nextId, hstore, hids]

theorem createsFor_iff : g.createsFor type text payload threshold = true ↔
    g.Unmatched (g.question type text threshold) ∧ type ≠ "" ∧
      (dataOf text payload).isObject = true := by
  rw [createsFor, Bool.and_eq_true, Bool.and_eq_true, isUnmatched_iff, decide_eq_true_eq, and_assoc]

theorem unmatched_iff {asked : Except StoreError (Binary64 × List Candidate)}
    (hask : ask type text threshold g = (asked, k)) :
    g.Unmatched (g.question type text threshold) ↔
      ∃ t candidates, asked = .ok (t, candidates) ∧ Candidate.best t candidates = none := by
  constructor
  · intro hq
    obtain ⟨candidates, l, hasked, hnone⟩ := ask_of_unmatched hq
    cases hask.symm.trans hasked
    exact ⟨_, candidates, rfl, hnone⟩
  · rintro ⟨t, candidates, rfl, hnone⟩
    obtain ⟨rfl, m, hm, hanswer⟩ := ask_of_ok hask
    exact ⟨m, candidates, hm, hanswer, hnone⟩

theorem createRelated_things {r : Except StoreError FuzzyRelation}
    (hx : createRelated source verb type data g = (r, h)) :
    (∃ e, r = .error e) ∧ h.rows thingCollection.name = g.rows thingCollection.name ∨
      (type ≠ "" ∧ data.isObject = true) ∧ Puts (g.firstThing type data none) g h := by
  obtain ⟨made, k, hcreate⟩ : ∃ made k, createThing type data none g = (made, k) := ⟨_, _, rfl⟩
  cases made with
  | error e =>
    cases (bind_of_error hcreate).symm.trans hx
    exact (createThing_of_error hcreate).imp_left fun hrows => ⟨⟨e, rfl⟩, hrows⟩
  | ok thing =>
    obtain ⟨hdata, htype, rfl, hp⟩ := createThing_creates hcreate
    have hspares := spares_relateFound (show relationshipCollection.name ≠ thingCollection.name
      by decide) (by decide) source verb true (g.firstThing type data none)
    have hrest := (hspares k _ h ((bind_of_ok hcreate).symm.trans hx)).2
    exact .inr ⟨⟨htype, hdata⟩, hp.before hrest⟩

/-- Either no thing is written, because the matcher finds one or the call fails before; or a thing is
created first, whatever happens then. -/
theorem fuzzyRelate_things {r : Except StoreError FuzzyRelation}
    (hx : fuzzyRelate source verb type text payload threshold g = (r, h)) :
    (g.createsFor type text payload threshold = false ∨ ∃ e, r = .error e) ∧
        h.rows thingCollection.name = g.rows thingCollection.name ∨
      g.createsFor type text payload threshold = true ∧
        Puts (g.firstThing type (dataOf text payload) none) g h := by
  obtain ⟨asked, k, hask⟩ : ∃ asked k, ask type text threshold g = (asked, k) := ⟨_, _, rfl⟩
  have hk : k.entries = g.entries := (reads_ask type text threshold g _ k hask).2
  have hrows : k.rows thingCollection.name = g.rows thingCollection.name :=
    congrArg (Entries.rows _) hk
  rw [← Bool.not_eq_true, createsFor_iff, unmatched_iff hask]
  cases asked with
  | error e =>
    cases (bind_of_error hask).symm.trans hx
    exact .inl ⟨.inr ⟨e, rfl⟩, hrows⟩
  | ok asked =>
    obtain ⟨t, candidates⟩ := asked
    cases hbest : Candidate.best t candidates with
    | some c =>
      rw [fuzzyRelate_of_some hask hbest] at hx
      have hspares := spares_relateFound (show relationshipCollection.name ≠ thingCollection.name
        by decide) (by decide) source verb false c.thing
      refine .inl ⟨.inl fun ⟨⟨t, candidates, hok, hnone⟩, _⟩ => ?_, (hspares k _ h hx).2.trans hrows⟩
      cases hok
      cases hbest.symm.trans hnone
    | none =>
      rw [fuzzyRelate_of_none hask hbest] at hx
      obtain ⟨hstore, hids⟩ := ask_spares hask
      rw [← firstThing_congr hstore hids]
      rcases createRelated_things hx with ⟨herror, hsame⟩ | ⟨hmade, hp⟩
      · exact .inl ⟨.inr herror, hsame.trans hrows⟩
      · exact .inr ⟨⟨⟨t, candidates, rfl, hbest⟩, hmade⟩, hp.after hk⟩

variable {events : List ThingEvent} {e : ThingEvent}

/-- Under every id the graph holds what has come of the life there, and data that can be written. -/
structure Lived (g : Graph) (events : List ThingEvent) : Prop where
  stored : ∀ id, g.stored id = (lifeOf id events).map fun l => Record.document l.thing
  named : ∀ id l, lifeOf id events = some l → l.thing.id = id
  wellFormed : ∀ id l, lifeOf id events = some l → (Json.object l.thing.data).WellFormed

def lifeAfter (e : ThingEvent) (events : List ThingEvent) : Option Life :=
  e.after e.id (lifeOf e.id events)

/-- The event happened between the graphs, after the others. -/
def Happens (e : ThingEvent) (events : List ThingEvent) (g h : Graph) : Prop :=
  Rewrites e.id ((lifeAfter e events).map fun l => Record.document l.thing) g h

theorem lifeAfter_created (t : Thing) (events : List ThingEvent) :
    lifeAfter (.created t) events = some ⟨t, []⟩ := if_pos rfl

theorem lifeAfter_updated (id : String) (c : ThingChange) (events : List ThingEvent) :
    lifeAfter (.updated id c) events = (lifeOf id events).map (·.extended c) := if_pos rfl

theorem lifeAfter_deleted (id : String) (events : List ThingEvent) :
    lifeAfter (.deleted id) events = none := if_pos rfl

theorem Lived.named_lifeAfter (hg : g.Lived events) {l : Life} (hl : lifeAfter e events = some l) :
    l.thing.id = e.id := by
  cases e with
  | created t =>
    rw [lifeAfter_created] at hl
    cases hl
    rfl
  | updated id c =>
    rw [lifeAfter_updated] at hl
    obtain ⟨m, hm, rfl⟩ := Option.map_eq_some_iff.mp hl
    rw [m.thing_extended]
    exact hg.named id m hm
  | deleted id =>
    rw [lifeAfter_deleted] at hl
    cases hl

theorem Lived.wellFormed_lifeAfter (hg : g.Lived events) (he : e.WellFormed) {l : Life}
    (hl : lifeAfter e events = some l) : (Json.object l.thing.data).WellFormed := by
  cases e with
  | created t =>
    rw [lifeAfter_created] at hl
    cases hl
    exact he
  | updated id c =>
    rw [lifeAfter_updated] at hl
    obtain ⟨m, hm, rfl⟩ := Option.map_eq_some_iff.mp hl
    rw [m.thing_extended]
    exact Thing.wellFormed_changed _ _ (hg.wellFormed id m hm) he
  | deleted id =>
    rw [lifeAfter_deleted] at hl
    cases hl

theorem Lived.of_fetch (hg : g.Lived events)
    (hsame : ∀ id, h.entries.fetch thingCollection.name id = g.entries.fetch thingCollection.name id) :
    h.Lived events := by
  refine ⟨fun id => ?_, hg.named, hg.wellFormed⟩
  rw [Graph.stored, hsame]
  exact hg.stored id

theorem Lived.snoc (hg : g.Lived events) (he : Happens e events g h) (hwf : e.WellFormed) :
    h.Lived (events ++ [e]) := by
  have hself : lifeOf e.id (events ++ [e]) = lifeAfter e events := lifeOf_snoc _ _ _
  have hother {id : String} (hid : e.id ≠ id) : lifeOf id (events ++ [e]) = lifeOf id events :=
    (lifeOf_snoc _ _ _).trans (ThingEvent.after_of_ne hid _)
  refine ⟨fun id => ?_, fun id l hl => ?_, fun id l hl => ?_⟩ <;> by_cases hid : e.id = id
  · subst hid
    rw [hself]
    exact he.stored
  · rw [Graph.stored, he.others id (Ne.symm hid), hother hid]
    exact hg.stored id
  · subst hid
    exact hg.named_lifeAfter (hself ▸ hl)
  · exact hg.named id l (hother hid ▸ hl)
  · subst hid
    exact hg.wellFormed_lifeAfter hwf (hself ▸ hl)
  · exact hg.wellFormed id l (hother hid ▸ hl)

theorem Puts.happens {t : Thing} (hp : Puts t g h) : Happens (.created t) events g h := by
  rw [Happens, lifeAfter_created]
  exact hp.rewrites

theorem wellFormed_membersOf {data : Json} (hwf : data.WellFormed) :
    (Json.object (membersOf data)).WellFormed := by
  cases data with
  | object ms => exact hwf
  | _ => exact ⟨.nil, trivial⟩

theorem wellFormed_dataOf {text : String} {data : Option Json}
    (hwf : ∀ j, data = some j → j.WellFormed) : (dataOf text data).WellFormed := by
  cases data with
  | none => exact ⟨List.pairwise_singleton _ _, trivial, trivial⟩
  | some j => exact hwf j rfl

theorem wellFormed_firstThing (hwf : data.WellFormed) (type : String) (given : Option String) :
    (Json.object (g.firstThing type data given).data).WellFormed := by
  cases given <;> exact wellFormed_membersOf hwf

theorem Lived.recordAt (hg : g.Lived events)
    (hr : thingCollection.recordAt id g.entries = .ok found) :
    found = (lifeOf id events).map Life.thing := by
  have hstored := hg.stored id
  cases hlife : lifeOf id events with
  | none =>
    rw [hlife] at hstored
    rw [recordAt_of_none hstored] at hr
    cases hr
    rfl
  | some l =>
    rw [hlife] at hstored
    exact recordAt_of_stored hstored (hg.wellFormed id l hlife) hr

theorem Lived.happens_changed (hg : g.Lived events) {c : ThingChange}
    (hr : thingCollection.recordAt id g.entries = .ok (some old))
    (hw : Rewrites (old.changed c.members c.time).id
      (some (Record.document (old.changed c.members c.time))) g h) :
    Happens (.updated id c) events g h := by
  obtain ⟨l, hlife, hl⟩ := Option.map_eq_some_iff.mp (hg.recordAt hr).symm
  subst hl
  have hid : (l.thing.changed c.members c.time).id = id := hg.named id l hlife
  rw [Happens, lifeAfter_updated, hlife]
  simp only [Option.map_some, l.thing_extended]
  exact hid ▸ hw

theorem happens_deleted (hw : Rewrites id none g h) : Happens (.deleted id) events g h := by
  rw [Happens, lifeAfter_deleted]
  exact hw

end Graph

theorem GraphCall.wellFormed_event? {call : GraphCall} {g : Graph} {e : ThingEvent}
    (hdata : call.ThingDataWellFormed) (he : call.event? g = some e) : e.WellFormed := by
  cases call with
  | createThing type data id =>
    cases he
    exact wellFormed_firstThing hdata type id
  | updateThing id changes =>
    cases he
    exact wellFormed_membersOf hdata
  | deleteThing id =>
    cases he
    trivial
  | fuzzyRelate source verb type text data threshold =>
    obtain ⟨-, he⟩ := Option.ite_none_right_eq_some.mp he
    cases he
    exact wellFormed_firstThing (wellFormed_dataOf hdata) type none
  | _ => cases he

/-- However a call ends, it writes no thing or what it does to one happens. What a call that ended
well did is the event of the step. -/
def GraphStep.Writes (s : GraphStep) (events : List ThingEvent) (h : Graph) : Prop :=
  (h.rows thingCollection.name = s.before.rows thingCollection.name ∧
      (s.event? = none ∨ ∃ e, s.outcome = .error e)) ∨
    ∃ e, s.call.event? s.before = some e ∧ Happens e events s.before h ∧
      (s.event? = some e ∨ ∃ e, s.outcome = .error e)

namespace GraphCall

variable {g h : Graph} {events : List ThingEvent} {outcome : Except StoreError GraphReply}

theorem writes_createThing {type : String} {data : Json} {id : Option String}
    (hx : (createThing type data id).run g = (outcome, h)) :
    (⟨g, createThing type data id, outcome⟩ : GraphStep).Writes events h := by
  cases outcome with
  | error e =>
    refine (createThing_of_error (error_of_map hx)).imp (fun hrows => ⟨hrows, .inr ⟨e, rfl⟩⟩) ?_
    exact fun ⟨_, hp⟩ => ⟨_, rfl, hp.happens, .inr ⟨e, rfl⟩⟩
  | ok reply =>
    obtain ⟨t, hcreate, rfl⟩ := value_of_map hx
    obtain ⟨-, -, rfl, hp⟩ := createThing_creates hcreate
    exact .inr ⟨_, rfl, hp.happens, .inl rfl⟩

theorem writes_updateThing {id : String} {changes : Json} (hg : g.Lived events)
    (hx : (updateThing id changes).run g = (outcome, h)) :
    (⟨g, updateThing id changes, outcome⟩ : GraphStep).Writes events h := by
  cases outcome with
  | error e =>
    refine (updateThing_of_error (error_of_map hx)).imp (fun hrows => ⟨hrows, .inr ⟨e, rfl⟩⟩) ?_
    exact fun ⟨old, hr, hp⟩ => ⟨_, rfl, hg.happens_changed hr hp.rewrites, .inr ⟨e, rfl⟩⟩
  | ok reply =>
    obtain ⟨found, hupdate, rfl⟩ := value_of_map hx
    obtain ⟨-, r, hr, hnone, hsome⟩ := updateThing_of_ok hupdate
    cases r with
    | none =>
      obtain ⟨rfl, he⟩ := hnone rfl
      exact .inl ⟨congrArg (Entries.rows _) he, .inl rfl⟩
    | some old =>
      obtain ⟨rfl, hw⟩ := hsome old rfl
      exact .inr ⟨_, rfl, hg.happens_changed hr hw, .inl rfl⟩

theorem writes_deleteThing {id : String} (hx : (deleteThing id).run g = (outcome, h)) :
    (⟨g, deleteThing id, outcome⟩ : GraphStep).Writes events h := by
  cases outcome with
  | error e =>
    refine (deleteThing_of_error (error_of_map hx)).imp (fun hrows => ⟨hrows, .inr ⟨e, rfl⟩⟩) ?_
    exact fun hw => ⟨_, rfl, happens_deleted hw, .inr ⟨e, rfl⟩⟩
  | ok reply =>
    obtain ⟨b, hdelete, rfl⟩ := value_of_map hx
    obtain ⟨-, htrue, hfalse⟩ := deleteThing_of_ok hdelete
    cases b with
    | false => exact .inl ⟨congrArg (Entries.rows _) (hfalse rfl), .inl rfl⟩
    | true => exact .inr ⟨_, rfl, happens_deleted (htrue rfl), .inl rfl⟩

theorem writes_fuzzyRelate {source verb type text : String} {data : Option Json}
    {threshold : Option Binary64}
    (hx : (fuzzyRelate source verb type text data threshold).run g = (outcome, h)) :
    (⟨g, fuzzyRelate source verb type text data threshold, outcome⟩ : GraphStep).Writes events h := by
  obtain ⟨r, hfuzzy⟩ := exists_of_map hx
  have hends : (∃ e, outcome = .error e) ∨ (∃ f, outcome = .ok (.fuzzy f)) ∧ ∃ f, r = .ok f := by
    cases outcome with
    | error e => exact .inl ⟨e, rfl⟩
    | ok reply =>
      obtain ⟨f, hf, rfl⟩ := value_of_map hx
      exact .inr ⟨⟨f, rfl⟩, f, congrArg Prod.fst (hfuzzy.symm.trans hf)⟩
  rcases fuzzyRelate_things hfuzzy with ⟨hnot, hrows⟩ | ⟨hcreates, hp⟩
  · refine .inl ⟨hrows, ?_⟩
    rcases hends with herror | ⟨⟨f, rfl⟩, k, rfl⟩
    · exact .inr herror
    · have hcreates := hnot.resolve_right fun ⟨e, he⟩ => by cases he
      exact .inl (by simp [GraphStep.event?, event?, hcreates])
  · refine .inr ⟨_, if_pos hcreates, hp.happens, ?_⟩
    rcases hends with herror | ⟨⟨f, rfl⟩, -⟩
    · exact .inr herror
    · exact .inl (if_pos hcreates)

theorem run_writes {call : GraphCall} (hg : g.Lived events) (hx : call.run g = (outcome, h)) :
    (⟨g, call, outcome⟩ : GraphStep).Writes events h := by
  cases call with
  | createThing type data id => exact writes_createThing hx
  | updateThing id changes => exact writes_updateThing hg hx
  | deleteThing id => exact writes_deleteThing hx
  | fuzzyRelate source verb type text data threshold => exact writes_fuzzyRelate hx
  | elsewhere name outside call =>
    refine .inl ⟨(run_spares (not_mem_writes_elsewhere (by decide)) g _ h hx).2, ?_⟩
    cases outcome with
    | error e => exact .inr ⟨e, rfl⟩
    | ok reply =>
      obtain ⟨r, -, rfl⟩ := value_of_map hx
      exact .inl rfl
  | _ =>
    -- Every other call spares the things.
    refine .inl ⟨(run_spares ?_ g _ h hx).2, ?_⟩
    · simp [writes, relationshipCollection, thingCollection, actionCollection, nounCollection,
        verbCollection]
    · cases outcome with
      | error e => exact .inr ⟨e, rfl⟩
      | ok reply => exact .inl (GraphStep.event?_of_none rfl)

end GraphCall

theorem GraphCall.run_things {g h : Graph} {events : List ThingEvent} {call : GraphCall}
    {outcome : Except StoreError GraphReply} (hg : g.Lived events) (hx : call.run g = (outcome, h)) :
    let s : GraphStep := ⟨g, call, outcome⟩
    (s.event? = none ∧ ∀ id,
        h.entries.fetch thingCollection.name id = g.entries.fetch thingCollection.name id) ∨
      ∃ e, s.event? = some e ∧ call.event? g = some e ∧ Happens e events g h := by
  intro s
  rcases run_writes hg hx with ⟨hrows, hevent⟩ | ⟨e, he, hhappens, hevent⟩
  · have hsame := fetch_of_rows hrows
    refine .inl ⟨?_, hsame⟩
    rcases hevent with hnone | ⟨e, rfl⟩
    · exact hnone
    · exact GraphStep.event?_of_unaltered fun e _ halter =>
      (GraphStep.alters_iff hx).mp halter (hsame e.id)
  · rcases hevent with hsome | ⟨d, rfl⟩
    · exact .inr ⟨e, hsome, he, hhappens⟩
    · by_cases halter : s.Alters e.id
      · exact .inr ⟨e, GraphStep.event?_of_altered he halter, he, hhappens⟩
      · refine .inl ⟨GraphStep.event?_of_unaltered fun e' he' => ?_, fun id => ?_⟩
        · cases he.symm.trans he'
          exact halter
        · by_cases hid : id = e.id
          · rw [hid]
            exact not_not.mp (mt (GraphStep.alters_iff hx).mpr halter)
          · exact hhappens.others id hid

theorem GraphCall.run_others {g h : Graph} {events : List ThingEvent} {call : GraphCall}
    {outcome : Except StoreError GraphReply} {id : String} (hg : g.Lived events)
    (hx : call.run g = (outcome, h)) (hid : ∀ e, call.event? g = some e → e.id ≠ id) :
    h.entries.fetch thingCollection.name id = g.entries.fetch thingCollection.name id := by
  rcases run_writes hg hx with ⟨hrows, -⟩ | ⟨e, he, hhappens, -⟩
  · exact fetch_of_rows hrows id
  · exact hhappens.others id (Ne.symm (hid e he))

namespace Graph

theorem lived_ofStore {store : Store} (tails : Nat → Nat)
    (hempty : store.entries.rows thingCollection.name = []) : (ofStore store tails).Lived [] := by
  refine ⟨fun id => ?_, nofun, nofun⟩
  have hrows : (ofStore store tails).entries.rows thingCollection.name = [] := hempty
  rw [Graph.stored, Entries.fetch_rows, hrows]
  rfl

theorem Trace.lived {start g : Graph} {steps : List GraphStep} (htrace : start.Trace steps g)
    (hstart : start.Lived []) (hdata : ∀ s ∈ steps, s.call.ThingDataWellFormed) :
    g.Lived (steps.filterMap GraphStep.event?) := by
  induction htrace with
  | nil => exact hstart
  | snoc init step ih =>
    obtain ⟨hdata, hwf⟩ := List.forall_mem_append.mp hdata
    have hg := ih hdata
    rw [List.filterMap_append]
    rcases GraphCall.run_things hg step with ⟨hevent, hsame⟩ | ⟨e, hevent, he, hhappens⟩
    · rw [List.filterMap_cons_none hevent, List.filterMap_nil, List.append_nil]
      exact hg.of_fetch hsame
    · rw [List.filterMap_cons_some hevent, List.filterMap_nil]
      exact hg.snoc hhappens (GraphCall.wellFormed_event? (hwf _ List.mem_cons_self) he)

/-- What a call did although it failed, it did because the engine refused a later statement, unless
the call relates by similarity. -/
theorem Trace.outcome_of_event {start g : Graph} {steps : List GraphStep}
    (htrace : start.Trace steps g) {s : GraphStep} (hs : s ∈ steps) {e : ThingEvent}
    (he : s.event? = some e) (hfuzzy : s.call.isFuzzy = false) :
    (∃ reply, s.outcome = .ok reply) ∨ ∃ d, s.outcome = .error (.storage d) := by
  obtain ⟨before, call, outcome⟩ := s
  obtain ⟨h, hx⟩ := htrace.run_of_mem _ hs
  cases outcome with
  | ok reply => exact .inl ⟨reply, rfl⟩
  | error f =>
    refine .inr (by_contra fun hcalm => ?_)
    have hrows := GraphCall.rows_of_error (show thingCollection.name ∈ collectionNames by decide)
      hfuzzy hx fun d hd => hcalm ⟨d, congrArg Except.error hd⟩
    have hnone : (⟨before, call, .error f⟩ : GraphStep).event? = none :=
      GraphStep.event?_of_unaltered fun e _ halter =>
        (GraphStep.alters_iff hx).mp halter (fetch_of_rows hrows e.id)
    rw [hnone] at he
    cases he

theorem exists_firstThing {s : GraphStep} {t : Thing} (h : s.event? = some (.created t)) :
    ∃ type data given, t = s.before.firstThing type data given := by
  have hcall := GraphStep.call_event? h
  obtain ⟨before, call, outcome⟩ := s
  cases call with
  | createThing type data id =>
    cases hcall
    exact ⟨_, _, _, rfl⟩
  | fuzzyRelate source verb type text data threshold =>
    obtain ⟨-, hcall⟩ := Option.ite_none_right_eq_some.mp hcall
    cases hcall
    exact ⟨_, _, _, rfl⟩
  | _ => cases hcall

theorem firstThing_fresh (g : Graph) (type : String) (data : Json) (given : Option String) :
    (g.firstThing type data given).version = 1 ∧
      (g.firstThing type data given).createdAt = (g.firstThing type data given).updatedAt := by
  cases given <;> exact ⟨rfl, rfl⟩

variable {g : Graph} {events : List ThingEvent} {id : String} {l : Life}

/-- The thing is what has come of a life: it is stored and it is what reading gives, unless it nests
too deep; an update with an object merges this over its data and never puts the time of the last
update back. -/
structure Holds (g : Graph) (id : String) (l : Life) (t : Thing) : Prop where
  makes : l.Makes t
  named : t.id = id
  stored : g.stored id = some (Record.document t)
  exact : ∀ r h, thing id g = (.ok r, h) → r = some t
  complete : g.store.Ready → t.IsShallow → ∃ h, thing id g = (.ok (some t), h)
  updated : ∀ ms r h, updateThing id (.object ms) g = (.ok r, h) →
    ∃ u, r = some u ∧ h.stored id = some (Record.document u) ∧ t.updatedAt ≤ u.updatedAt ∧
      ((ms.map (·.1)).Nodup → ∀ key,
        Json.lookup key u.data = (Json.lookup key ms).or (Json.lookup key t.data))

/-- Nothing is stored, and an update with an object gives nothing and changes nothing. -/
structure Lacks (g : Graph) (id : String) : Prop where
  stored : g.stored id = none
  unchanged : g.store.Ready → ∀ ms,
    ∃ h, updateThing id (.object ms) g = (.ok none, h) ∧ h.entries = g.entries

theorem Lived.holds (hg : g.Lived events) (hl : Lives id events l) (hversion : l.first.version = 1)
    (htimes : l.first.createdAt ≤ l.first.updatedAt) : g.Holds id l l.thing := by
  have hlife := lifeOf_eq_some.mpr hl
  have hwf := hg.wellFormed id l hlife
  have hstored : g.stored id = some (Record.document l.thing) := by
    rw [hg.stored, hlife]
    rfl
  refine ⟨Life.makes_thing hversion htimes, hg.named id l hlife, hstored, fun r h hx => ?_,
    fun hready hshallow => ?_, fun ms r h hx => ?_⟩
  · exact recordAt_of_stored hstored hwf (thing_of_ok hx).1
  · rw [← recordAt_of_shallow hstored hwf hshallow]
    exact thing_of_ready hready id
  · obtain ⟨-, x, hx, -, hsome⟩ := updateThing_of_ok hx
    obtain rfl : x = some l.thing := recordAt_of_stored hstored hwf hx
    obtain ⟨hr, hw⟩ := hsome l.thing rfl
    refine ⟨_, hr, ?_, l.thing.updatedAt_le_changed _ _, fun hkeys => ?_⟩
    · exact hg.named id l hlife ▸ hw.stored
    · exact l.thing.lookup_changed hkeys _

theorem Lived.lacks (hg : g.Lived events) (hnone : ∀ l, ¬ Lives id events l) : g.Lacks id := by
  have hstored : g.stored id = none := by
    rw [hg.stored, lifeOf_eq_none.mpr hnone]
    rfl
  refine ⟨hstored, fun hready ms => ?_⟩
  obtain ⟨h, hx⟩ := updateThing_of_absent hstored ms hready
  exact ⟨h, hx, (updateThing_of_none hx).2⟩

theorem run_of_fst {α : Type} {m : GraphM α} {g : Graph} {r : Except StoreError α}
    (h : (m g).1 = r) : m g = (r, (m g).2) :=
  Prod.ext h rfl

theorem eq_error_of_isOk {α : Type} {x : Except StoreError α} (h : x.isOk = false) :
    ∃ e, x = .error e := by
  cases x with
  | error e => exact ⟨e, rfl⟩
  | ok a => cases h

theorem eq_ok_of_join {α : Type} {x : Except StoreError (Option α)} {a : α}
    (h : x.toOption.join = some a) : x = .ok (some a) := by
  cases x with
  | error e => cases h
  | ok found => exact congrArg Except.ok h

end Graph

end DocumentGraph
