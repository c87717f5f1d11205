import DocumentGraph.Proofs.Graph.Edges
import DocumentGraph.Proofs.Graph.Session
set_option autoImplicit false

/-!
# Traversal

Following the edges under a verb gives the things at their other ends as they are stored now, one for
each edge and in the order of the edges; an end without a thing is passed over. So a thing occurs as
often as there are edges to it, whichever end one starts from. A thing that was deleted does not occur
until a call creates it again, and edges that are related later come later.
-/

namespace DocumentGraph

open Identifier Operation DocumentGraph.Graph

namespace Graph

variable {g h k : Graph} {id : String}

def current (g : Graph) (id : String) : Option Thing :=
  (g.stored id).bind fun doc => (Record.ofDocument doc).toOption

theorem current_of_stored {t : Thing} (ht : g.stored id = some (Record.document t)) :
    g.current id = some t := by
  rw [current, ht, Option.bind_some, Thing.ofDocument_document]
  rfl

theorem current_of_none (hnone : g.stored id = none) : g.current id = none := by
  rw [current, hnone, Option.bind_none]

theorem current_of_entries (he : h.entries = g.entries) (id : String) :
    h.current id = g.current id := by
  rw [current, stored, he, current, stored]

theorem hasThing_eq (id : String) (g : Graph) : g.hasThing id = (g.stored id).isSome := by
  rw [stored, Option.isSome_map]
  rfl

theorem toList_append_filterMap {α β : Type} (f : α → Option β) (a : α) (list : List α) :
    (f a).toList ++ list.filterMap f = (a :: list).filterMap f := by
  cases hfa : f a with
  | none => rw [List.filterMap_cons_none hfa, Option.toList_none, List.nil_append]
  | some b => rw [List.filterMap_cons_some hfa, Option.toList_some, List.singleton_append]

section Stocked

variable (hs : Stocked thingCollection.name g.entries)

include hs

theorem stored_of_current {t : Thing} (ht : g.current id = some t) :
    t.id = id ∧ g.stored id = some (Record.document t) ∧ (Record.document t).WellFormed := by
  cases hdoc : g.stored id with
  | none =>
    rw [current_of_none hdoc] at ht
    cases ht
  | some doc =>
    obtain ⟨r, hkey, rfl, hwf⟩ := Stocked.exists_of_fetch (α := Thing) hs hdoc
    rw [current_of_stored hdoc] at ht
    cases ht
    exact ⟨hkey, rfl, hwf⟩

theorem isSome_current (id : String) : (g.current id).isSome = g.hasThing id := by
  rw [hasThing_eq]
  cases hdoc : g.stored id with
  | none =>
    rw [current_of_none hdoc]
    rfl
  | some doc =>
    obtain ⟨t, -, rfl, -⟩ := Stocked.exists_of_fetch (α := Thing) hs hdoc
    rw [current_of_stored hdoc]
    rfl

theorem thing_exact {found : Option Thing} (hx : thing id g = (.ok found, h)) :
    found = g.current id := by
  rcases Stocked.found_of_recordAt (α := Thing) hs (thing_of_ok hx).1 with
    ⟨hnone, rfl⟩ | ⟨t, ht, -, rfl, -⟩
  · exact (current_of_none hnone).symm
  · exact (current_of_stored ht).symm

theorem thing_complete (hready : g.store.Ready) (hshallow : ∀ t, g.current id = some t → t.IsShallow) :
    ∃ h, thing id g = (.ok (g.current id), h) := by
  obtain ⟨h, hx⟩ := thing_of_ready hready id
  refine ⟨h, ?_⟩
  cases hcurrent : g.current id with
  | none =>
    have hnone : g.stored id = none := by
      rw [← Option.not_isSome_iff_eq_none, ← hasThing_eq, ← isSome_current hs, hcurrent]
      exact Bool.false_ne_true
    rw [hx, recordAt_of_none hnone]
  | some t =>
    obtain ⟨-, ht, hwf⟩ := stored_of_current hs hcurrent
    have hlegible : (Record.document t).Legible :=
      ⟨hwf, t.depth_document_le_iff.mpr (hshallow t hcurrent)⟩
    rw [hx, thingCollection.recordAt_document ht t.ofDocument_document hlegible]

theorem thing_deep (hready : g.store.Ready) {t : Thing} (ht : g.current id = some t)
    (hdeep : ¬ t.IsShallow) :
    ∃ cause h, thing id g = (.error (.corrupted thingCollection.name id (.unreadable cause)), h) := by
  obtain ⟨-, hstored, -⟩ := stored_of_current hs ht
  have hdepth : readingLimit < (Record.document t).depth :=
    Nat.lt_of_not_le fun hle => hdeep (t.depth_document_le_iff.mp hle)
  exact getRecord_of_deep (α := Thing) hs hready hstored hdepth

theorem thingsAt_exact {ids : List String} {ts : List Thing} (hx : thingsAt ids g = (.ok ts, h)) :
    ts = ids.filterMap g.current := by
  induction ids generalizing g ts with
  | nil =>
    cases hx
    rfl
  | cons id rest ih =>
    obtain ⟨found, k, hthing, hx⟩ := ok_of_bind hx
    obtain ⟨others, l, hrest, hx⟩ := ok_of_bind hx
    cases hx
    have hk : k.entries = g.entries := (reads_thing id g _ k hthing).2
    obtain rfl := thing_exact hs hthing
    obtain rfl := ih (hk ▸ hs) hrest
    rw [funext (current_of_entries hk)]
    exact toList_append_filterMap g.current id rest

theorem thingsAt_complete {ids : List String} (hready : g.store.Ready)
    (hshallow : ∀ id ∈ ids, ∀ t, g.current id = some t → t.IsShallow) :
    ∃ h, thingsAt ids g = (.ok (ids.filterMap g.current), h) := by
  induction ids generalizing g with
  | nil => exact ⟨g, rfl⟩
  | cons id rest ih =>
    obtain ⟨hid, hrest⟩ := List.forall_mem_cons.mp hshallow
    obtain ⟨k, hthing⟩ := thing_complete hs hready hid
    obtain ⟨hp, hk⟩ := reads_thing id g _ k hthing
    have hcurrent := funext (current_of_entries hk)
    obtain ⟨h, hothers⟩ := ih (hk ▸ hs) (hp.keeps.ready hready) (hcurrent ▸ hrest)
    refine ⟨h, (bind_of_ok hthing).trans ((bind_of_ok hothers).trans ?_)⟩
    rw [hcurrent, ← toList_append_filterMap g.current id rest]
    rfl

theorem thingsAt_deep {before : List String} (after : List String) {t : Thing}
    (hready : g.store.Ready)
    (hshallow : ∀ id ∈ before, ∀ t, g.current id = some t → t.IsShallow)
    (ht : g.current id = some t) (hdeep : ¬ t.IsShallow) :
    ∃ cause h, thingsAt (before ++ id :: after) g =
      (.error (.corrupted thingCollection.name id (.unreadable cause)), h) := by
  induction before generalizing g with
  | nil =>
    obtain ⟨cause, h, hx⟩ := thing_deep hs hready ht hdeep
    exact ⟨cause, h, bind_of_error hx⟩
  | cons first rest ih =>
    obtain ⟨hfirst, hrest⟩ := List.forall_mem_cons.mp hshallow
    obtain ⟨k, hthing⟩ := thing_complete hs hready hfirst
    obtain ⟨hp, hk⟩ := reads_thing first g _ k hthing
    have hcurrent := funext (current_of_entries hk)
    obtain ⟨cause, h, hx⟩ := ih (hk ▸ hs) (hp.keeps.ready hready) (hcurrent ▸ hrest) (hcurrent ▸ ht)
    exact ⟨cause, h, (bind_of_ok hthing).trans (bind_of_error hx)⟩

end Stocked

/-- The operation gives the things at the far ends of the edges as they are stored, in order and one
for each edge that leads to a thing, unless an edge or one of these things nests too deep; then it is
an error about the first edge that does, or else about the first such thing. -/
structure Follows (m : GraphM (List Thing)) (g : Graph) (edges : List Relationship)
    (far : Relationship → String) : Prop where
  exact : ∀ ts h, m g = (.ok ts, h) → ts = edges.filterMap fun r => g.current (far r)
  complete : g.store.Ready → (∀ r ∈ edges, r.IsShallow) →
    (∀ r ∈ edges, ∀ t, g.current (far r) = some t → t.IsShallow) →
      ∃ h, m g = (.ok (edges.filterMap fun r => g.current (far r)), h)
  deepEdge : g.store.Ready → ∀ before r after, edges = before ++ r :: after →
    (∀ b ∈ before, b.IsShallow) → ¬ r.IsShallow →
      ∃ cause h, m g =
        (.error (.corrupted relationshipCollection.name r.id (.unreadable cause)), h)
  deepThing : g.store.Ready → (∀ r ∈ edges, r.IsShallow) →
    ∀ before r after, edges = before ++ r :: after →
      (∀ b ∈ before, ∀ t, g.current (far b) = some t → t.IsShallow) →
        ∀ t, g.current (far r) = some t → ¬ t.IsShallow →
          ∃ cause h, m g = (.error (.corrupted thingCollection.name t.id (.unreadable cause)), h)
  unchanged : ∀ r h, m g = (r, h) → h.entries = g.entries

theorem follows_of_shows {m : GraphM (List Relationship)} {edges : List Relationship}
    {far : Relationship → String} (hs : Stocked thingCollection.name g.entries)
    (hm : Shows m g edges) (hreads : Reads m) (hfar : ∀ r, far (Relationship.readBack r) = far r) :
    Follows (m >>= fun es => thingsAt (es.map far)) g edges far := by
  have hends : (edges.map Relationship.readBack).map far = edges.map far := by
    rw [List.map_map]
    exact List.map_congr_left fun r _ => hfar r
  have hfound : (edges.map far).filterMap (g.current) =
      edges.filterMap fun r => g.current (far r) := List.filterMap_map
  refine ⟨fun ts h hx => ?_, fun hready hedges hthings => ?_, fun hready before r after hsplit hb hr => ?_,
    fun hready hedges before r after hsplit hb t ht hdeep => ?_, fun r h hx => ?_⟩
  · obtain ⟨es, k, hedges, hx⟩ := ok_of_bind hx
    obtain rfl := hm.exact es k hedges
    have hk : k.entries = g.entries := (hreads g _ k hedges).2
    have hts := thingsAt_exact (hk ▸ hs) hx
    rw [hends, funext (current_of_entries hk)] at hts
    exact hts.trans hfound
  · obtain ⟨k, hx⟩ := hm.complete hready hedges
    obtain ⟨hp, hk⟩ := hreads g _ k hx
    have hcurrent := funext (current_of_entries hk)
    have hshallow : ∀ id ∈ edges.map far, ∀ t, k.current id = some t → t.IsShallow := by
      intro id hid t ht
      obtain ⟨r, hr, rfl⟩ := List.mem_map.mp hid
      exact hthings r hr t (hcurrent ▸ ht)
    obtain ⟨h, hts⟩ := thingsAt_complete (hk ▸ hs) (hp.keeps.ready hready) hshallow
    refine ⟨h, (bind_of_ok hx).trans ?_⟩
    rw [hends, hts, hcurrent, hfound]
  · obtain ⟨cause, h, hx⟩ := hm.deep hready before r after hsplit hb hr
    exact ⟨cause, h, bind_of_error hx⟩
  · obtain ⟨k, hx⟩ := hm.complete hready hedges
    obtain ⟨hp, hk⟩ := hreads g _ k hx
    have hcurrent := funext (current_of_entries hk)
    have hshallow : ∀ id ∈ before.map far, ∀ t, k.current id = some t → t.IsShallow := by
      intro id hid t ht
      obtain ⟨b, hmem, rfl⟩ := List.mem_map.mp hid
      exact hb b hmem t (hcurrent ▸ ht)
    obtain ⟨cause, h, herror⟩ := thingsAt_deep (hk ▸ hs) (after.map far)
      (hp.keeps.ready hready) hshallow (hcurrent ▸ ht) hdeep
    rw [(stored_of_current hs ht).1]
    refine ⟨cause, h, (bind_of_ok hx).trans ?_⟩
    rw [hends, hsplit, List.map_append, List.map_cons, herror]
  · exact (hreads.bind (fun es => frames_reads.thingsAt (es.map far)) g r h hx).2

/-- A thing occurs once for each edge that leads to it. -/
theorem countP_current {edges : List Relationship} (far : Relationship → String)
    (hs : Stocked thingCollection.name g.entries) (id : String) :
    (edges.filterMap fun r => g.current (far r)).countP (fun t => t.id = id) =
      if g.hasThing id then edges.countP (fun r => far r = id) else 0 := by
  have hleads (r : Relationship) : ((g.current (far r)).map fun t => decide (t.id = id)).getD false =
      (decide (far r = id) && g.hasThing id) := by
    cases hcurrent : g.current (far r) with
    | none =>
      have hnone : g.hasThing (far r) = false := by rw [← isSome_current hs, hcurrent]; rfl
      by_cases hid : far r = id
      · rw [← hid, hnone, Bool.and_false]
        rfl
      · simp [hid]
    | some t =>
      have hsome : g.hasThing (far r) = true := by rw [← isSome_current hs, hcurrent]; rfl
      rw [Option.map_some, Option.getD_some, (stored_of_current hs hcurrent).1]
      by_cases hid : far r = id
      · rw [← hid, hsome, Bool.and_true]
      · simp [hid]
  rw [List.countP_filterMap, List.countP_congr fun r _ => by rw [hleads r]]
  cases g.hasThing id <;> simp

end Graph

/-- A call that may store a thing where there was none. -/
def GraphCall.creates : GraphCall → Bool
  | createThing _ _ _ | fuzzyRelate _ _ _ _ _ _ => true
  | _ => false

namespace Graph

variable {g h : Graph} {id : String}

theorem hasThing_of_rows (hrows : h.rows thingCollection.name = g.rows thingCollection.name)
    (id : String) : h.hasThing id = g.hasThing id :=
  congrArg Option.isSome (fetch_of_rows hrows id)

def StaysAbsent (id : String) (g h : Graph) : Prop := g.hasThing id = false → h.hasThing id = false

theorem StaysAbsent.of_rows (hrows : h.rows thingCollection.name = g.rows thingCollection.name) :
    StaysAbsent id g h :=
  fun hg => (hasThing_of_rows hrows id).trans hg

theorem frames_staysAbsent (id : String) : Frames (StaysAbsent id) :=
  frames_of_spared (fun hgh hhk hg => hhk (hgh hg)) fun _ hrows => .of_rows hrows

variable {α : Type} {m : GraphM α}

theorem staysAbsent_of_spares (hm : Spares thingCollection.name m) : Steps (StaysAbsent id) m :=
  fun g r h hx => .of_rows (hm g r h hx).2

theorem staysAbsent_putRecord {t : Thing} (hid : Record.key t ≠ id) :
    Steps (StaysAbsent id) (onStore (thingCollection.putRecord t)) := by
  intro g r h hx hg
  obtain ⟨s, hput, rfl⟩ := onStore_eq hx
  cases hw : writable (Record.key t) (Record.document t) with
  | error e =>
    cases (thingCollection.put_rejected g.store hw).symm.trans hput
    exact hg
  | ok u =>
    obtain ⟨-, he | he⟩ := (thingCollection.put_yields g.store hw).state hput
    · change (s.entries.fetch _ id).isSome = false
      rw [he, Entries.fetch_put_of_ne (Ne.symm hid)]
      exact hg
    · change (s.entries.fetch _ id).isSome = false
      rw [he]
      exact hg

theorem staysAbsent_delete (other : String) :
    Steps (StaysAbsent id) (onStore (thingCollection.delete other)) := by
  intro g r h hx hg
  obtain ⟨s, hdelete, rfl⟩ := onStore_eq hx
  change (s.entries.fetch _ id).isSome = false
  obtain ⟨-, he | he⟩ := (thingCollection.delete_yields g.store other).state hdelete
  · rw [he]
    by_cases hid : id = other
    · rw [hid, Entries.fetch_remove]
      rfl
    · rw [Entries.fetch_remove_of_ne hid]
      exact hg
  · rw [he]
    exact hg

end Graph

theorem GraphCall.run_staysAbsent {g h : Graph} {id : String} {call : GraphCall}
    {outcome : Except StoreError GraphReply} (hs : Stocked thingCollection.name g.entries)
    (hcreates : call.creates = false) (hx : call.run g = (outcome, h)) : StaysAbsent id g h := by
  have hR := frames_staysAbsent id
  have hlog (entry : ActionEntry) : Steps (StaysAbsent id) (Graph.log entry) :=
    staysAbsent_of_spares (spares_log (by decide) entry)
  cases call with
  | createThing type data id => cases hcreates
  | fuzzyRelate source v type text data threshold => cases hcreates
  | updateThing other changes =>
    intro hg
    obtain ⟨q, hupdate⟩ := exists_of_map hx
    refine hR.updateThing (fun old k hold time => ?_) (hlog _) hupdate hg
    -- The thing that is changed is there, so it is another one.
    obtain ⟨hid, hstored, -⟩ := stored_of_current hs (thing_exact hs hold).symm
    refine staysAbsent_putRecord ?_
    rintro rfl
    rw [show Record.key (old.changed _ time) = other from hid, hasThing_eq, hstored] at hg
    cases hg
  | deleteThing other =>
    have hedges : Spares thingCollection.name
        (onStore (relationshipCollection.deleteWhere (Relationship.touching other))) :=
      spares_onStore (Collection.spares_deleteWhere (by decide) _)
    exact hR.map (hR.deleteThing (staysAbsent_delete other) (staysAbsent_of_spares hedges) (hlog _)) _
      g _ h hx
  | elsewhere name outside call =>
    exact staysAbsent_of_spares (run_spares (not_mem_writes_elsewhere (by decide))) g _ h hx
  | _ =>
    refine staysAbsent_of_spares (run_spares ?_) g _ h hx
    simp [writes, relationshipCollection, thingCollection, actionCollection, nounCollection,
      verbCollection]

/-- The call of the step put a thing under an id where there was none. -/
structure GraphStep.Revives (id : String) (s : GraphStep) : Prop where
  creates : s.call.creates = true
  before : s.before.hasThing id = false
  after : ∃ h, s.call.run s.before = (s.outcome, h) ∧ h.hasThing id = true

namespace Graph

/-- What was deleted is there again only if a later step has created it. -/
theorem Session.revived {guarded : List String} {steps : List GraphStep} {g : Graph}
    (hsession : Session guarded steps g) (hguarded : guarded ⊆ collectionNames)
    (hthings : thingCollection.name ∈ guarded) (hwf : ∀ s ∈ steps, s.call.WellFormed) {id : String}
    {earlier later : List GraphStep} {s : GraphStep} (hsplit : steps = earlier ++ s :: later)
    (hcall : s.call = .deleteThing id) (hdeleted : s.outcome = .ok (.flag true))
    (hthere : g.hasThing id = true) : ∃ again ∈ later, again.Revives id := by
  induction hsession generalizing later with
  | opened store tails empty => cases List.nil_eq_append_iff.mp hsplit |>.2
  | @called steps g h call outcome init step ih =>
    obtain ⟨hinit, hlast⟩ := List.forall_mem_append.mp hwf
    rcases List.eq_nil_or_concat later with rfl | ⟨rest, last, rfl⟩
    · -- The thing was deleted by the last step.
      obtain ⟨-, hs⟩ := List.append_inj' hsplit rfl
      obtain rfl := List.singleton_inj.mp hs
      obtain rfl : call = .deleteThing id := hcall
      obtain rfl : outcome = .ok (.flag true) := hdeleted
      obtain ⟨b, k, hdelete, hpure⟩ := ok_of_bind step
      cases hpure
      have hnone := ((deleteThing_of_ok hdelete).2.1 rfl).stored
      rw [hasThing_eq, hnone] at hthere
      cases hthere
    · rw [List.concat_eq_append, ← List.cons_append, ← List.append_assoc] at hsplit
      obtain ⟨hsteps, hs⟩ := List.append_inj' hsplit rfl
      obtain rfl := List.singleton_inj.mp hs
      rw [List.concat_eq_append]
      cases hg : g.hasThing id with
      | true =>
        obtain ⟨again, hmem, hagain⟩ := ih hinit hsteps hg
        exact ⟨again, List.mem_append_left _ hmem, hagain⟩
      | false =>
        refine ⟨_, List.mem_append_right _ List.mem_cons_self, ?_, hg, h, step, hthere⟩
        have hstocked := init.stocked hguarded hinit hthings
        by_contra hcreates
        rw [GraphCall.run_staysAbsent hstocked (Bool.not_eq_true _ ▸ hcreates) step hg] at hthere
        cases hthere
  | amid store init same ih =>
    exact ih hwf hsplit ((hasThing_of_rows (same _ hthings).symm id).trans hthere)
  | @renewed steps g store tails init same ih =>
    have hrows : g.rows thingCollection.name = (ofStore store tails).rows thingCollection.name :=
      (same _ hthings).symm
    exact ih hwf hsplit ((hasThing_of_rows hrows id).trans hthere)

variable {g h k : Graph}

def edgeIds (g : Graph) : List String := (g.entries.shelf relationshipCollection.name).ids

def Numbered (g : Graph) : Prop := g.Timely ∧ ∀ id ∈ g.edgeIds, g.Made "rel" id

/-- The edges that are still there come first, in the order that they had, and then those that have
come since, under new ids. -/
def Grows (g h : Graph) : Prop :=
  ∃ kept added, h.edgeIds = kept ++ added ∧ kept.Sublist g.edgeIds ∧
    ∀ id ∈ added, h.Made "rel" id ∧ ∀ old, g.Made "rel" old → old ≠ id

theorem Grows.of_sublist (hsub : h.edgeIds.Sublist g.edgeIds) : Grows g h :=
  ⟨h.edgeIds, [], (List.append_nil _).symm, hsub, List.forall_mem_nil _⟩

theorem Grows.of_rows (hrows : h.rows relationshipCollection.name = g.rows relationshipCollection.name) :
    Grows g h := by
  have hids : h.edgeIds = g.edgeIds := congrArg (fun es => (es.map Entries.pair).map (·.1)) hrows
  exact .of_sublist (hids ▸ .refl _)

theorem Grows.trans (hgh : Grows g h) (hhk : Grows h k) (hpg : g.Precedes h) (hph : h.Precedes k) :
    Grows g k := by
  obtain ⟨kept, added, hids, hsub, hnew⟩ := hgh
  obtain ⟨kept', added', hids', hsub', hnew'⟩ := hhk
  rw [hids] at hsub'
  obtain ⟨first, second, rfl, hfirst, hsecond⟩ := List.sublist_append_iff.mp hsub'
  refine ⟨first, second ++ added', hids'.trans (List.append_assoc _ _ _), hfirst.trans hsub, ?_⟩
  intro id hid
  rcases List.mem_append.mp hid with hid | hid
  · obtain ⟨hmade, hfresh⟩ := hnew id (hsecond.subset hid)
    exact ⟨hmade.mono hph, hfresh⟩
  · obtain ⟨hmade, hfresh⟩ := hnew' id hid
    exact ⟨hmade, fun old hold => hfresh old (hold.mono hpg)⟩

theorem Numbered.of_grows (hg : g.Numbered) (hp : g.Precedes h) (hgrows : Grows g h) : h.Numbered := by
  obtain ⟨kept, added, hids, hsub, hnew⟩ := hgrows
  refine ⟨hp.timely hg.1, fun id hid => ?_⟩
  rw [hids] at hid
  rcases List.mem_append.mp hid with hid | hid
  · exact (hg.2 id (hsub.subset hid)).mono hp
  · exact (hnew id hid).1

theorem Numbered.not_mem_added (hg : g.Numbered) {id : String}
    (hfresh : ∀ old, g.Made "rel" old → old ≠ id) : id ∉ g.edgeIds :=
  fun hid => hfresh id (hg.2 id hid) rfl

def Progress (g h : Graph) : Prop := g.Precedes h ∧ (g.Numbered → Grows g h)

theorem Progress.trans (hgh : Progress g h) (hhk : Progress h k) : Progress g k := by
  refine ⟨hgh.1.trans hhk.1, fun hg => ?_⟩
  have hgrows := hgh.2 hg
  exact hgrows.trans (hhk.2 (hg.of_grows hgh.1 hgrows)) hgh.1 hhk.1

variable {α : Type} {m : GraphM α}

theorem progress_of_spares (hm : Spares relationshipCollection.name m) : Steps Progress m := by
  intro g r h hx
  obtain ⟨hp, hrows⟩ := hm g r h hx
  exact ⟨hp, fun _ => .of_rows hrows⟩

theorem frames_progress : Frames Progress :=
  frames_of_spared .trans fun hp hrows => ⟨hp, fun _ => .of_rows hrows⟩

theorem progress_deleteWhere (filter : Filter) :
    Steps Progress (onStore (relationshipCollection.deleteWhere filter)) := by
  intro g r h hx
  obtain ⟨s, hdelete, rfl⟩ := onStore_eq hx
  cases hp : filter.compile with
  | error e =>
    cases (relationshipCollection.deleteWhere_rejected g.store hp).symm.trans hdelete
    exact ⟨.refl g, fun _ => .of_rows rfl⟩
  | ok p =>
    obtain ⟨hk, he⟩ := (relationshipCollection.deleteWhere_yields g.store hp).state hdelete
    refine ⟨.of_keeps hk rfl, fun _ => .of_sublist ?_⟩
    change (s.entries.shelf _).ids.Sublist (g.store.entries.shelf _).ids
    rcases he with he | he
    · rw [he]
      exact (Entries.shelf_filter_sublist _ _ _).map _
    · rw [he]

theorem progress_putRecord {e : Relationship} {q : Except StoreError Unit} (hg : g.Precedes k)
    (he : k.entries = g.entries)
    (hmade : g.Timely → k.Made "rel" e.id ∧ ∀ old, g.Made "rel" old → old ≠ e.id)
    (hx : onStore (relationshipCollection.putRecord e) k = (q, h)) : Progress g h := by
  obtain ⟨s, hput, rfl⟩ := onStore_eq hx
  have hsame (he' : s.entries = k.store.entries) : Grows g { k with store := s } :=
    .of_rows (congrArg (Entries.rows _) (he'.trans he))
  cases hw : writable (Record.key e) (Record.document e) with
  | error x =>
    cases (relationshipCollection.put_rejected k.store hw).symm.trans hput
    exact ⟨hg, fun _ => hsame rfl⟩
  | ok u =>
    obtain ⟨hk, he' | he'⟩ := (relationshipCollection.put_yields k.store hw).state hput
    · have hp : k.Precedes { k with store := s } := .of_keeps hk rfl
      refine ⟨hg.trans hp, fun hnumbered => ?_⟩
      obtain ⟨hmade, hfresh⟩ := hmade hnumbered.1
      have habsent : ∀ d ∈ k.store.entries.shelf relationshipCollection.name, d.1 ≠ e.id := by
        intro d hd
        refine hfresh d.1 (hnumbered.2 d.1 (List.mem_map_of_mem (f := Prod.fst) ?_))
        rw [← he]
        exact hd
      refine ⟨g.edgeIds, [e.id], ?_, .refl _, List.forall_mem_singleton.mpr ⟨hmade.mono hp, hfresh⟩⟩
      change (s.entries.shelf _).ids = _
      rw [he', edgeIds, ← he]
      refine (congrArg Shelf.ids (shelf_put_of_absent habsent _)).trans ?_
      exact List.map_append
    · exact ⟨hg.trans (.of_keeps hk rfl), fun _ => hsame he'⟩

theorem progress_relate (source verb target : String) (cascade : Cascade) (data : Option Json) :
    Steps Progress (relate source verb target cascade data) := by
  have hR := frames_progress
  have hlog (entry : ActionEntry) : Steps Progress (log entry) :=
    progress_of_spares (spares_log (by decide) entry)
  refine hR.bind (hR.check _) fun _ => hR.bind (hR.check _) fun _ => hR.bind (hR.check _) fun _ => ?_
  intro g r h hx
  obtain ⟨id, g₁, hid⟩ : ∃ id g₁, newId "rel" g = (.ok id, g₁) := ⟨_, _, newId_apply "rel" g⟩
  obtain ⟨time, g₂, hnow⟩ : ∃ time g₂, now g₁ = (.ok time, g₂) := ⟨_, _, rfl⟩
  rw [bind_of_ok hid, bind_of_ok hnow] at hx
  obtain ⟨q, g₃, hput⟩ : ∃ q g₃, onStore (relationshipCollection.putRecord
      (⟨id, source, verb, target, cascade, data, time⟩ : Relationship)) g₂ = (q, g₃) := ⟨_, _, rfl⟩
  have hread := ((reads_newId "rel").bind fun _ => reads_now) g _ g₂ ((bind_of_ok hid).trans hnow)
  have hp₂ := (reads_now g₁ _ g₂ hnow).1
  have hprogress : Progress g g₃ := by
    refine progress_putRecord hread.1 hread.2 (fun htimely => ?_) hput
    obtain ⟨hmade, hfresh⟩ := made_newId htimely hid
    exact ⟨hmade.mono hp₂, hfresh⟩
  cases q with
  | error e =>
    cases (bind_of_error hput).symm.trans hx
    exact hprogress
  | ok u =>
    rw [bind_of_ok hput] at hx
    exact hprogress.trans (hR.bind (hlog _) (fun _ => hR.pure _) g₃ r h hx)

end Graph

theorem GraphCall.run_progress (call : GraphCall) : Steps Progress call.run := by
  have hR := frames_progress
  have hlog (entry : ActionEntry) : Steps Progress (Graph.log entry) :=
    progress_of_spares (spares_log (by decide) entry)
  cases call with
  | deleteThing id =>
    have hthing : Spares relationshipCollection.name (onStore (thingCollection.delete id)) :=
      spares_onStore (Collection.spares_delete (by decide) id)
    exact hR.map (hR.deleteThing (progress_of_spares hthing) (progress_deleteWhere _) (hlog _)) _
  | relate source v target cascade data => exact hR.map (progress_relate source v target cascade data) _
  | unrelate source v target => exact hR.map (hR.unrelate (progress_deleteWhere _) (hlog _)) _
  | fuzzyRelate source v type text data threshold =>
    have hcreate : Spares relationshipCollection.name (Graph.createThing type (dataOf text data) none) :=
      spares_createThing (by decide) (by decide) _ _ _
    exact hR.map (hR.fuzzyRelate (progress_of_spares hcreate) (fun _ => progress_relate _ _ _ _ _)
      threshold) _
  | elsewhere name outside call =>
    exact progress_of_spares (run_spares (not_mem_writes_elsewhere (by decide)))
  | _ =>
    refine progress_of_spares (run_spares ?_)
    simp [writes, relationshipCollection, thingCollection, actionCollection, nounCollection,
      verbCollection]

namespace Graph

variable {start g : Graph} {steps : List GraphStep}

theorem Trace.progress (htrace : start.Trace steps g) :
    Progress start g ∧ ∀ s ∈ steps, Progress start s.before ∧ Progress s.before g := by
  have hrefl (k : Graph) : Progress k k := frames_progress.alike rfl rfl rfl rfl
  induction htrace with
  | nil => exact ⟨hrefl start, List.forall_mem_nil _⟩
  | @snoc g h steps call outcome init step ih =>
    have hlast : Progress g h := call.run_progress g _ h step
    refine ⟨ih.1.trans hlast, List.forall_mem_append.mpr ⟨fun s hs => ?_, ?_⟩⟩
    · obtain ⟨hbefore, hafter⟩ := ih.2 s hs
      exact ⟨hbefore, hafter.trans hlast⟩
    · exact List.forall_mem_singleton.mpr ⟨ih.1, hlast⟩

/-- Whatever becomes of the calls, the edges that a step found come before those that came after it. -/
theorem Trace.ordered (htrace : start.Trace steps g) (hstart : start.Numbered) :
    ∀ s ∈ steps, ∃ kept added, g.edgeIds = kept ++ added ∧ kept.Sublist s.before.edgeIds ∧
      ∀ id ∈ added, id ∉ s.before.edgeIds := by
  intro s hs
  obtain ⟨hbefore, hafter⟩ := htrace.progress.2 s hs
  have hnumbered := hstart.of_grows hbefore.1 (hbefore.2 hstart)
  obtain ⟨kept, added, hids, hsub, hnew⟩ := hafter.2 hnumbered
  exact ⟨kept, added, hids, hsub, fun id hid => hnumbered.not_mem_added (hnew id hid).2⟩

theorem numbered_ofStore {store : Store} (tails : Nat → Nat)
    (hclock : ∀ n, (store.clock.reading n).toInt.toNat < 36 ^ timeWidth)
    (hempty : store.entries.rows relationshipCollection.name = []) :
    (ofStore store tails).Numbered := by
  obtain ⟨htimely, hrows, -⟩ := edged_ofStore tails hclock hempty
  refine ⟨htimely, fun id hid => ?_⟩
  rw [edgeIds, hrows] at hid
  cases hid

variable {edges : List Relationship}

theorem shows_relationsAt {member : String} (hmember : member = "from" ∨ member = "to")
    (hrows : g.entries.shelf relationshipCollection.name = edges.map Record.filed)
    (hread : Record.Readable Relationship.readBack edges) {test : Relationship → Bool} {id : String}
    {verb : Option String} (htest : ∀ r : Relationship,
      (Relationship.withEnd member id verb).holds (Record.document r) = test r) :
    Shows (relationsAt member id verb) g (edges.filter test) := by
  refine shows_findRecords hrows hread ?_ htest
  rcases hmember with rfl | rfl <;> cases verb <;> rfl

/-- The edges of a graph, and what is found by following them from either end. -/
structure Traversed (g : Graph) (edges : List Relationship) : Prop where
  stored : g.entries.shelf relationshipCollection.name = edges.map Record.filed
  forward : ∀ a v, Follows (traverse a v) g (edges.filter (·.leaves a (some v))) (·.target)
  back : ∀ b v, Follows (traverseBack b v) g (edges.filter (·.enters b (some v))) (·.source)
  /-- The targets of the edges from `a`, as often as there are edges to them. -/
  forwardCount : ∀ a v b ts h, traverse a v g = (.ok ts, h) →
    ts.countP (fun t => t.id = b) = if g.hasThing b then edges.countP (·.links a v b) else 0
  /-- The sources of the edges to `b`, as often as there are edges from them. -/
  backCount : ∀ a v b ts h, traverseBack b v g = (.ok ts, h) →
    ts.countP (fun t => t.id = a) = if g.hasThing a then edges.countP (·.links a v b) else 0
  /-- Every thing that is found is the one that is stored under its id. -/
  found : ∀ (id v : String) ts h, traverse id v g = (.ok ts, h) ∨ traverseBack id v g = (.ok ts, h) →
    ∀ t ∈ ts, g.stored t.id = some (Record.document t)

theorem Follows.found {m : GraphM (List Thing)} {far : Relationship → String}
    (hs : Stocked thingCollection.name g.entries) (hm : Follows m g edges far) {ts : List Thing}
    {h : Graph} (hx : m g = (.ok ts, h)) : ∀ t ∈ ts, g.stored t.id = some (Record.document t) := by
  intro t ht
  rw [hm.exact ts h hx] at ht
  obtain ⟨r, -, hcurrent⟩ := List.mem_filterMap.mp ht
  obtain ⟨hid, hstored, -⟩ := stored_of_current hs hcurrent
  rw [hid, hstored]

theorem traversed_of_stocked (hthings : Stocked thingCollection.name g.entries)
    (hedges : Stocked relationshipCollection.name g.entries) : ∃ edges, g.Traversed edges := by
  obtain ⟨edges, hrows, -, hread⟩ := Stocked.exists_records (α := Relationship) hedges
  have hforward (a v : String) :
      Follows (traverse a v) g (edges.filter (·.leaves a (some v))) (·.target) :=
    follows_of_shows hthings
      (shows_relationsAt (.inl rfl) hrows hread fun r => r.holds_withEnd_from a (some v))
      (frames_reads.relationsAt _ _ _) fun _ => rfl
  have hback (b v : String) :
      Follows (traverseBack b v) g (edges.filter (·.enters b (some v))) (·.source) :=
    follows_of_shows hthings
      (shows_relationsAt (.inr rfl) hrows hread fun r => r.holds_withEnd_to b (some v))
      (frames_reads.relationsAt _ _ _) fun _ => rfl
  refine ⟨edges, hrows, hforward, hback, fun a v b ts h hx => ?_, fun a v b ts h hx => ?_,
    fun id v ts h hx => ?_⟩
  · rw [(hforward a v).exact ts h hx, countP_current _ hthings, List.countP_filter]
    simp only [Relationship.links_eq_leaves]
  · rw [(hback b v).exact ts h hx, countP_current _ hthings, List.countP_filter]
    simp only [Relationship.links_eq_enters]
  · rcases hx with hx | hx
    · exact (hforward id v).found hthings hx
    · exact (hback id v).found hthings hx

/-- However the calls of a session have ended, what follows the edges gives each thing that is stored
as often as there are edges to it, from either end, and changes nothing. A thing that was deleted is
there again only if a later step has created it. As long as one graph makes the ids, edges are in the
order in which they came; if the engine refused no call, they are those of the calls. -/
theorem traversed_of_session
    (hsession : Session [thingCollection.name, relationshipCollection.name] steps g)
    (hwf : ∀ s ∈ steps, s.call.WellFormed) :
    ∃ edges, g.Traversed edges ∧
      (∀ earlier s later id, steps = earlier ++ s :: later → s.call = .deleteThing id →
        s.outcome = .ok (.flag true) → g.hasThing id = true → ∃ again ∈ later, again.Revives id) ∧
      ∀ store tails, (∀ n, (store.clock.reading n).toInt.toNat < 36 ^ timeWidth) →
        store.entries.rows relationshipCollection.name = [] →
        (ofStore store tails).Trace steps g →
          (∀ s ∈ steps, ∃ kept added, edges.map (·.id) = kept ++ added ∧
            kept.Sublist s.before.edgeIds ∧ ∀ id ∈ added, id ∉ s.before.edgeIds) ∧
          ((∀ s ∈ steps, s.Untroubled) → edges = edgesOf steps) := by
  have hguarded : [thingCollection.name, relationshipCollection.name] ⊆ collectionNames := by decide
  have hthings : Stocked thingCollection.name g.entries := hsession.stocked hguarded hwf (by decide)
  have hedges : Stocked relationshipCollection.name g.entries :=
    hsession.stocked hguarded hwf (by decide)
  obtain ⟨edges, htraversed⟩ := traversed_of_stocked hthings hedges
  refine ⟨edges, htraversed, fun earlier s later id hsplit hcall hdeleted hthere => ?_,
    fun store tails hclock hempty htrace => ⟨?_, fun hcalm => ?_⟩⟩
  · exact hsession.revived hguarded (by decide) hwf hsplit hcall hdeleted hthere
  · have hids : edges.map (·.id) = g.edgeIds := by
      rw [edgeIds, htraversed.stored, Shelf.ids, List.map_map]
      rfl
    rw [hids]
    exact htrace.ordered (numbered_ofStore tails hclock hempty)
  · have hedged := htrace.edged (edged_ofStore tails hclock hempty) hcalm
    exact List.map_injective_iff.mpr Kept.filed_injective (htraversed.stored.symm.trans hedged.rows)

/-- The thing at the end of two edges is found twice; another edge to it, with 127 arrays around its
payload, cannot be followed, neither from its source nor back. -/
theorem traversed_of_deep_payload :
    let calls : List GraphCall :=
      [.createThing "Note" (.object []) (some "b"), .relate "a" "knows" "b" .direct none,
        .relate "a" "knows" "b" .direct none, .relate "c" "knows" "b" .direct (some (.nested 127))]
    ∃ steps g, steps.map (·.call) = calls ∧
      Session [thingCollection.name, relationshipCollection.name] steps g ∧
      (∃ t h, traverse "a" "knows" g = (.ok [t, t], h) ∧ t.id = "b") ∧
      (∃ id cause h, traverse "c" "knows" g =
        (.error (.corrupted relationshipCollection.name id (.unreadable cause)), h)) ∧
      ∃ id cause h, traverseBack "b" "knows" g =
        (.error (.corrupted relationshipCollection.name id (.unreadable cause)), h) := by
  intro calls
  let store : Store := ⟨.initial, .empty, .zero, [], .still 0⟩
  let start : Graph := ofStore store fun _ => 0
  have hrelate {source : String} (hsource : source ≠ "") (data : Option Json) :=
    assured_relate hsource (by decide : "knows" ≠ "") (by decide : "b" ≠ "") .direct data
  obtain ⟨t, g₁, h₁, hready₁, -⟩ := (assured_createThing (by decide : "Note" ≠ "")
    (rfl : (Json.object []).isObject = true) (some "b") (by simp)).of_ready
      (⟨rfl, rfl⟩ : start.store.Ready)
  obtain ⟨r₂, g₂, h₂, hready₂, -⟩ := (hrelate (by decide : "a" ≠ "") none).of_ready hready₁
  obtain ⟨r₃, g₃, h₃, hready₃, -⟩ := (hrelate (by decide : "a" ≠ "") none).of_ready hready₂
  obtain ⟨r₄, g, h₄, hready, -⟩ :=
    (hrelate (by decide : "c" ≠ "") (some (.nested 127))).of_ready hready₃
  let steps : List GraphStep :=
    [⟨start, .createThing "Note" (.object []) (some "b"), .ok (.thing t)⟩,
      ⟨g₁, .relate "a" "knows" "b" .direct none, .ok (.relationship r₂)⟩,
      ⟨g₂, .relate "a" "knows" "b" .direct none, .ok (.relationship r₃)⟩,
      ⟨g₃, .relate "c" "knows" "b" .direct (some (.nested 127)), .ok (.relationship r₄)⟩]
  have htrace : start.Trace steps g :=
    .snoc (.snoc (.snoc (.snoc .nil (bind_of_ok h₁)) (bind_of_ok h₂)) (bind_of_ok h₃)) (bind_of_ok h₄)
  have hsession : Session [thingCollection.name, relationshipCollection.name] steps g :=
    .called (.called (.called (.called (.opened store (fun _ => 0) (fun _ _ => rfl))
      (bind_of_ok h₁)) (bind_of_ok h₂)) (bind_of_ok h₃)) (bind_of_ok h₄)
  have hwf : ∀ s ∈ steps, s.call.WellFormed := by
    refine List.forall_mem_cons.mpr ⟨⟨trivial, ⟨.nil, trivial⟩, trivial⟩, ?_⟩
    refine List.forall_mem_cons.mpr ⟨⟨nofun, trivial, trivial⟩, ?_⟩
    refine List.forall_mem_cons.mpr ⟨⟨nofun, trivial, trivial⟩, ?_⟩
    refine List.forall_mem_singleton.mpr ⟨?_, trivial, trivial⟩
    rintro j ⟨⟩
    exact Json.wellFormed_nested 127
  have hcalm : ∀ s ∈ steps, s.Untroubled := by
    simp [steps, GraphStep.Untroubled]
  have hzero : (0 : Int64).toInt.toNat < 36 ^ timeWidth := by decide
  obtain ⟨edges, htraversed, -, hordered⟩ := traversed_of_session hsession hwf
  obtain rfl := (hordered store _ (fun _ => hzero) rfl htrace).2 hcalm
  let first : Relationship := ⟨r₂.id, "a", "knows", "b", .direct, none, r₂.createdAt⟩
  let second : Relationship := ⟨r₃.id, "a", "knows", "b", .direct, none, r₃.createdAt⟩
  let deep : Relationship := ⟨r₄.id, "c", "knows", "b", .direct, some (.nested 127), r₄.createdAt⟩
  have hedges : edgesOf steps = [first, second, deep] := by
    simp [steps, edgesOf, GraphStep.edge?, GraphStep.removes, first, second, deep]
  have hdeep : ¬ deep.IsShallow := fun hshallow =>
    Nat.lt_irrefl _ (Json.depth_nested 127 ▸ hshallow _ rfl)
  have hplain : first.IsShallow ∧ second.IsShallow := by
    constructor <;> rintro j ⟨⟩
  -- Relating leaves the thing as it was created.
  obtain ⟨-, -, rfl, hput⟩ := createThing_creates h₁
  have hspares {source : String} {data : Option Json} :
      Spares thingCollection.name (relate source "knows" "b" .direct data) :=
    spares_relate (by decide) (by decide) _ _ _ _ _
  have hcurrent : g.current "b" = some (start.firstThing "Note" (.object []) (some "b")) := by
    refine current_of_stored ((hput.rewrites.before ?_).stored)
    exact ((hspares g₃ _ g h₄).2.trans (hspares g₂ _ g₃ h₃).2).trans (hspares g₁ _ g₂ h₂).2
  have hshallow : (start.firstThing "Note" (.object []) (some "b")).IsShallow := by
    unfold Thing.IsShallow
    decide
  refine ⟨steps, g, rfl, hsession, ?_, ?_, ?_⟩
  · obtain ⟨-, hcomplete, -⟩ := htraversed.forward "a" "knows"
    have hfrom : (edgesOf steps).filter (·.leaves "a" (some "knows")) = [first, second] := by
      simp [hedges, Relationship.leaves, Relationship.isUnder, first, second, deep]
    rw [hfrom] at hcomplete
    obtain ⟨h, hx⟩ := hcomplete hready
      (List.forall_mem_cons.mpr ⟨hplain.1, List.forall_mem_singleton.mpr hplain.2⟩)
      (by simp [first, second, hcurrent, hshallow])
    simp only [first, second, List.filterMap_cons, hcurrent, List.filterMap_nil] at hx
    exact ⟨_, h, hx, rfl⟩
  · have hfrom : (edgesOf steps).filter (·.leaves "c" (some "knows")) = [] ++ deep :: [] := by
      simp [hedges, Relationship.leaves, Relationship.isUnder, first, second, deep]
    obtain ⟨cause, h, hx⟩ := (htraversed.forward "c" "knows").deepEdge hready _ _ _ hfrom
      (List.forall_mem_nil _) hdeep
    exact ⟨_, cause, h, hx⟩
  · have hto : (edgesOf steps).filter (·.enters "b" (some "knows")) = [first, second] ++ deep :: [] := by
      simp [hedges, Relationship.enters, Relationship.isUnder, first, second, deep]
    obtain ⟨cause, h, hx⟩ := (htraversed.back "b" "knows").deepEdge hready _ _ _ hto
      (List.forall_mem_cons.mpr ⟨hplain.1, List.forall_mem_singleton.mpr hplain.2⟩) hdeep
    exact ⟨_, cause, h, hx⟩

end Graph

end DocumentGraph
