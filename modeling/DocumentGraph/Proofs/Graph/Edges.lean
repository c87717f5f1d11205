import DocumentGraph.Proofs.Graph.PartialWrite
import DocumentGraph.Proofs.Graph.Reading
import DocumentGraph.Proofs.Record.Relationship
import DocumentGraph.Proofs.Store.Refinement
set_option autoImplicit false

namespace DocumentGraph

open Identifier Operation DocumentGraph.Graph

namespace GraphStep

def edge? (s : GraphStep) : Option Relationship :=
  match s.call, s.outcome with
  | .relate source verb target cascade data, .ok (.relationship r) =>
    some ⟨r.id, source, verb, target, cascade, data, r.createdAt⟩
  | .fuzzyRelate source verb _ _ _ _, .ok (.fuzzy r) =>
    some ⟨r.relationship.id, source, verb, r.thing.id, .fuzzy, none, r.relationship.createdAt⟩
  | _, _ => none

def removes (s : GraphStep) (r : Relationship) : Bool :=
  match s.call, s.outcome with
  | .unrelate source verb target, .ok _ => r.links source verb target
  | .deleteThing id, .ok (.flag true) => r.touches id
  | _, _ => false

end GraphStep

/-- The edges that the steps created, in order, without those that a later step removed. -/
def edgesOf : List GraphStep → List Relationship
  | [] => []
  | s :: rest =>
    s.edge?.toList.filter (fun r => rest.all fun later => !later.removes r) ++ edgesOf rest

theorem edgesOf_snoc (steps : List GraphStep) (s : GraphStep) :
    edgesOf (steps ++ [s]) = (edgesOf steps).filter (fun r => !s.removes r) ++ s.edge?.toList := by
  induction steps with
  | nil => simp [edgesOf]
  | cons first rest ih =>
    rw [List.cons_append, edgesOf, edgesOf, ih, List.filter_append, List.filter_filter,
      List.append_assoc]
    simp [Bool.and_comm]

namespace Graph

variable {g h k : Graph} {edges : List Relationship}

/-- The graph holds these edges and no others, under ids that it has made. -/
structure Edged (g : Graph) (edges : List Relationship) : Prop where
  timely : g.Timely
  rows : g.entries.shelf relationshipCollection.name = edges.map Record.filed
  made : ∀ r ∈ edges, g.Made "rel" r.id

theorem Edged.of_spared (hg : g.Edged edges) (hp : g.Precedes h)
    (hrows : h.rows relationshipCollection.name = g.rows relationshipCollection.name) :
    h.Edged edges := by
  refine ⟨hp.timely hg.timely, ?_, fun r hr => (hg.made r hr).mono hp⟩
  rw [← hg.rows]
  exact congrArg (List.map Entries.pair) hrows

variable {α : Type} {m : GraphM α} {r : Except StoreError α}

theorem Edged.spared (hg : g.Edged edges) (hm : Spares relationshipCollection.name m)
    (hx : m g = (r, h)) : h.Edged edges := by
  obtain ⟨hp, hrows⟩ := hm g r h hx
  exact hg.of_spared hp hrows

theorem Edged.read (hg : g.Edged edges) (hm : Reads m) (hx : m g = (r, h)) : h.Edged edges :=
  hg.spared hm.spares hx

theorem Edged.logged (hg : g.Edged edges) {entry : ActionEntry} {r : Except StoreError Action}
    (hx : log entry g = (r, h)) : h.Edged edges :=
  hg.spared (spares_log (by decide) entry) hx

variable {source verb target : String} {cascade : Cascade} {data : Option Json}

theorem shelf_put_of_absent {es : Entries} {name id : String} {doc : Json}
    (h : ∀ d ∈ es.shelf name, d.1 ≠ id) (now : Int64) :
    (es.put name id doc now).shelf name = es.shelf name ++ [(id, doc)] := by
  have habsent : ∀ e ∈ es.rows name, e.id ≠ id := fun e he =>
    h _ (List.mem_map_of_mem (f := Entries.pair) he)
  rw [Entries.shelf, Entries.rows_put_of_absent habsent, List.map_append]
  rfl

theorem Edged.put (hg : g.Edged edges) {e : Relationship} {u : Unit} (hid : g.Made "rel" e.id)
    (hfresh : ∀ r ∈ edges, r.id ≠ e.id)
    (hx : onStore (relationshipCollection.putRecord e) g = (.ok u, h)) :
    h.Edged (edges ++ [e]) := by
  obtain ⟨t, hput, rfl⟩ := onStore_eq hx
  obtain ⟨hk, hentries⟩ := relationshipCollection.put_of_ok g.store hput
  have hp : g.Precedes { g with store := t } := .of_keeps hk rfl
  refine ⟨hp.timely hg.timely, ?_, fun r hr => ?_⟩
  · have habsent : ∀ d ∈ g.store.entries.shelf relationshipCollection.name, d.1 ≠ e.id := by
      intro d hd
      rw [show g.store.entries.shelf relationshipCollection.name = edges.map Record.filed
        from hg.rows] at hd
      obtain ⟨r, hr, rfl⟩ := List.mem_map.mp hd
      exact hfresh r hr
    change t.entries.shelf _ = _
    rw [hentries]
    refine (shelf_put_of_absent habsent _).trans ?_
    rw [List.map_append, ← hg.rows]
    rfl
  · rcases List.mem_append.mp hr with hr | hr
    · exact (hg.made r hr).mono hp
    · rw [List.mem_singleton.mp hr]
      exact hid.mono hp

theorem relate_of_ok {e : Relationship}
    (hx : relate source verb target cascade data g = (.ok e, h)) :
    e = ⟨e.id, source, verb, target, cascade, data, e.createdAt⟩ ∧
      ∃ g₁ g₂ g₃ u a, newId "rel" g = (.ok e.id, g₁) ∧ now g₁ = (.ok e.createdAt, g₂) ∧
        onStore (relationshipCollection.putRecord e) g₂ = (.ok u, g₃) ∧
        log (.relating source verb target data) g₃ = (.ok a, h) := by
  obtain ⟨u₁, k₁, hsource, hx⟩ := ok_of_bind hx
  obtain ⟨u₂, k₂, hverb, hx⟩ := ok_of_bind hx
  obtain ⟨u₃, k₃, htarget, hx⟩ := ok_of_bind hx
  obtain rfl : g = k₁ := congrArg Prod.snd hsource
  obtain rfl : g = k₂ := congrArg Prod.snd hverb
  obtain rfl : g = k₃ := congrArg Prod.snd htarget
  obtain ⟨id, g₁, hid, hx⟩ := ok_of_bind hx
  obtain ⟨createdAt, g₂, hnow, hx⟩ := ok_of_bind hx
  obtain ⟨u, g₃, hput, hx⟩ := ok_of_bind hx
  obtain ⟨a, g₄, hlog, hx⟩ := ok_of_bind hx
  cases hx
  exact ⟨rfl, g₁, g₂, g₃, u, a, hid, hnow, hput, hlog⟩

theorem Edged.relate {e : Relationship} (hg : g.Edged edges)
    (hx : relate source verb target cascade data g = (.ok e, h)) : h.Edged (edges ++ [e]) := by
  obtain ⟨-, g₁, g₂, g₃, u, a, hid, hnow, hput, hlog⟩ := relate_of_ok hx
  have hg₂ := (hg.read (reads_newId "rel") hid).read reads_now hnow
  obtain ⟨hmade, hfresh⟩ := made_newId hg.timely hid
  have hp := (reads_now g₁ _ g₂ hnow).1
  have hg₃ := hg₂.put (hmade.mono hp) (fun r hr => hfresh r.id (hg.made r hr)) hput
  exact hg₃.logged hlog

theorem Edged.relate_error {e : StoreError} (hg : g.Edged edges)
    (hx : Graph.relate source verb target cascade data g = (.error e, h))
    (hcalm : ∀ d, e ≠ .storage d) : h.Edged edges := by
  have he := atomic_relate source verb target cascade data g e h hx hcalm
  have hspares : Spares thingCollection.name (Graph.relate source verb target cascade data) :=
    spares_relate (by decide) (by decide) _ _ _ _ _
  exact hg.of_spared (hspares g _ h hx).1 (congrArg (Entries.rows _) he)

theorem Edged.deleteWhere {filter : Filter} {test : Relationship → Bool} {n : Nat}
    (hg : g.Edged edges) (hv : filter.validated = .ok ())
    (htest : ∀ r : Relationship, filter.holds (Record.document r) = test r)
    (hx : onStore (relationshipCollection.deleteWhere filter) g = (.ok n, h)) :
    n = (edges.filter test).length ∧ h.Edged (edges.filter fun r => !test r) := by
  obtain ⟨t, hdelete, rfl⟩ := onStore_eq hx
  obtain ⟨p, hp, hsel⟩ := Filter.compile_of_valid hv
  obtain ⟨hn, hk, hentries⟩ := (relationshipCollection.deleteWhere_yields g.store hp).of_ok hdelete
  have hprecedes : g.Precedes { g with store := t } := .of_keeps hk rfl
  have hrows : g.store.entries.shelf relationshipCollection.name = edges.map Record.filed := hg.rows
  refine ⟨?_, hprecedes.timely hg.timely, ?_, fun r hr =>
    (hg.made r (List.mem_filter.mp hr).1).mono hprecedes⟩
  · cases hn
    rw [← List.length_map Entries.pair, Entries.map_pair_select hsel, hrows, Shelf.matching,
      List.filter_map, List.length_map]
    exact congrArg List.length (List.filter_congr fun r _ => htest r)
  · change t.entries.shelf _ = _
    rw [hentries, Entries.shelf_removeWhere_self hsel, hrows, Shelf.withoutMatching, List.filter_map]
    exact congrArg _ (List.filter_congr fun r _ => congrArg (! ·) (htest r))

theorem Edged.unrelate {b : Bool} (hg : g.Edged edges)
    (hx : unrelate source verb target g = (.ok b, h)) :
    b = edges.any (·.links source verb target) ∧
      h.Edged (edges.filter fun r => !r.links source verb target) := by
  obtain ⟨n, g₁, hdelete, hx⟩ := ok_of_bind hx
  obtain ⟨a, g₂, hlog, hx⟩ := ok_of_bind hx
  cases hx
  have hholds := fun r : Relationship => r.holds_between source verb target
  obtain ⟨rfl, hg₁⟩ := hg.deleteWhere rfl hholds hdelete
  refine ⟨?_, hg₁.logged hlog⟩
  rw [Bool.eq_iff_iff, decide_eq_true_eq, List.length_pos_iff_exists_mem, List.any_eq_true]
  simp [List.mem_filter]

theorem Edged.deleteThing {id : String} {b : Bool} (hg : g.Edged edges)
    (hx : deleteThing id g = (.ok b, h)) :
    b = g.hasThing id ∧ h.Edged (if b then edges.filter fun r => !r.touches id else edges) := by
  obtain ⟨there, g₁, hthing, hx⟩ := ok_of_bind hx
  have hg₁ := hg.spared (spares_onStore (Collection.spares_delete (by decide) id)) hthing
  obtain ⟨t, hdelete, rfl⟩ := onStore_eq hthing
  obtain ⟨hthere, -, -⟩ := (thingCollection.delete_yields g.store id).of_ok hdelete
  cases hthere
  cases hfound : (g.store.entries.fetch thingCollection.name id).isSome with
  | false =>
    rw [hfound] at hx
    cases hx
    exact ⟨hfound.symm, hg₁⟩
  | true =>
    rw [hfound] at hx
    obtain ⟨n, g₂, hedges, hx⟩ := ok_of_bind hx
    obtain ⟨a, g₃, hlog, hx⟩ := ok_of_bind hx
    cases hx
    have hholds := fun r : Relationship => r.holds_touching id
    exact ⟨hfound.symm, ((hg₁.deleteWhere rfl hholds hedges).2).logged hlog⟩

variable {type text : String} {threshold : Option Binary64}

theorem fuzzyRelate_of_ok {f : FuzzyRelation}
    (hx : fuzzyRelate source verb type text data threshold g = (.ok f, h)) :
    ∃ k, (g.Precedes k ∧
        k.rows relationshipCollection.name = g.rows relationshipCollection.name) ∧
      relate source verb f.thing.id .fuzzy none k = (.ok f.relationship, h) := by
  obtain ⟨⟨t, candidates⟩, k, hask, -⟩ := ok_of_bind hx
  have hk : g.Precedes k ∧
      k.rows relationshipCollection.name = g.rows relationshipCollection.name :=
    (reads_ask type text threshold).spares g _ k hask
  cases hbest : Candidate.best t candidates with
  | some c =>
    rw [fuzzyRelate_of_some hask hbest] at hx
    obtain ⟨e, l, he, hpure⟩ := ok_of_bind hx
    cases hpure
    exact ⟨k, hk, he⟩
  | none =>
    rw [fuzzyRelate_of_none hask hbest] at hx
    obtain ⟨thing, l, hcreate, hx⟩ := ok_of_bind hx
    obtain ⟨e, l', he, hpure⟩ := ok_of_bind hx
    cases hpure
    have hspares : Spares relationshipCollection.name (createThing type (dataOf text data) none) :=
      spares_createThing (by decide) (by decide) _ _ _
    obtain ⟨hp, hrows⟩ := hspares k _ l hcreate
    exact ⟨l, ⟨hk.1.trans hp, hrows.trans hk.2⟩, he⟩

theorem Edged.fuzzyRelate {f : FuzzyRelation} (hg : g.Edged edges)
    (hx : fuzzyRelate source verb type text data threshold g = (.ok f, h)) :
    h.Edged (edges ++ [f.relationship]) := by
  obtain ⟨k, ⟨hp, hrows⟩, hrelate⟩ := fuzzyRelate_of_ok hx
  exact (hg.of_spared hp hrows).relate hrelate

theorem Edged.fuzzyRelate_error {e : StoreError} (hg : g.Edged edges)
    (hx : Graph.fuzzyRelate source verb type text data threshold g = (.error e, h))
    (hcalm : ∀ d, e ≠ .storage d) : h.Edged edges := by
  rcases error_of_bind hx with hask | ⟨⟨t, candidates⟩, k, hask, -⟩
  · exact hg.read (reads_ask type text threshold) hask
  · have hk := hg.read (reads_ask type text threshold) hask
    cases hbest : Candidate.best t candidates with
    | some c =>
      rw [fuzzyRelate_of_some hask hbest] at hx
      exact hk.relate_error (error_of_map hx) hcalm
    | none =>
      rw [fuzzyRelate_of_none hask hbest] at hx
      have hcreates : Spares relationshipCollection.name (createThing type (dataOf text data) none) :=
        spares_createThing (by decide) (by decide) _ _ _
      rcases error_of_bind hx with hcreate | ⟨thing, l, hcreate, hrelate⟩
      · exact hk.spared hcreates hcreate
      · exact (hk.spared hcreates hcreate).relate_error (error_of_map hrelate) hcalm

end Graph

namespace GraphCall

variable {g h : Graph} {edges : List Relationship} {call : GraphCall}

theorem edge?_of_reply {reply : GraphReply} (hx : call.run g = (.ok reply, h)) :
    let s : GraphStep := ⟨g, call, .ok reply⟩
    (∀ r, reply = .relationship r → s.edge? = some r) ∧
      ∀ f, reply = .fuzzy f → s.edge? = some f.relationship := by
  intro s
  cases call with
  | relate source verb target cascade data =>
    obtain ⟨e, k, he, hpure⟩ := ok_of_bind hx
    cases hpure
    refine ⟨fun r hr => ?_, fun f hf => ?_⟩
    · cases hr
      exact congrArg some (relate_of_ok he).1.symm
    · cases hf
  | fuzzyRelate source verb type text data threshold =>
    obtain ⟨f, k, hf, hpure⟩ := ok_of_bind hx
    cases hpure
    obtain ⟨l, -, hrelate⟩ := fuzzyRelate_of_ok hf
    refine ⟨fun r hr => ?_, fun f hf => ?_⟩
    · cases hr
    · cases hf
      exact congrArg some (relate_of_ok hrelate).1.symm
  | _ =>
    obtain ⟨a, k, -, hpure⟩ := ok_of_bind hx
    cases hpure
    refine ⟨fun r hr => ?_, fun f hf => ?_⟩
    · cases hr
    · cases hf

theorem run_edged {outcome : Except StoreError GraphReply} (hg : g.Edged edges)
    (hx : call.run g = (outcome, h)) (hcalm : (⟨g, call, outcome⟩ : GraphStep).Untroubled) :
    let s : GraphStep := ⟨g, call, outcome⟩
    h.Edged (edges.filter (fun r => !s.removes r) ++ s.edge?.toList) := by
  intro s
  have hkept (hremoves : ∀ r, s.removes r = false) :
      edges.filter (fun r => !s.removes r) = edges :=
    List.filter_eq_self.mpr fun r _ => by rw [hremoves]; rfl
  have hunchanged (hh : h.Edged edges) (hremoves : ∀ r, s.removes r = false)
      (hedge : s.edge? = none) :
      h.Edged (edges.filter (fun r => !s.removes r) ++ s.edge?.toList) := by
    rw [hkept hremoves, hedge]
    simpa using hh
  have hadded {r : Relationship} (hh : h.Edged (edges ++ [r])) (hremoves : ∀ r, s.removes r = false)
      (hedge : s.edge? = some r) :
      h.Edged (edges.filter (fun r => !s.removes r) ++ s.edge?.toList) := by
    rw [hkept hremoves, hedge]
    exact hh
  cases outcome with
  | error e =>
    have hcalm' : ∀ d, e ≠ .storage d := fun d he => hcalm d (congrArg Except.error he)
    have hspared (hfuzzy : call.isFuzzy = false) : h.Edged edges :=
      hg.of_spared (run_precedes hx) (rows_of_error (by decide) hfuzzy hx hcalm')
    cases call with
    | fuzzyRelate source verb type text data threshold =>
      exact hunchanged (hg.fuzzyRelate_error (error_of_map hx) hcalm') (fun _ => rfl) rfl
    | _ => exact hunchanged (hspared rfl) (fun _ => rfl) rfl
  | ok reply =>
    have hspared (hwrites : relationshipCollection.name ∉ call.writes) : h.Edged edges :=
      hg.spared (run_spares hwrites) hx
    have hreply := edge?_of_reply hx
    cases call with
    | relate source verb target cascade data =>
      obtain ⟨e, k, he, hpure⟩ := ok_of_bind hx
      cases hpure
      exact hadded (hg.relate he) (fun _ => rfl) (hreply.1 e rfl)
    | fuzzyRelate source verb type text data threshold =>
      obtain ⟨f, k, hf, hpure⟩ := ok_of_bind hx
      cases hpure
      exact hadded (hg.fuzzyRelate hf) (fun _ => rfl) (hreply.2 f rfl)
    | unrelate source verb target =>
      obtain ⟨b, k, hb, hpure⟩ := ok_of_bind hx
      cases hpure
      exact (List.append_nil _).symm ▸ (hg.unrelate hb).2
    | deleteThing id =>
      obtain ⟨b, k, hb, hpure⟩ := ok_of_bind hx
      cases hpure
      obtain ⟨-, hh⟩ := hg.deleteThing hb
      cases b with
      | false => exact hunchanged hh (fun _ => rfl) rfl
      | true => exact (List.append_nil _).symm ▸ hh
    | elsewhere name outside call =>
      exact hunchanged (hspared (not_mem_writes_elsewhere (by decide))) (fun _ => rfl) rfl
    | _ =>
      -- Every other call spares the edges.
      refine hunchanged (hspared ?_) (fun _ => rfl) rfl
      simp [writes, relationshipCollection, thingCollection, actionCollection, nounCollection,
        verbCollection]

end GraphCall

namespace Graph

theorem Trace.edged {start g : Graph} {steps : List GraphStep} (htrace : start.Trace steps g)
    (hstart : start.Edged []) (hcalm : ∀ s ∈ steps, s.Untroubled) : g.Edged (edgesOf steps) := by
  induction htrace with
  | nil => exact hstart
  | snoc init step ih =>
    obtain ⟨hinit, hlast⟩ := List.forall_mem_append.mp hcalm
    rw [edgesOf_snoc]
    exact GraphCall.run_edged (ih hinit) step (hlast _ List.mem_cons_self)

theorem edged_ofStore {store : Store} (tails : Nat → Nat)
    (hclock : ∀ n, (store.clock.reading n).toInt.toNat < 36 ^ timeWidth)
    (hempty : store.entries.rows relationshipCollection.name = []) :
    (ofStore store tails).Edged [] := by
  have hrows : (ofStore store tails).entries.shelf relationshipCollection.name = [] := by
    rw [Entries.shelf, List.map_eq_nil_iff]
    exact hempty
  refine ⟨⟨hclock, Generator.inRange_initial⟩, hrows, fun r hr => ?_⟩
  cases hr

theorem wellFormed_edgesOf {steps : List GraphStep}
    (hpayload : ∀ s ∈ steps, s.call.PayloadWellFormed) :
    ∀ r ∈ edgesOf steps, ∀ j, r.data = some j → j.WellFormed := by
  induction steps with
  | nil => exact nofun
  | cons s rest ih =>
    obtain ⟨hs, hrest⟩ := List.forall_mem_cons.mp hpayload
    intro r hr j hj
    rcases List.mem_append.mp hr with hr | hr
    · have hedge : s.edge? = some r := Option.mem_toList.mp (List.mem_filter.mp hr).1
      obtain ⟨before, call, outcome⟩ := s
      unfold GraphStep.edge? at hedge
      split at hedge
      · next hcall _ =>
        cases hedge
        rw [show call = _ from hcall] at hs
        exact hs j hj
      · cases hedge
        cases hj
      · cases hedge
    · exact ih hrest r hr j hj

variable {g h : Graph} {edges : List Relationship} {filter : Filter} {test : Relationship → Bool}

/-- Reading gives the edges, in order and as they are read back, unless one of them nests too deep;
then it is an error about the first of those. -/
structure Shows (m : GraphM (List Relationship)) (g : Graph) (edges : List Relationship) : Prop where
  exact : ∀ rs h, m g = (.ok rs, h) → rs = edges.map Relationship.readBack
  complete : g.store.Ready → (∀ r ∈ edges, r.IsShallow) →
    ∃ h, m g = (.ok (edges.map Relationship.readBack), h)
  deep : g.store.Ready → ∀ before r after, edges = before ++ r :: after →
    (∀ b ∈ before, b.IsShallow) → ¬ r.IsShallow →
      ∃ cause h, m g =
        (.error (.corrupted relationshipCollection.name r.id (.unreadable cause)), h)

theorem readable_of_wellFormed (hwf : ∀ r ∈ edges, ∀ j, r.data = some j → j.WellFormed) :
    Record.Readable Relationship.readBack edges :=
  ⟨fun r _ => r.ofDocument_document, fun r hr => r.wellFormed_document (hwf r hr)⟩

theorem shows_findRecords (hrows : g.entries.shelf relationshipCollection.name = edges.map Record.filed)
    (hread : Record.Readable Relationship.readBack edges) (hv : filter.validated = .ok ())
    (htest : ∀ r : Relationship, filter.holds (Record.document r) = test r) :
    Shows (onStore (relationshipCollection.findRecords filter .unrestricted)) g
      (edges.filter test) := by
  have hlists : Lists relationshipCollection Relationship.readBack _ g (edges.filter test) :=
    lists_findRecords relationshipCollection hrows hread hv htest
  refine ⟨hlists.exact, fun hready hshallow => ?_, fun hready before r after hsplit hb hr => ?_⟩
  · exact hlists.complete hready fun r hr => r.depth_document_le_iff.mpr (hshallow r hr)
  · exact hlists.deep hready before r after hsplit
      (fun b hmem => b.depth_document_le_iff.mpr (hb b hmem))
      (Nat.lt_of_not_le fun hle => hr (r.depth_document_le_iff.mp hle))

theorem Edged.shows (hg : g.Edged edges)
    (hwf : ∀ r ∈ edges, ∀ j, r.data = some j → j.WellFormed) (hv : filter.validated = .ok ())
    (htest : ∀ r : Relationship, filter.holds (Record.document r) = test r) :
    Shows (onStore (relationshipCollection.findRecords filter .unrestricted)) g
      (edges.filter test) :=
  shows_findRecords hg.rows (readable_of_wellFormed hwf) hv htest

theorem Edged.count (hg : g.Edged edges) (hlt : edges.length < 2 ^ 63) :
    (∀ n h, countRelationships g = (.ok n, h) → n = edges.length) ∧
      (g.store.Ready → ∃ h, countRelationships g = (.ok edges.length, h)) := by
  obtain ⟨p, hp, hsel⟩ := Filter.compile_of_valid (rfl : Filter.all.validated = .ok ())
  have hselected : (g.store.entries.select relationshipCollection.name p).length = edges.length := by
    have hrows : g.store.entries.shelf relationshipCollection.name = edges.map Record.filed := hg.rows
    rw [← List.length_map Entries.pair, Entries.map_pair_select hsel, hrows,
      CollectionCall.holds_all, List.length_map]
  have hyields := relationshipCollection.countWhere_yields g.store .all
  rw [hp, Except.map, hselected, CollectionCall.counted_of_lt hlt] at hyields
  refine ⟨fun n h hx => ?_, onStore_of_ready hyields⟩
  obtain ⟨t, hcount, -⟩ := onStore_eq hx
  have hn := (hyields.of_ok hcount).1
  cases hn
  rfl

/-- After any trace the edges are those that its calls created and that no later call removed, in the
order of the calls. They are read from either end and counted; unrelating says whether there was an
edge to remove, and deleting whether there was a thing; a reply that has an edge has the one that is
added. An edge whose payload nests too deep is kept like any other, but it cannot be read. -/
theorem edges_of_trace {store : Store} {tails : Nat → Nat} {steps : List GraphStep} {g : Graph}
    (hclock : ∀ n, (store.clock.reading n).toInt.toNat < 36 ^ timeWidth)
    (hempty : store.entries.rows relationshipCollection.name = [])
    (hpayload : ∀ s ∈ steps, s.call.PayloadWellFormed) (hcalm : ∀ s ∈ steps, s.Untroubled)
    (htrace : (ofStore store tails).Trace steps g) :
    let edges := edgesOf steps
    (∀ id verb, Shows (relationsFrom id verb) g (edges.filter (·.leaves id verb))) ∧
      (∀ id verb, Shows (relationsTo id verb) g (edges.filter (·.enters id verb))) ∧
      (edges.length < 2 ^ 63 →
        (∀ n h, countRelationships g = (.ok n, h) → n = edges.length) ∧
          (g.store.Ready → ∃ h, countRelationships g = (.ok edges.length, h))) ∧
      (∀ source verb target b h, unrelate source verb target g = (.ok b, h) →
        b = edges.any (·.links source verb target)) ∧
      (∀ id b h, deleteThing id g = (.ok b, h) → b = g.hasThing id) ∧
      ∀ s ∈ steps, (∀ r, s.outcome = .ok (.relationship r) → s.edge? = some r) ∧
        ∀ f, s.outcome = .ok (.fuzzy f) → s.edge? = some f.relationship := by
  intro edges
  have hg : g.Edged edges := htrace.edged (edged_ofStore tails hclock hempty) hcalm
  have hwf := wellFormed_edgesOf hpayload
  have hvalid {member : String} (hmember : member = "from" ∨ member = "to") (id : String)
      (verb : Option String) : (Relationship.withEnd member id verb).validated = .ok () := by
    rcases hmember with rfl | rfl <;> cases verb <;> rfl
  refine ⟨fun id verb => ?_, fun id verb => ?_, hg.count, fun source verb target b h hx => ?_,
    fun id b h hx => ?_, fun s hs => ?_⟩
  · exact hg.shows hwf (hvalid (.inl rfl) id verb) fun r => r.holds_withEnd_from id verb
  · exact hg.shows hwf (hvalid (.inr rfl) id verb) fun r => r.holds_withEnd_to id verb
  · exact (hg.unrelate hx).1
  · exact (hg.deleteThing hx).1
  · obtain ⟨h, hrun⟩ := htrace.run_of_mem s hs
    obtain ⟨before, call, outcome⟩ := s
    refine ⟨fun r hr => ?_, fun f hf => ?_⟩
    · obtain rfl : outcome = .ok (.relationship r) := hr
      exact (GraphCall.edge?_of_reply hrun).1 r rfl
    · obtain rfl : outcome = .ok (.fuzzy f) := hf
      exact (GraphCall.edge?_of_reply hrun).2 f rfl

/-- Two edges are related in a new graph, one of them with 127 arrays around its payload: only the
other can be read. -/
theorem edges_of_deep_payload :
    let store : Store := ⟨.initial, .empty, .zero, [], .still 0⟩
    let deep : Json := (fun j => Json.array [j])^[127] .null
    let calls : List GraphCall :=
      [.relate "a" "knows" "b" .direct none, .relate "c" "knows" "d" .direct (some deep)]
    ∃ steps g, steps.map (·.call) = calls ∧ (ofStore store fun _ => 0).Trace steps g ∧
      (∃ r h, relationsFrom "a" none g = (.ok [r], h) ∧ r.target = "b") ∧
      ∃ id cause h, relationsFrom "c" none g =
        (.error (.corrupted relationshipCollection.name id (.unreadable cause)), h) := by
  intro store deep calls
  have hnested (n : Nat) : ((fun j => Json.array [j])^[n] .null).depth = n ∧
      ((fun j => Json.array [j])^[n] .null).WellFormed := by
    induction n with
    | zero => exact ⟨rfl, trivial⟩
    | succ n ih =>
      rw [Function.iterate_succ_apply']
      exact ⟨congrArg (· + 1) ((Nat.max_zero _).trans ih.1), ih.2, trivial⟩
  obtain ⟨hdepth, hwf⟩ := hnested 127
  let start : Graph := ofStore store fun _ => 0
  have hready : start.store.Ready := ⟨rfl, rfl⟩
  obtain ⟨r, g₁, h₁, hready₁, -⟩ := (assured_relate (by decide : "a" ≠ "") (by decide : "knows" ≠ "")
    (by decide : "b" ≠ "") .direct none).of_ready hready
  obtain ⟨d, g₂, h₂, hready₂, -⟩ := (assured_relate (by decide : "c" ≠ "") (by decide : "knows" ≠ "")
    (by decide : "d" ≠ "") .direct (some deep)).of_ready hready₁
  let steps : List GraphStep :=
    [⟨start, .relate "a" "knows" "b" .direct none, .ok (.relationship r)⟩,
      ⟨g₁, .relate "c" "knows" "d" .direct (some deep), .ok (.relationship d)⟩]
  have htrace : start.Trace steps g₂ := .snoc (.snoc .nil (bind_of_ok h₁)) (bind_of_ok h₂)
  have hpayload : ∀ s ∈ steps, s.call.PayloadWellFormed := by
    refine List.forall_mem_cons.mpr ⟨nofun, List.forall_mem_singleton.mpr fun j hj => ?_⟩
    cases hj
    exact hwf
  have hcalm : ∀ s ∈ steps, s.Untroubled :=
    List.forall_mem_cons.mpr ⟨nofun, List.forall_mem_singleton.mpr nofun⟩
  have hzero : (0 : Int64).toInt.toNat < 36 ^ timeWidth := by decide
  obtain ⟨hfrom, -⟩ := edges_of_trace (fun _ => hzero) rfl hpayload hcalm htrace
  have hfirst : (edgesOf steps).filter (·.leaves "a" none) =
      [⟨r.id, "a", "knows", "b", .direct, none, r.createdAt⟩] := by
    simp [steps, edgesOf, GraphStep.edge?, GraphStep.removes, Relationship.leaves,
      Relationship.isUnder]
  have hsecond : (edgesOf steps).filter (·.leaves "c" none) =
      [] ++ [⟨d.id, "c", "knows", "d", .direct, some deep, d.createdAt⟩] := by
    simp [steps, edgesOf, GraphStep.edge?, GraphStep.removes, Relationship.leaves,
      Relationship.isUnder]
  refine ⟨steps, g₂, rfl, htrace, ?_, ?_⟩
  · obtain ⟨h, hread⟩ := (hfrom "a" none).complete hready₂ (by simp [hfirst, Relationship.IsShallow])
    rw [hfirst] at hread
    exact ⟨_, h, hread, rfl⟩
  · obtain ⟨cause, h, hread⟩ := (hfrom "c" none).deep hready₂ [] _ [] hsecond (List.forall_mem_nil _)
      fun hshallow => Nat.lt_irrefl _ (hdepth ▸ hshallow deep rfl)
    exact ⟨d.id, cause, h, hread⟩

end Graph

end DocumentGraph
