import DocumentGraph.Proofs.Graph.Definition
set_option autoImplicit false

/-!
# What calls present

A call that reads presents records that are stored: each of them is what is read back of the record
that lies under its key, or a noun that is remembered as it was written.
-/

namespace DocumentGraph

open Operation DocumentGraph.Graph

def GraphReply.records : GraphReply → List GraphRecord
  | thing t => [.thing t]
  | foundThing t => t.toList.map .thing
  | things ts => ts.map .thing
  | action a => [.action a]
  | foundAction a => a.toList.map .action
  | actions as => as.map .action
  | relationship r => [.relationship r]
  | foundRelationship r => r.toList.map .relationship
  | relationships rs => rs.map .relationship
  | fuzzy r => [.thing r.thing, .relationship r.relationship]
  | noun n => [.noun n]
  | foundNoun n => n.toList.map .noun
  | nouns ns => ns.map .noun
  | verb v => [.verb v]
  | foundVerb v => v.toList.map .verb
  | verbs vs => vs.map .verb
  | _ => []

/-- What comes back of a record: it is read back, unless it is a noun that comes from memory. -/
def GraphRecord.Reflects (y x : GraphRecord) : Prop :=
  y = x.readBack ∨ x.collection = nounCollection ∧ y = x

namespace GraphRecord.Reflects

variable {x y : GraphRecord}

theorem collection (h : y.Reflects x) : y.collection = x.collection := by
  rcases h with rfl | ⟨-, rfl⟩
  · exact x.collection_readBack
  · rfl

theorem key (h : y.Reflects x) : y.key = x.key := by
  rcases h with rfl | ⟨-, rfl⟩
  · exact x.key_readBack
  · rfl

theorem eq (h : y.Reflects x) (hpayload : x.payload ≠ some .null) : y = x := by
  rcases h with rfl | ⟨-, rfl⟩
  · exact GraphRecord.readBack_eq_self hpayload
  · rfl

end GraphRecord.Reflects

namespace Graph

def Stores (g : Graph) (x : GraphRecord) : Prop := documentAt x.collection x.key g = some x.document

def Presents (g : Graph) (y : GraphRecord) : Prop := ∃ x, g.Stores x ∧ y.Reflects x

variable {g h : Graph} {x y : GraphRecord}

theorem Stores.of_rows (hx : g.Stores x) (hrows : h.rows x.collection.name = g.rows x.collection.name) :
    h.Stores x :=
  (documentAt_of_rows hrows _).trans hx

theorem Stores.unique (hx : g.Stores x) (hy : g.Stores y) (hcollection : y.collection = x.collection)
    (hkey : y.key = x.key) : y = x := by
  rw [Stores, hcollection, hkey, hx] at hy
  exact GraphRecord.eq_of_document (congrArg Collection.name hcollection) (Option.some.inj hy).symm

theorem Presents.of_entries (hy : g.Presents y) (he : h.entries = g.entries) : h.Presents y := by
  obtain ⟨x, hx, hyx⟩ := hy
  exact ⟨x, hx.of_rows (congrArg (Entries.rows _) he), hyx⟩

theorem Presents.reflects (hy : g.Presents y) (hx : g.Stores x)
    (hcollection : y.collection = x.collection) (hkey : y.key = x.key) : y.Reflects x := by
  obtain ⟨z, hz, hyz⟩ := hy
  obtain rfl := hx.unique hz (hyz.collection.symm.trans hcollection) (hyz.key.symm.trans hkey)
  exact hyz

section

variable {α : Type} [Record α] [Kept α] {r : α}

theorem stores_wrap : g.Stores (Kept.wrap r) ↔
    documentAt (Kept.collection α) (Record.key r) g = some (Record.document r) := by
  rw [Stores, Kept.collection_wrap, GraphRecord.key, GraphRecord.document, Kept.filed_wrap]
  rfl

theorem presents_readBack
    (h : documentAt (Kept.collection α) (Record.key r) g = some (Record.document r)) :
    g.Presents (Kept.wrap (Codec.readBack r)) :=
  ⟨Kept.wrap r, stores_wrap.mpr h, .inl (Kept.readBack_wrap r).symm⟩

theorem presents_getRecord (hs : Stocked (Kept.collection α).name g.entries) {id : String}
    {found : Option α} (hx : onStore ((Kept.collection α).getRecord id) g = (.ok found, h)) :
    ∀ r ∈ found, g.Presents (Kept.wrap r) := by
  rintro r rfl
  obtain ⟨s, hs, rfl, rfl, -⟩ := hs.exists_of_recordAt (getRecord_of_ok _ hx)
  exact presents_readBack hs

theorem presents_findRecords (hs : Stocked (Kept.collection α).name g.entries) {filter : Filter}
    {options : QueryOptions} {rs : List α}
    (hx : onStore ((Kept.collection α).findRecords filter options) g = (.ok rs, h)) :
    ∀ r ∈ rs, g.Presents (Kept.wrap r) := by
  intro r hr
  obtain ⟨t, hfind, -⟩ := onStore_eq hx
  have hwf : ∀ e ∈ g.store.entries.rows (Kept.collection α).name, e.data.WellFormed := fun e he =>
    hs.wellFormed _ (List.mem_map_of_mem (f := Entries.pair) he)
  obtain ⟨e, he, hdecode⟩ := Collection.mem_of_findRecords _ hwf hfind r hr
  have hpair := List.mem_map_of_mem (f := Entries.pair) he
  obtain ⟨s, hfiled⟩ := hs.exists_filed hpair
  obtain ⟨hkey, hdocument⟩ := Prod.mk.inj hfiled
  have hread := Codec.ofDocument_document s
  rw [hdocument, hdecode] at hread
  obtain rfl := Except.ok.inj hread
  refine presents_readBack ?_
  rw [hkey, hdocument]
  exact hs.data_of_mem hpair

theorem presents_get {R : Registry α} {defined : List α} (ht : R.Tracks g defined)
    (hself : ∀ r : α, (Kept.wrap r).Reflects (Kept.wrap r)) {name : String} {found : Option α}
    (hx : R.get name g = (.ok found, h)) : ∀ r ∈ found, g.Presents (Kept.wrap r) := by
  rintro r rfl
  obtain ⟨-, hnone⟩ | ⟨s, rfl, hs, heq⟩ := ht.found hx
  · cases hnone
  · rcases heq with heq | heq
    · obtain rfl := Option.some.inj heq
      exact ⟨_, stores_wrap.mpr hs, hself r⟩
    · obtain rfl := Option.some.inj heq
      exact presents_readBack hs

end

theorem presents_thingsAt (hs : Stocked thingCollection.name g.entries) {ids : List String}
    {ts : List Thing} (hx : thingsAt ids g = (.ok ts, h)) : ∀ t ∈ ts, g.Presents (.thing t) := by
  induction ids generalizing ts g with
  | nil =>
    cases hx
    exact List.forall_mem_nil _
  | cons id rest ih =>
    obtain ⟨found, k, hthing, hx⟩ := ok_of_bind hx
    obtain ⟨others, l, hothers, hpure⟩ := ok_of_bind hx
    cases hpure
    have hk : k.entries = g.entries := (reads_thing id g _ k hthing).2
    refine List.forall_mem_append.mpr ⟨fun t ht => ?_, fun t ht => ?_⟩
    · exact presents_getRecord hs hthing t (Option.mem_toList.mp ht)
    · exact (ih (hk.symm ▸ hs) hothers t ht).of_entries hk.symm

/-- The collections of the graph are stocked, and what it remembers is stored. -/
structure Orderly (g : Graph) : Prop where
  stocked : ∀ name ∈ collectionNames, Stocked name g.entries
  nouns : ∃ defined, nounRegistry.Tracks g defined
  verbs : ∃ defined, verbRegistry.Tracks g defined

theorem Session.orderly {steps : List GraphStep} (hsession : Session collectionNames steps g)
    (hwf : ∀ s ∈ steps, s.call.WellFormed) : g.Orderly :=
  ⟨fun _ hname => hsession.stocked (List.Subset.refl _) hwf hname,
    ⟨_, (hsession.nouns (by decide) hwf).1⟩, ⟨_, hsession.verbs (by decide)⟩⟩

theorem Orderly.run_presents (hg : g.Orderly) {call : GraphCall} {reply : GraphReply}
    (hreads : call.writes = []) (hx : call.run g = (.ok reply, h)) :
    ∀ y ∈ reply.records, g.Presents y := by
  have hone {α : Type} {wrap : α → GraphRecord} {found : Option α}
      (hfound : ∀ r ∈ found, g.Presents (wrap r)) : ∀ y ∈ found.toList.map wrap, g.Presents y :=
    List.forall_mem_map.mpr fun r hr => hfound r (Option.mem_toList.mp hr)
  have hthings : Stocked thingCollection.name g.entries := hg.stocked _ (by decide)
  have hactions : Stocked actionCollection.name g.entries := hg.stocked _ (by decide)
  have hedges : Stocked relationshipCollection.name g.entries := hg.stocked _ (by decide)
  -- Reading the edges in front of the things at their ends changes no entry.
  have htraversed {member id : String} {v : Option String} {edges : List Relationship}
      {ids : List String} {ts : List Thing} {k : Graph}
      (hrelations : relationsAt member id v g = (.ok edges, k))
      (hx : thingsAt ids k = (.ok ts, h)) : ∀ y ∈ ts.map .thing, g.Presents y := by
    have hk : k.entries = g.entries := (frames_reads.relationsAt member id v g _ k hrelations).2
    exact List.forall_mem_map.mpr fun t ht =>
      (presents_thingsAt (hk.symm ▸ hthings) hx t ht).of_entries hk.symm
  cases call with
  | thing id =>
    obtain ⟨found, hget, rfl⟩ := value_of_map hx
    exact hone (presents_getRecord hthings hget)
  | findThings type filter options =>
    obtain ⟨found, hfind, rfl⟩ := value_of_map hx
    obtain ⟨f, l, hparsed, hfind⟩ := ok_of_bind hfind
    obtain rfl : g = l := congrArg Prod.snd hparsed
    exact List.forall_mem_map.mpr (presents_findRecords hthings hfind)
  | things options =>
    obtain ⟨found, hfind, rfl⟩ := value_of_map hx
    exact List.forall_mem_map.mpr (presents_findRecords hthings hfind)
  | action id =>
    obtain ⟨found, hget, rfl⟩ := value_of_map hx
    exact hone (presents_getRecord hactions hget)
  | findActions filter options =>
    obtain ⟨found, hfind, rfl⟩ := value_of_map hx
    obtain ⟨f, l, hparsed, hfind⟩ := ok_of_bind hfind
    obtain rfl : g = l := congrArg Prod.snd hparsed
    exact List.forall_mem_map.mpr (presents_findRecords hactions hfind)
  | actionsOf id =>
    obtain ⟨found, hfind, rfl⟩ := value_of_map hx
    exact List.forall_mem_map.mpr (presents_findRecords hactions hfind)
  | relationship id =>
    obtain ⟨found, hget, rfl⟩ := value_of_map hx
    exact hone (presents_getRecord hedges hget)
  | relationsFrom source v =>
    obtain ⟨found, hfind, rfl⟩ := value_of_map hx
    exact List.forall_mem_map.mpr (presents_findRecords hedges hfind)
  | relationsTo target v =>
    obtain ⟨found, hfind, rfl⟩ := value_of_map hx
    exact List.forall_mem_map.mpr (presents_findRecords hedges hfind)
  | traverse source v =>
    obtain ⟨found, htraverse, rfl⟩ := value_of_map hx
    obtain ⟨edges, l, hrelations, hfound⟩ := ok_of_bind htraverse
    exact htraversed hrelations hfound
  | traverseBack target v =>
    obtain ⟨found, htraverse, rfl⟩ := value_of_map hx
    obtain ⟨edges, l, hrelations, hfound⟩ := ok_of_bind htraverse
    exact htraversed hrelations hfound
  | noun name =>
    obtain ⟨found, hget, rfl⟩ := value_of_map hx
    obtain ⟨defined, htracks⟩ := hg.nouns
    exact hone (presents_get htracks (fun n => .inr ⟨rfl, rfl⟩) hget)
  | nouns =>
    obtain ⟨found, hfind, rfl⟩ := value_of_map hx
    exact List.forall_mem_map.mpr
      (presents_findRecords (hg.stocked nounCollection.name (by decide)) hfind)
  | verb name =>
    obtain ⟨found, hget, rfl⟩ := value_of_map hx
    obtain ⟨defined, htracks⟩ := hg.verbs
    exact hone (presents_get htracks (fun v => .inl rfl) hget)
  | verbs =>
    obtain ⟨found, hfind, rfl⟩ := value_of_map hx
    exact List.forall_mem_map.mpr
      (presents_findRecords (hg.stocked verbCollection.name (by decide)) hfind)
  | createThing | updateThing | deleteThing | log | relate | unrelate | fuzzyRelate | defineNoun
  | defineVerb | elsewhere => cases hreads
  | _ =>
    obtain ⟨a, -, rfl⟩ := value_of_map hx
    exact List.forall_mem_nil _

end Graph

end DocumentGraph
