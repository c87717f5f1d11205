import DocumentGraph.Graph.Traversal
import DocumentGraph.Proofs.Database.Archive
import DocumentGraph.Proofs.Graph.Frame
import DocumentGraph.Proofs.Record.Filing
import DocumentGraph.Proofs.Record.Reread
set_option autoImplicit false

namespace DocumentGraph

namespace Operation

variable {σ α β : Type} {P : α → Prop} {Q : β → Prop} {m : Operation σ α}

/-- What the operation gives, if it ends well, has the property. -/
def Returns (P : α → Prop) (m : Operation σ α) : Prop := ∀ s a t, m s = (.ok a, t) → P a

theorem Returns.bind {f : α → Operation σ β} (hm : Returns P m) (hf : ∀ a, P a → Returns Q (f a)) :
    Returns Q (m >>= f) := by
  intro s b t hx
  obtain ⟨a, u, ha, hb⟩ := ok_of_bind hx
  exact hf a (hm s a u ha) u b t hb

theorem returns_pure {a : α} (h : P a) : Returns P (pure a : Operation σ α) := by
  intro s b t hx
  cases hx
  exact h

theorem Returns.map {f : α → β} (hm : Returns P m) (hf : ∀ a, P a → Q (f a)) :
    Returns Q (m >>= fun a => pure (f a)) :=
  hm.bind fun a ha => returns_pure (hf a ha)

theorem returns_any (m : Operation σ α) : Returns (fun _ => True) m := fun _ _ _ _ => trivial

end Operation

open Operation

namespace Store

variable {α : Type} {P : α → Prop}

theorem returns_check {r : Except StoreError α} (h : ∀ a, r = .ok a → P a) : Returns P (check r) := by
  intro s a t hx
  exact h a (congrArg Prod.fst hx)

end Store

namespace Collection

variable (c : Collection)

theorem legible_of_decode {row : SqlRow} {d : Document} (h : c.decode row = .ok d) :
    d.data.Legible := by
  unfold decode at h
  split at h
  · next hread =>
    cases h
    exact Json.fits_of_read hread
  · cases h

theorem legible_of_decoded {rows : List SqlRow} {docs : List Document}
    (h : c.decodeAll rows = .ok docs) : ∀ d ∈ docs, d.data.Legible := by
  induction rows generalizing docs with
  | nil =>
    cases h
    exact List.forall_mem_nil _
  | cons row rest ih =>
    rw [decodeAll] at h
    cases hrow : c.decode row with
    | error e =>
      rw [hrow] at h
      cases h
    | ok d =>
      cases hrest : c.decodeAll rest with
      | error e =>
        rw [hrow, hrest] at h
        cases h
      | ok ds =>
        rw [hrow, hrest] at h
        cases h
        exact List.forall_mem_cons.mpr ⟨c.legible_of_decode hrow, ih hrest⟩

theorem returns_getDocument (id : String) :
    Returns (fun found => ∀ d, found = some d → d.data.Legible) (c.getDocument id) := by
  refine (returns_any _).bind fun cursor _ => ?_
  split
  · refine (Store.returns_check fun d hd => c.legible_of_decode hd).bind fun d hd => ?_
    refine (returns_any _).bind fun _ _ => returns_pure ?_
    rintro _ ⟨⟩
    exact hd
  · exact (returns_any _).bind fun _ _ => returns_pure nofun

theorem returns_get (id : String) :
    Returns (fun found => ∀ doc, found = some doc → doc.Legible) (c.get id) := by
  refine (c.returns_getDocument id).map fun found hfound doc hdoc => ?_
  obtain ⟨d, hd, rfl⟩ := Option.map_eq_some_iff.mp hdoc
  exact hfound d hd

theorem returns_findDocuments (filter : Filter) (options : QueryOptions) :
    Returns (fun docs => ∀ d ∈ docs, d.data.Legible) (c.findDocuments filter options) := by
  refine (returns_any _).bind fun predicate _ => (returns_any _).bind fun tail _ =>
    (returns_any _).bind fun cursor _ => ?_
  refine (Store.returns_check fun docs hdocs => c.legible_of_decoded hdocs).bind fun docs hdocs => ?_
  exact (returns_any _).bind fun _ _ => returns_pure hdocs

theorem returns_find (filter : Json) (options : QueryOptions) :
    Returns (fun docs => ∀ doc ∈ docs, doc.Legible) (c.find filter options) := by
  refine (returns_any _).bind fun f _ => (c.returns_findDocuments f options).map fun docs hdocs => ?_
  exact List.forall_mem_map.mpr hdocs

variable {α : Type} [Record α] [Codec α]

theorem legible_of_decodeRecord {id : String} {doc : Json} {r : α} (hdoc : doc.Legible)
    (h : c.decodeRecord id doc = .ok r) : (Record.document r).Legible := by
  obtain ⟨ms, rfl, hbuild⟩ := Record.ok_of_ofDocument (c.ok_of_decodeRecord h)
  exact Codec.legible (Described.build_eq_ok.mp hbuild) hdoc

theorem returns_getRecord (id : String) :
    Returns (fun found => ∀ r : α, found = some r → (Record.document r).Legible)
      (c.getRecord id) := by
  refine (c.returns_get id).bind fun found hfound => ?_
  split
  · next doc =>
    refine (Store.returns_check fun r hr => c.legible_of_decodeRecord (hfound doc rfl) hr).bind
      fun r hr => returns_pure ?_
    rintro _ ⟨⟩
    exact hr
  · exact returns_pure nofun

theorem returns_findRecords (filter : Filter) (options : QueryOptions) :
    Returns (fun rs => ∀ r ∈ rs, (Record.document (r : α)).Legible) (c.findRecords filter options) := by
  refine (c.returns_findDocuments filter options).bind fun docs hdocs => Store.returns_check ?_
  induction docs with
  | nil =>
    rintro _ ⟨⟩
    exact List.forall_mem_nil _
  | cons d rest ih =>
    obtain ⟨hd, hrest⟩ := List.forall_mem_cons.mp hdocs
    intro rs hdecoded
    obtain ⟨r, rs, hr, hrs, rfl⟩ := c.ok_of_decodeRecords hdecoded
    exact List.forall_mem_cons.mpr ⟨c.legible_of_decodeRecord hd hr, ih hrest rs hrs⟩

end Collection

namespace Graph

theorem returns_onStore {α : Type} {P : α → Prop} {x : StoreM α} (hx : Returns P x) :
    Returns P (onStore x) := by
  intro g a h hrun
  obtain ⟨t, hs, -⟩ := onStore_eq hrun
  exact hx _ a t hs

abbrev AllLegible {α : Type} [Record α] (rs : List α) : Prop := ∀ r ∈ rs, (Record.document r).Legible

theorem returns_thingsAt (ids : List String) : Returns AllLegible (thingsAt ids) := by
  induction ids with
  | nil => exact returns_pure (List.forall_mem_nil _)
  | cons id rest ih =>
    refine (returns_onStore (thingCollection.returns_getRecord id)).bind fun found hfound => ?_
    refine ih.map fun others hothers => List.forall_mem_append.mpr ⟨fun t ht => ?_, hothers⟩
    exact hfound t (Option.mem_toList.mp ht)

theorem returns_traverse (source verb : String) : Returns AllLegible (traverse source verb) :=
  (returns_any _).bind fun _ _ => returns_thingsAt _

theorem returns_traverseBack (target verb : String) :
    Returns AllLegible (traverseBack target verb) :=
  (returns_any _).bind fun _ _ => returns_thingsAt _

theorem returns_findThings (type : Option String) (filter : Json) (options : QueryOptions) :
    Returns AllLegible (findThings type filter options) :=
  (returns_any _).bind fun _ _ => returns_onStore (thingCollection.returns_findRecords _ options)

theorem returns_actionsOf (id : String) : Returns AllLegible (actionsOf id) :=
  returns_onStore (actionCollection.returns_findRecords _ _)

end Graph

end DocumentGraph
