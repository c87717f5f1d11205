import DocumentGraph.Proofs.Filter.Strictness
import DocumentGraph.Proofs.Store.Calls
import DocumentGraph.Store.Record
set_option autoImplicit false

/-!
# Queries on strict and on lenient stores

An operation is carried over from one state to another one if it succeeds there with the same value whenever
it succeeds. What a query gives depends on the contents of the store and on how strictly its filter is read,
so every query is carried over to a lenient store with the same contents.
-/

namespace DocumentGraph

namespace Operation

variable {σ α β : Type} {R : σ → σ → Prop} {m : Operation σ α}

/-- Where the operation succeeds, it succeeds with the same value in every related state. -/
def Carries (R : σ → σ → Prop) (m : Operation σ α) : Prop :=
  ∀ s t a s', R s t → m s = (.ok a, s') → ∃ t', m t = (.ok a, t') ∧ R s' t'

theorem Carries.bind {f : α → Operation σ β} (hm : Carries R m) (hf : ∀ a, Carries R (f a)) :
    Carries R (m >>= f) := by
  intro s t b s' hst h
  obtain ⟨a, u, hu, hfu⟩ := ok_of_bind h
  obtain ⟨v, hv, huv⟩ := hm s t a u hst hu
  obtain ⟨t', ht', hst'⟩ := hf a u v b s' huv hfu
  exact ⟨t', by rw [bind_of_ok hv, ht'], hst'⟩

theorem carries_pure (a : α) : Carries R (pure a : Operation σ α) := by
  intro s t b s' hst h
  cases h
  exact ⟨t, rfl, hst⟩

theorem Carries.map (hm : Carries R m) (f : α → β) : Carries R (m >>= fun a => pure (f a)) :=
  hm.bind fun a => carries_pure (f a)

end Operation

open Operation

namespace Store

/-- The second store is lenient, ready and has the contents of the first one. -/
structure Loosened (s t : Store) : Prop where
  lenient : t.config.strictFilters = false
  ready : t.Ready
  contents : t.entries = s.entries

variable {α : Type} {m : StoreM α}

theorem carries_of_yields (result : Entries → Except StoreError α)
    (h : ∀ s, Yields m s (result s.entries) s.entries) : Carries Loosened m := by
  intro s t a s' hst hm
  obtain ⟨hresult, -, hleft⟩ := (h s).of_ok hm
  obtain ⟨t', ht', hkeeps, hentries⟩ := (h t).of_ready hst.ready
  rw [hst.contents, hresult] at ht'
  refine ⟨t', ht', hkeeps.config ▸ hst.lenient, hkeeps.ready hst.ready, ?_⟩
  rw [hentries, hst.contents, hleft]

theorem carries_check (r : Except StoreError α) : Carries Loosened (check r) :=
  carries_of_yields (fun _ => r) fun s => .inl (ends_check r s)

end Store

namespace Collection

open Store

variable (c : Collection)

theorem carries_parsed (filter : Json) : Carries Loosened (parsed filter) := by
  intro s t f s' hst h
  rw [parsed] at h
  obtain ⟨hf, hs⟩ := Prod.mk.inj h
  have hlenient : Filter.ofJson false filter = .ok f := by
    cases hstrict : s.config.strictFilters with
    | true =>
      rw [hstrict] at hf
      exact (Filter.tightens_ofJson filter).ok_of_strict hf
    | false => rwa [hstrict] at hf
  exact ⟨t, by rw [parsed, hst.lenient, hlenient], hs ▸ hst⟩

theorem carries_getDocument (id : String) : Carries Loosened (c.getDocument id) :=
  carries_of_yields (c.fetched id) fun s => c.getDocument_yields s id

theorem carries_get (id : String) : Carries Loosened (c.get id) := (c.carries_getDocument id).map _

theorem carries_has (id : String) : Carries Loosened (c.has id) :=
  carries_of_yields (fun es => .ok (es.fetch c.name id).isSome) fun s => c.has_yields s id

theorem carries_findDocuments (filter : Filter) (options : QueryOptions) :
    Carries Loosened (c.findDocuments filter options) :=
  carries_of_yields (c.selected filter options) fun s => c.findDocuments_yields s filter options

theorem carries_findWhere (filter : Filter) (options : QueryOptions) :
    Carries Loosened (c.findWhere filter options) :=
  (c.carries_findDocuments filter options).map _

theorem carries_countWhere (filter : Filter) : Carries Loosened (c.countWhere filter) :=
  carries_of_yields (fun es => filter.compile.map fun p => counted (es.select c.name p).length)
    fun s => c.countWhere_yields s filter

theorem carries_keys : Carries Loosened c.keys :=
  carries_of_yields (fun es => .ok (es.keys c.name)) fun s => c.keys_yields s

variable {α : Type} [Record α]

theorem carries_getRecord (id : String) : Carries Loosened (c.getRecord id : StoreM (Option α)) := by
  refine (c.carries_get id).bind fun found => ?_
  cases found with
  | some data => exact (carries_check _).map _
  | none => exact carries_pure none

theorem carries_findRecords (filter : Filter) (options : QueryOptions) :
    Carries Loosened (c.findRecords filter options : StoreM (List α)) :=
  (c.carries_findDocuments filter options).bind fun _ => carries_check _

end Collection

namespace CollectionCall

open Store

def isQuery : CollectionCall → Bool
  | put _ _ | delete _ | deleteWhere _ | clear => false
  | _ => true

/-- A query that succeeds gives the same on a lenient store with the same contents. -/
theorem run_carries (c : Collection) {call : CollectionCall} (h : call.isQuery = true) :
    Carries Loosened (call.run c) := by
  cases call with
  | get id => exact (c.carries_get id).map _
  | getDocument id => exact (c.carries_getDocument id).map _
  | has id => exact (c.carries_has id).map _
  | findDocuments filter options => exact (c.carries_findDocuments filter options).map _
  | findWhere filter options => exact (c.carries_findWhere filter options).map _
  | find filter options =>
    exact ((Collection.carries_parsed filter).bind fun f => c.carries_findWhere f options).map _
  | list options => exact (c.carries_findWhere .all options).map _
  | countWhere filter => exact (c.carries_countWhere filter).map _
  | count filter =>
    exact ((Collection.carries_parsed filter).bind fun f => c.carries_countWhere f).map _
  | keys => exact c.carries_keys.map _
  | _ => cases h

end CollectionCall

end DocumentGraph
