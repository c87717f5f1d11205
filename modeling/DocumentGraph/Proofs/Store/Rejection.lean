import DocumentGraph.Proofs.Store.Frame
set_option autoImplicit false

/-!
# Rejected operations

An operation is rejected if it ends with an error of validation or configuration or with one of the
matcher. It is sure if it is never rejected, and cautious if nothing is written when it is rejected.
Sure operations after a cautious one keep it cautious. An operation on a store is assured if it ends
well unless the engine refuses it, and then it is sure.
-/

namespace DocumentGraph

def StoreError.isRejection : StoreError → Bool
  | .configuration _ => true
  | .matcher _ => true
  | e => e.isValidation

namespace Operation

variable {σ α β : Type} {view : σ → Entries} {m : Operation σ α} {f : α → Operation σ β}

def Sure (m : Operation σ α) : Prop :=
  ∀ s e t, m s = (.error e, t) → e.isRejection = false

/-- When the operation is rejected no entry has changed. -/
def Cautious (view : σ → Entries) (m : Operation σ α) : Prop :=
  ∀ s e t, m s = (.error e, t) → e.isRejection = true → view t = view s

theorem Steps.cautious (hm : Steps (fun s t => view t = view s) m) : Cautious view m :=
  fun s _ t h _ => hm s _ t h

theorem Sure.cautious (hm : Sure m) : Cautious view m := by
  intro s e t h he
  rw [hm s e t h] at he
  cases he

theorem Sure.bind (hm : Sure m) (hf : ∀ a, Sure (f a)) : Sure (m >>= f) := by
  intro s e t h
  rcases error_of_bind h with h | ⟨a, u, -, h⟩
  · exact hm s e t h
  · exact hf a u e t h

theorem Cautious.before (hm : Cautious view m) (hf : ∀ a, Sure (f a)) :
    Cautious view (m >>= f) := by
  intro s e t h he
  rcases error_of_bind h with h | ⟨a, u, -, h⟩
  · exact hm s e t h he
  · rw [hf a u e t h] at he
    cases he

theorem sure_pure (a : α) : Sure (pure a : Operation σ α) := by
  intro s e t h
  cases h

end Operation

open Operation

namespace Store

variable {α β : Type} {m : StoreM α}

theorem Reads.cautious (hm : Reads m) : Cautious entries m :=
  Steps.cautious fun s r t h => (hm s r t h).2

/-- The operation ends well unless the engine refuses it. -/
def Assured (m : StoreM α) : Prop := ∀ s, ∃ a es, Yields m s (.ok a) es

theorem Assured.sure (h : Assured m) : Sure m := by
  intro s e t hm
  obtain ⟨a, es, hy⟩ := h s
  obtain ⟨-, ⟨hr, -⟩ | ⟨⟨d, rfl⟩, -⟩⟩ := hy.of_error hm
  · cases hr
  · rfl

end Store

namespace Collection

open Store

variable (c : Collection)

theorem assured_put {id : String} {doc : Json} (h : writable id doc = .ok ()) :
    Assured (c.put id doc) :=
  fun s => ⟨_, _, c.put_yields s h⟩

theorem cautious_put (id : String) (doc : Json) : Cautious entries (c.put id doc) := by
  cases hw : writable id doc with
  | error e =>
    intro s d t h _
    rw [c.put_rejected s hw] at h
    cases h
    rfl
  | ok u => exact (c.assured_put hw).sure.cautious

theorem assured_delete (id : String) : Assured (c.delete id) :=
  fun s => ⟨_, _, c.delete_yields s id⟩

theorem assured_deleteWhere {filter : Filter} (h : filter.validated = .ok ()) :
    Assured (c.deleteWhere filter) := by
  obtain ⟨p, hp, -⟩ := Filter.compile_of_valid h
  exact fun s => ⟨_, _, c.deleteWhere_yields s hp⟩

theorem cautious_deleteWhere (filter : Filter) : Cautious entries (c.deleteWhere filter) := by
  cases hv : filter.validated with
  | error e =>
    intro s d t h _
    rw [c.deleteWhere_rejected s (Filter.compile_of_invalid hv)] at h
    cases h
    rfl
  | ok u => exact (c.assured_deleteWhere hv).sure.cautious

variable {α : Type} [Record α]

theorem cautious_putRecord (r : α) : Cautious entries (c.putRecord r) := c.cautious_put _ _

theorem assured_putRecord {r : α} (h : Record.key r ≠ "") : Assured (c.putRecord r) :=
  c.assured_put (writable_eq_ok.mpr ⟨validId_eq_ok.mpr h, rfl⟩)

end Collection

theorem CollectionCall.run_cautious (c : Collection) (call : CollectionCall) :
    Cautious Store.entries (call.run c) := by
  have hmap {α : Type} {m : StoreM α} (f : α → Reply) (hm : Cautious Store.entries m) :
      Cautious Store.entries (m >>= fun a => pure (f a)) := hm.before fun a => sure_pure (f a)
  exact run_of_parts (Cautious Store.entries) c call hmap Store.Reads.cautious
    (fun id doc _ => c.cautious_put id doc) (fun id _ => (c.assured_delete id).sure.cautious)
    fun filter _ => c.cautious_deleteWhere filter

end DocumentGraph
