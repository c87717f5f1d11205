import DocumentGraph.Proofs.Store.Calls
import DocumentGraph.Store.Record
set_option autoImplicit false

namespace DocumentGraph

open Operation

namespace Store

variable {α β : Type} {name : String} {m : StoreM α}

def Reads (m : StoreM α) : Prop := Steps (fun s t => s.Keeps t ∧ t.entries = s.entries) m

/-- The operation leaves the entries of a collection as they are. -/
def Spares (name : String) (m : StoreM α) : Prop :=
  Steps (fun s t => s.Keeps t ∧ t.entries.rows name = s.entries.rows name) m

theorem Reads.spares (hm : Reads m) : Spares name m := by
  intro s r t h
  obtain ⟨hk, he⟩ := hm s r t h
  exact ⟨hk, by rw [he]⟩

theorem Reads.bind {f : α → StoreM β} (hm : Reads m) (hf : ∀ a, Reads (f a)) : Reads (m >>= f) :=
  Steps.bind (fun h k => ⟨h.1.trans k.1, k.2.trans h.2⟩) hm hf

theorem Spares.bind {f : α → StoreM β} (hm : Spares name m) (hf : ∀ a, Spares name (f a)) :
    Spares name (m >>= f) :=
  Steps.bind (fun h k => ⟨h.1.trans k.1, k.2.trans h.2⟩) hm hf

theorem reads_pure (a : α) : Reads (pure a) := steps_pure (fun s => ⟨.refl s, rfl⟩) a

theorem Yields.state {s t : Store} {r q : Except StoreError α} {es : Entries} (h : Yields m s r es)
    (hm : m s = (q, t)) : s.Keeps t ∧ (t.entries = es ∨ t.entries = s.entries) := by
  rcases h with ⟨u, hu, hk, he⟩ | ⟨-, d, u, hu, hk, he⟩
  · rw [hm] at hu
    cases hu
    exact ⟨hk, .inl he⟩
  · rw [hm] at hu
    cases hu
    exact ⟨hk, .inr he⟩

theorem reads_of_yields (h : ∀ s, ∃ r, Yields m s r s.entries) : Reads m := by
  intro s r t hm
  obtain ⟨q, hy⟩ := h s
  obtain ⟨hk, he⟩ := hy.state hm
  exact ⟨hk, he.elim id id⟩

theorem spares_of_yields
    (h : ∀ s, ∃ r es, Yields m s r es ∧ es.rows name = s.entries.rows name) : Spares name m := by
  intro s r t hm
  obtain ⟨q, es, hy, hes⟩ := h s
  obtain ⟨hk, he | he⟩ := hy.state hm
  · exact ⟨hk, by rw [he, hes]⟩
  · exact ⟨hk, by rw [he]⟩

theorem reads_check (r : Except StoreError α) : Reads (check r) :=
  reads_of_yields fun s => ⟨r, .inl (ends_check r s)⟩

theorem reads_readClock : Reads readClock :=
  reads_of_yields fun s => ⟨.ok s.clock.now, .inl (ends_readClock s)⟩

def Timeless (m : StoreM α) : Prop := Steps (fun s t => t.clock = s.clock) m

theorem Timeless.bind {f : α → StoreM β} (hm : Timeless m) (hf : ∀ a, Timeless (f a)) :
    Timeless (m >>= f) :=
  Steps.bind (fun h k => k.trans h) hm hf

theorem timeless_pure (a : α) : Timeless (pure a) := by
  intro s r t h
  cases h
  rfl

theorem timeless_check (r : Except StoreError α) : Timeless (check r) := by
  intro s q t h
  cases h
  rfl

theorem timeless_record (f : Metrics → Metrics) : Timeless (record f) := by
  intro s r t h
  cases h
  rfl

theorem timeless_observed (statement : Statement) : Timeless (observed statement) := by
  have hexec : Timeless (exec statement) := by
    intro s r t h
    unfold exec at h
    split at h <;>
    · cases h
      rfl
  intro s r t h
  unfold observed at h
  split at h <;>
  · next heq =>
    cases h
    have hclock := hexec s _ _ heq
    exact hclock

end Store

namespace Collection

open Store

variable {name : String} (c : Collection)

theorem reads_getDocument (id : String) : Reads (c.getDocument id) :=
  reads_of_yields fun s => ⟨_, c.getDocument_yields s id⟩

theorem reads_get (id : String) : Reads (c.get id) :=
  reads_of_yields fun s => ⟨_, c.get_yields s id⟩

theorem reads_has (id : String) : Reads (c.has id) :=
  reads_of_yields fun s => ⟨_, c.has_yields s id⟩

theorem reads_findDocuments (filter : Filter) (options : QueryOptions) :
    Reads (c.findDocuments filter options) :=
  reads_of_yields fun s => ⟨_, c.findDocuments_yields s filter options⟩

theorem reads_findWhere (filter : Filter) (options : QueryOptions) :
    Reads (c.findWhere filter options) :=
  reads_of_yields fun s => ⟨_, c.findWhere_yields s filter options⟩

theorem reads_countWhere (filter : Filter) : Reads (c.countWhere filter) :=
  reads_of_yields fun s => ⟨_, c.countWhere_yields s filter⟩

theorem reads_keys : Reads c.keys := reads_of_yields fun s => ⟨_, c.keys_yields s⟩

theorem reads_parsed (filter : Json) : Reads (parsed filter) :=
  reads_of_yields fun s => ⟨Filter.ofJson s.config.strictFilters filter,
    .inl ⟨s, rfl, .refl s, rfl⟩⟩

variable {c}

theorem spares_put (h : c.name ≠ name) (id : String) (doc : Json) : Spares name (c.put id doc) := by
  refine spares_of_yields fun s => ?_
  cases hw : writable id doc with
  | error e => exact ⟨_, s.entries, .inl ⟨s, c.put_rejected s hw, .refl s, rfl⟩, rfl⟩
  | ok u => exact ⟨_, _, c.put_yields s hw, Entries.rows_put_of_ne h _ _ _⟩

theorem spares_delete (h : c.name ≠ name) (id : String) : Spares name (c.delete id) :=
  spares_of_yields fun s => ⟨_, _, c.delete_yields s id, Entries.rows_remove_of_ne h _ _⟩

theorem spares_deleteWhere (h : c.name ≠ name) (filter : Filter) :
    Spares name (c.deleteWhere filter) := by
  refine spares_of_yields fun s => ?_
  cases hp : filter.compile with
  | error e => exact ⟨_, s.entries, .inl ⟨s, c.deleteWhere_rejected s hp, .refl s, rfl⟩, rfl⟩
  | ok p => exact ⟨_, _, c.deleteWhere_yields s hp, Entries.rows_removeWhere_of_ne h _ _⟩

variable {α : Type} [Record α]

theorem spares_putRecord (h : c.name ≠ name) (r : α) : Spares name (c.putRecord r) :=
  spares_put h _ _

variable (c)

theorem reads_getRecord (id : String) : Reads (c.getRecord id : StoreM (Option α)) := by
  refine (c.reads_get id).bind fun found => ?_
  cases found with
  | none => exact reads_pure none
  | some data => exact (Store.reads_check _).bind fun r => reads_pure (some r)

theorem reads_findRecords (filter : Filter) (options : QueryOptions) :
    Reads (c.findRecords filter options : StoreM (List α)) :=
  (c.reads_findDocuments filter options).bind fun _ => Store.reads_check _

theorem isSome_get {id : String} (s : Store) {found : Option Json} {t : Store}
    (h : c.get id s = (.ok found, t)) : found.isSome = (s.entries.fetch c.name id).isSome := by
  obtain ⟨hfound, -, -⟩ := (c.get_yields s id).of_ok h
  unfold fetched at hfound
  cases hf : s.entries.fetch c.name id with
  | none =>
    rw [hf] at hfound
    cases hfound
    rfl
  | some e =>
    rw [hf] at hfound
    simp only at hfound
    cases hd : c.decode (Cursor.documentRow e) with
    | error e =>
      rw [hd] at hfound
      cases hfound
    | ok doc =>
      rw [hd] at hfound
      cases hfound
      rfl

theorem isSome_getRecord {id : String} (s : Store) {r : Option α} {t : Store}
    (h : c.getRecord id s = (.ok r, t)) : r.isSome = (s.entries.fetch c.name id).isSome := by
  obtain ⟨found, s₁, hget, h⟩ := Operation.ok_of_bind h
  rw [← c.isSome_get s hget]
  cases found with
  | none =>
    cases h
    rfl
  | some data =>
    obtain ⟨a, s₂, -, h⟩ := Operation.ok_of_bind h
    cases h
    rfl

theorem timeless_getRecord (id : String) : Timeless (c.getRecord id : StoreM (Option α)) := by
  have hget : Timeless (c.getDocument id) := by
    refine (timeless_observed _).bind fun cursor => ?_
    cases cursor.one? with
    | some row =>
      exact (timeless_check _).bind fun _ => (timeless_record _).bind fun _ => timeless_pure _
    | none => exact (timeless_record _).bind fun _ => timeless_pure _
  refine (hget.bind fun _ => timeless_pure _).bind fun found => ?_
  cases found with
  | some data => exact (timeless_check _).bind fun _ => timeless_pure _
  | none => exact timeless_pure _

end Collection

namespace CollectionCall

open Store

/-- What holds of everything that reads, of putting and of deleting holds of every call: a call gives
something made of what one of these gives. -/
theorem run_of_parts (P : ∀ {α : Type}, StoreM α → Prop) (c : Collection) (call : CollectionCall)
    (map : ∀ {α : Type} {m : StoreM α} (f : α → Reply), P m → P (m >>= fun a => pure (f a)))
    (reads : ∀ {α : Type} {m : StoreM α}, Reads m → P m)
    (puts : ∀ id doc, call = .put id doc → P (c.put id doc))
    (deletes : ∀ id, call = .delete id → P (c.delete id))
    (clears : ∀ filter, call = .deleteWhere filter ∨ call = .clear → P (c.deleteWhere filter)) :
    P (call.run c) := by
  cases call with
  | put id doc => exact map _ (puts id doc rfl)
  | get id => exact map _ (reads (c.reads_get id))
  | getDocument id => exact map _ (reads (c.reads_getDocument id))
  | has id => exact map _ (reads (c.reads_has id))
  | delete id => exact map _ (deletes id rfl)
  | findDocuments filter options => exact map _ (reads (c.reads_findDocuments filter options))
  | findWhere filter options => exact map _ (reads (c.reads_findWhere filter options))
  | find filter options =>
    exact map _ (reads ((Collection.reads_parsed filter).bind fun f => c.reads_findWhere f options))
  | list options => exact map _ (reads (c.reads_findWhere .all options))
  | countWhere filter => exact map _ (reads (c.reads_countWhere filter))
  | count filter =>
    exact map _ (reads ((Collection.reads_parsed filter).bind fun f => c.reads_countWhere f))
  | keys => exact map _ (reads c.reads_keys)
  | deleteWhere filter => exact map _ (clears filter (.inl rfl))
  | clear => exact map _ (clears .all (.inr rfl))

theorem run_spares {name other : String} (h : name ≠ other) (call : CollectionCall) :
    Spares other (call.run ⟨name⟩) := by
  have hmap {α : Type} {m : StoreM α} (f : α → Reply) (hm : Spares other m) :
      Spares other (m >>= fun a => pure (f a)) := hm.bind fun a => (reads_pure (f a)).spares
  exact run_of_parts (Spares other) ⟨name⟩ call hmap Reads.spares
    (fun id doc _ => Collection.spares_put h id doc) (fun id _ => Collection.spares_delete h id)
    fun filter _ => Collection.spares_deleteWhere h filter

end CollectionCall

end DocumentGraph
