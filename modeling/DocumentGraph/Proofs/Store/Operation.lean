import DocumentGraph.Store.Collection
set_option autoImplicit false

/-!
# Operations in sequence

An operation gives a value or an error and leaves a state. In a sequence the first error is the
error of the whole, and the state that it left stays. An operation on a store either ends as its
arguments and the entries of the table say, or the engine refuses its statement and no entry
changes.
-/

namespace DocumentGraph

abbrev Operation (σ α : Type) := ExceptT StoreError (StateM σ) α

namespace Operation

variable {σ α β : Type} {m : Operation σ α} {f : α → Operation σ β} {s t : σ}

theorem bind_apply (m : Operation σ α) (f : α → Operation σ β) (s : σ) :
    (m >>= f) s = match m s with
      | (.ok a, t) => f a t
      | (.error e, t) => (.error e, t) := by
  change (match m s with | (r, t) => ExceptT.bindCont f r t) = _
  rcases m s with ⟨_ | a, t⟩ <;> rfl

theorem bind_of_ok {a : α} (h : m s = (.ok a, t)) : (m >>= f) s = f a t := by
  rw [bind_apply, h]

theorem bind_of_error {e : StoreError} (h : m s = (.error e, t)) :
    (m >>= f) s = (.error e, t) := by
  rw [bind_apply, h]

theorem bind_congr {n : Operation σ α} (h : m s = n s) : (m >>= f) s = (n >>= f) s := by
  rw [bind_apply, bind_apply, h]

theorem ok_of_bind {b : β} (h : (m >>= f) s = (.ok b, t)) :
    ∃ a u, m s = (.ok a, u) ∧ f a u = (.ok b, t) := by
  rw [bind_apply] at h
  rcases hm : m s with ⟨_ | a, u⟩
  · rw [hm] at h
    cases h
  · rw [hm] at h
    exact ⟨a, u, rfl, h⟩

theorem error_of_bind {e : StoreError} (h : (m >>= f) s = (.error e, t)) :
    m s = (.error e, t) ∨ ∃ a u, m s = (.ok a, u) ∧ f a u = (.error e, t) := by
  rw [bind_apply] at h
  rcases hm : m s with ⟨d | a, u⟩
  · rw [hm] at h
    cases h
    exact .inl rfl
  · rw [hm] at h
    exact .inr ⟨a, u, rfl, h⟩

theorem error_of_map {g : α → β} {e : StoreError}
    (h : (m >>= fun a => pure (g a)) s = (.error e, t)) : m s = (.error e, t) := by
  rcases error_of_bind h with h | ⟨a, u, -, h⟩
  · exact h
  · cases h

theorem value_of_map {g : α → β} {b : β}
    (h : (m >>= fun a => pure (g a)) s = (.ok b, t)) : ∃ a, m s = (.ok a, t) ∧ b = g a := by
  obtain ⟨a, u, hm, hpure⟩ := ok_of_bind h
  cases hpure
  exact ⟨a, hm, rfl⟩

theorem exists_of_map {g : α → β} {r : Except StoreError β}
    (h : (m >>= fun a => pure (g a)) s = (r, t)) : ∃ q, m s = (q, t) := by
  rw [bind_apply] at h
  rcases hm : m s with ⟨e | a, u⟩
  all_goals
    rw [hm] at h
    cases h
  · exact ⟨_, rfl⟩
  · exact ⟨_, rfl⟩

/-- However the operation ends, the relation holds between the states before and after it. -/
def Steps (R : σ → σ → Prop) (m : Operation σ α) : Prop := ∀ s r t, m s = (r, t) → R s t

theorem Steps.of_bind {R : σ → σ → Prop} (htrans : ∀ {s t u}, R s t → R t u → R s u)
    (hm : Steps R m) {r : Except StoreError β} (h : (m >>= f) s = (r, t))
    (hf : ∀ a u, m s = (.ok a, u) → f a u = (r, t) → R u t) : R s t := by
  rw [bind_apply] at h
  rcases hx : m s with ⟨e | a, u⟩
  · rw [hx] at h
    cases h
    exact hm s _ _ hx
  · rw [hx] at h
    exact htrans (hm s _ u hx) (hf a u hx h)

theorem Steps.bind {R : σ → σ → Prop} (htrans : ∀ {s t u}, R s t → R t u → R s u)
    (hm : Steps R m) (hf : ∀ a, Steps R (f a)) : Steps R (m >>= f) :=
  fun _ r t h => hm.of_bind htrans h fun a u _ hx => hf a u r t hx

theorem steps_pure {R : σ → σ → Prop} (hrefl : ∀ s, R s s) (a : α) :
    Steps R (pure a : Operation σ α) := by
  intro s r t h
  cases h
  exact hrefl s

end Operation

namespace Store

/-- The engine is open and is not told to refuse a statement. -/
def Ready (s : Store) : Prop := s.database.isOpen = true ∧ s.database.refusal = none

/-- What no operation changes. -/
structure Keeps (s t : Store) : Prop where
  config : t.config = s.config
  opened : t.opened = s.opened
  isOpen : t.database.isOpen = s.database.isOpen
  ready : s.Ready → t.Ready
  reading : t.clock.reading = s.clock.reading
  taken : s.clock.taken ≤ t.clock.taken

theorem Keeps.refl (s : Store) : s.Keeps s := ⟨rfl, rfl, rfl, id, rfl, Nat.le_refl _⟩

theorem Keeps.trans {s t u : Store} (h : s.Keeps t) (k : t.Keeps u) : s.Keeps u :=
  ⟨k.config.trans h.config, k.opened.trans h.opened, k.isOpen.trans h.isOpen,
    fun r => k.ready (h.ready r), k.reading.trans h.reading, Nat.le_trans h.taken k.taken⟩

variable {α β : Type} {m : StoreM α} {s t : Store} {r : Except StoreError α} {es : Entries}

/-- The operation ends with `r` and leaves the entries `es`. -/
def Ends (m : StoreM α) (s : Store) (r : Except StoreError α) (es : Entries) : Prop :=
  ∃ t, m s = (r, t) ∧ s.Keeps t ∧ t.entries = es

/-- The engine refuses the operation, which leaves the entries as they are. -/
def Refuses (m : StoreM α) (s : Store) : Prop :=
  ¬ s.Ready ∧ ∃ d, Ends m s (.error (.storage d)) s.entries

/-- The operation ends with `r` and leaves the entries `es`, unless the engine refuses it. -/
def Yields (m : StoreM α) (s : Store) (r : Except StoreError α) (es : Entries) : Prop :=
  Ends m s r es ∨ Refuses m s

theorem Yields.of_ready (h : Yields m s r es) (hs : s.Ready) : Ends m s r es :=
  h.resolve_right fun k => k.1 hs

theorem Yields.of_ok {a : α} (h : Yields m s r es) (hm : m s = (.ok a, t)) :
    r = .ok a ∧ s.Keeps t ∧ t.entries = es := by
  rcases h with ⟨u, hu, hk, he⟩ | ⟨-, d, u, hu, -, -⟩
  · rw [hm] at hu
    cases hu
    exact ⟨rfl, hk, he⟩
  · rw [hm] at hu
    cases hu

theorem Yields.of_error {e : StoreError} (h : Yields m s r es) (hm : m s = (.error e, t)) :
    s.Keeps t ∧ ((r = .error e ∧ t.entries = es) ∨
      (∃ d, e = .storage d) ∧ t.entries = s.entries) := by
  rcases h with ⟨u, hu, hk, he⟩ | ⟨-, d, u, hu, hk, he⟩
  · rw [hm] at hu
    cases hu
    exact ⟨hk, .inl ⟨rfl, he⟩⟩
  · rw [hm] at hu
    cases hu
    exact ⟨hk, .inr ⟨⟨d, rfl⟩, he⟩⟩

theorem Yields.congr {n : StoreM α} (h : Yields n s r es) (hm : m s = n s) : Yields m s r es := by
  unfold Yields Refuses Ends at h ⊢
  rwa [hm]

theorem Yields.bind {f : α → StoreM β} {a : α} {q : Except StoreError β} {fs : Entries}
    (h : Yields m s (.ok a) es)
    (hf : ∀ t, s.Keeps t → t.entries = es → Ends (f a) t q fs) : Yields (m >>= f) s q fs := by
  rcases h with ⟨t, hm, hk, he⟩ | ⟨hs, d, t, hm, hk, he⟩
  · obtain ⟨u, hu, hk', he'⟩ := hf t hk he
    exact .inl ⟨u, by rw [Operation.bind_of_ok hm, hu], hk.trans hk', he'⟩
  · exact .inr ⟨hs, d, t, Operation.bind_of_error hm, hk, he⟩

theorem Ends.bind {f : α → StoreM β} {a : α} {q : Except StoreError β} {fs : Entries}
    (h : Ends m s (.ok a) es)
    (hf : ∀ t, s.Keeps t → t.entries = es → Ends (f a) t q fs) : Ends (m >>= f) s q fs := by
  obtain ⟨t, hm, hk, he⟩ := h
  obtain ⟨u, hu, hk', he'⟩ := hf t hk he
  exact ⟨u, by rw [Operation.bind_of_ok hm, hu], hk.trans hk', he'⟩

theorem Ends.bind_except {f : α → StoreM β} {q : α → Except StoreError β}
    (h : Ends m s r es)
    (hf : ∀ a t, s.Keeps t → t.entries = es → Ends (f a) t (q a) es) :
    Ends (m >>= f) s (r >>= q) es := by
  cases r with
  | ok a => exact h.bind fun t => hf a t
  | error e =>
    obtain ⟨t, hm, hk, he⟩ := h
    exact ⟨t, Operation.bind_of_error hm, hk, he⟩

theorem Ends.bind_yields {f : α → StoreM β} {a : α} {q : Except StoreError β} {fs : Entries}
    (h : Ends m s (.ok a) s.entries)
    (hf : ∀ t, s.Keeps t → t.entries = s.entries → Yields (f a) t q fs) :
    Yields (m >>= f) s q fs := by
  obtain ⟨t, hm, hk, he⟩ := h
  rcases hf t hk he with ⟨u, hu, hk', he'⟩ | ⟨ht, d, u, hu, hk', he'⟩
  · exact .inl ⟨u, by rw [Operation.bind_of_ok hm, hu], hk.trans hk', he'⟩
  · exact .inr ⟨fun hs => ht (hk.ready hs), d, u, by rw [Operation.bind_of_ok hm, hu],
      hk.trans hk', he'.trans he⟩

theorem check_yields {x : Except StoreError α} {f : α → StoreM β}
    {q : α → Except StoreError β} (hf : ∀ a, x = .ok a → Yields (f a) s (q a) s.entries) :
    Yields (Store.check x >>= f) s (x >>= q) s.entries := by
  cases x with
  | ok a => exact (hf a rfl).congr (Operation.bind_of_ok rfl)
  | error e => exact .inl ⟨s, Operation.bind_of_error rfl, .refl s, rfl⟩

theorem Yields.map (h : Yields m s r es) (f : α → β) :
    Yields (m >>= fun a => pure (f a)) s (r.map f) es := by
  rcases h with ⟨t, hm, hk, he⟩ | ⟨hs, d, t, hm, hk, he⟩
  · refine .inl ⟨t, ?_, hk, he⟩
    cases r with
    | ok a => exact Operation.bind_of_ok hm
    | error e => exact Operation.bind_of_error hm
  · exact .inr ⟨hs, d, t, Operation.bind_of_error hm, hk, he⟩

theorem ends_record (f : Metrics → Metrics) (s : Store) : Ends (record f) s (.ok ()) s.entries :=
  ⟨_, rfl, ⟨rfl, rfl, rfl, id, rfl, Nat.le_refl _⟩, rfl⟩

theorem ends_pure (a : α) (s : Store) : Ends (pure a) s (.ok a) s.entries :=
  ⟨s, rfl, .refl s, rfl⟩

theorem ends_check (r : Except StoreError α) (s : Store) : Ends (check r) s r s.entries :=
  ⟨s, rfl, .refl s, rfl⟩

theorem ends_readClock (s : Store) : Ends readClock s (.ok s.clock.now) s.entries :=
  ⟨_, rfl, ⟨rfl, rfl, rfl, id, rfl, Nat.le_succ _⟩, rfl⟩

variable {statement : Statement} {cursor : Cursor} {db : Database}

theorem exec_of_ok (h : s.database.exec s.config.tableName statement = (.ok cursor, db)) :
    exec statement s = (.ok cursor, { s with database := db }) := by
  unfold exec
  rw [h]

theorem exec_of_error {d : StorageError}
    (h : s.database.exec s.config.tableName statement = (.error d, db)) :
    exec statement s = (.error (.storage d), { s with database := db }) := by
  unfold exec
  rw [h]

theorem exec_yields (statement : Statement) (s : Store) :
    Yields (exec statement) s (.ok (statement.run s.entries).1) (statement.run s.entries).2 := by
  cases hopen : s.database.isOpen with
  | false =>
    have hs : ¬ s.Ready := fun h => by rw [h.1] at hopen; cases hopen
    exact .inr ⟨hs, .closed, s, exec_of_error (Database.exec_of_closed hopen _ _), .refl s, rfl⟩
  | true =>
    -- Nothing is to be refused, this statement is, or a later one.
    rcases href : s.database.refusal with _ | ⟨_ | n, message⟩
    · refine .inl ⟨_, exec_of_ok (by rw [Database.exec, if_pos hopen, href]; rfl), ?_, ?_⟩
      · exact ⟨rfl, rfl, rfl, fun _ => ⟨hopen, rfl⟩, rfl, Nat.le_refl _⟩
      · exact Database.entries_withEntries _ _ _
    · have hs : ¬ s.Ready := fun h => by rw [h.2] at href; cases href
      have hdb : s.database.exec s.config.tableName statement =
          (.error (.refused message), { s.database with refusal := none }) := by
        rw [Database.exec, if_pos hopen, href]
        rfl
      refine .inr ⟨hs, .refused message, _, exec_of_error hdb, ?_, rfl⟩
      exact ⟨rfl, rfl, rfl, fun h => absurd h hs, rfl, Nat.le_refl _⟩
    · have hs : ¬ s.Ready := fun h => by rw [h.2] at href; cases href
      refine .inl ⟨_, exec_of_ok (by rw [Database.exec, if_pos hopen, href]; rfl), ?_, ?_⟩
      · exact ⟨rfl, rfl, rfl, fun h => absurd h hs, rfl, Nat.le_refl _⟩
      · exact Database.entries_withEntries _ _ _

theorem observed_of_ok (h : exec statement s = (.ok cursor, t)) :
    observed statement s = (.ok cursor, t) := by
  unfold observed
  rw [h]

theorem observed_of_error {e : StoreError} (h : exec statement s = (.error e, t)) :
    observed statement s = (.error e, { t with metrics := t.metrics.recordError }) := by
  unfold observed
  rw [h]

theorem observed_yields (statement : Statement) (s : Store) :
    Yields (observed statement) s (.ok (statement.run s.entries).1)
      (statement.run s.entries).2 := by
  rcases exec_yields statement s with ⟨t, hm, hk, he⟩ | ⟨hs, d, t, hm, hk, he⟩
  · exact .inl ⟨t, observed_of_ok hm, hk, he⟩
  · refine .inr ⟨hs, d, _, observed_of_error hm, ?_, he⟩
    exact hk.trans ⟨rfl, rfl, rfl, id, rfl, Nat.le_refl _⟩

end Store

end DocumentGraph
