import DocumentGraph.Proofs.Store.Calls
import DocumentGraph.Proofs.Store.Rejection
set_option autoImplicit false

namespace DocumentGraph

/-- The error of what was checked first, or else that the engine is closed. -/
def StoreError.orClosed : Except StoreError Unit → StoreError
  | .error e => e
  | .ok _ => .storage .closed

/-- A check fails only with errors of the arguments, of the configuration and of the matcher. -/
def Rejects {α : Type} (x : Except StoreError α) : Prop := ∀ e, x = .error e → e.isRejection = true

namespace Rejects

variable {α β : Type} {x : Except StoreError α}

theorem ok (a : α) : Rejects (.ok a) := nofun

theorem error {e : StoreError} (he : e.isRejection = true) : Rejects (.error e : Except _ α) := by
  rintro d ⟨⟩
  exact he

theorem bind {f : α → Except StoreError β} (hx : Rejects x) (hf : ∀ a, Rejects (f a)) :
    Rejects (x >>= f) := by
  cases x with
  | ok a => exact hf a
  | error e => exact error (hx e rfl)

theorem map (hx : Rejects x) (f : α → β) : Rejects (x.map f) := by
  cases x with
  | ok a => exact ok (f a)
  | error e => exact error (hx e rfl)

end Rejects

theorem rejects_validId (id : String) : Rejects (validId id) := by
  unfold validId
  split
  · exact .error rfl
  · exact .ok ()

theorem rejects_validDocument (doc : Json) : Rejects (validDocument doc) := by
  unfold validDocument
  split
  · exact .ok ()
  · exact .error rfl

theorem rejects_validField (name : String) : Rejects (validField name) := by
  unfold validField
  split
  · exact .ok _
  · exact .error rfl

namespace Filter

theorem rejects_validated (filter : Filter) : Rejects filter.validated := by
  unfold validated
  split
  · exact .error rfl
  · exact .ok ()

variable (strict : Bool)

theorem rejects_plainClause (key : String) (value : Json) :
    Rejects (plainClause strict key value) := by
  refine (rejects_validField key).bind fun _ => ?_
  unfold fieldClause
  split
  · split
    · exact .ok _
    · split
      · split
        · exact .error rfl
        · exact .ok _
      · exact .ok _
  · exact .ok _

mutual

theorem rejects_ofJson : ∀ j, Rejects (ofJson strict j)
  | .null => .ok _
  | .object members => by
    rw [ofJson]
    exact (rejects_clauses members).map _
  | .bool _ | .number _ | .string _ | .array _ => .error rfl

theorem rejects_clauses : ∀ members, Rejects (clauses strict members)
  | [] => .ok _
  | (key, value) :: rest => by
    rw [clauses]
    exact (rejects_clause key value).bind fun _ => (rejects_clauses rest).bind fun _ => .ok _

theorem rejects_clause (key : String) : ∀ value, Rejects (clause strict key value)
  | .array items => by
    rw [clause]
    split
    · exact (rejects_children items).map _
    · split
      · exact (rejects_children items).map _
      · exact rejects_plainClause strict key _
  | .null | .bool _ | .number _ | .string _ | .object _ => by
    unfold clause
    split
    · exact .error rfl
    · exact rejects_plainClause strict key _

theorem rejects_children : ∀ items, Rejects (children strict items)
  | [] => .ok _
  | j :: rest => by
    rw [children]
    exact (rejects_ofJson j).bind fun _ => (rejects_children rest).bind fun _ => .ok _

end

end Filter

theorem QueryOptions.rejects_tail (o : QueryOptions) : Rejects o.tail := by
  unfold tail
  split
  · exact .error rfl
  · split
    · refine .map ?_ _
      unfold validSortToken
      split
      · exact .ok _
      · exact .error rfl
    · exact .ok _

namespace Operation

variable {σ α β : Type} {R : σ → σ → Prop} {m : Operation σ α} {f : α → Operation σ β} {s t : σ}
  {x : Except StoreError Unit}

/-- The operation fails with the error of the check, or else because the engine is closed. -/
def Blocked (R : σ → σ → Prop) (x : Except StoreError Unit) (m : Operation σ α) (s : σ) : Prop :=
  ∃ t, m s = (.error (.orClosed x), t) ∧ R s t

theorem Blocked.bind (h : Blocked R x m s) : Blocked R x (m >>= f) s := by
  obtain ⟨t, hm, ht⟩ := h
  exact ⟨t, bind_of_error hm, ht⟩

theorem Blocked.before (htrans : ∀ {s t u}, R s t → R t u → R s u) {y : Except StoreError α}
    {z : α → Except StoreError Unit} (hm : m s = (y, t)) (ht : R s t)
    (hf : ∀ a, y = .ok a → Blocked R (z a) (f a) t) : Blocked R (y >>= z) (m >>= f) s := by
  cases y with
  | ok a =>
    obtain ⟨u, hx, hu⟩ := hf a rfl
    exact ⟨u, (bind_of_ok hm).trans hx, htrans ht hu⟩
  | error e => exact ⟨t, bind_of_error hm, ht⟩

theorem Blocked.after (htrans : ∀ {s t u}, R s t → R t u → R s u) {a : α} (hm : m s = (.ok a, t))
    (ht : R s t) (hf : Blocked R x (f a) t) : Blocked R x (m >>= f) s := by
  refine Blocked.before (R := R) htrans (y := .ok a) (z := fun _ => x) hm ht fun b hb => ?_
  obtain rfl := Except.ok.inj hb
  exact hf

theorem Blocked.check (hrefl : ∀ s, R s s) {y : Except StoreError α} {z : α → Except StoreError Unit}
    (hm : m s = (y, s)) (hf : ∀ a, y = .ok a → Blocked R (z a) (f a) s) :
    Blocked R (y >>= z) (m >>= f) s := by
  cases y with
  | ok a =>
    obtain ⟨t, hx, ht⟩ := hf a rfl
    exact ⟨t, (bind_of_ok hm).trans hx, ht⟩
  | error e => exact ⟨s, bind_of_error hm, hrefl s⟩

theorem Blocked.checked (hrefl : ∀ s, R s s) {m : Operation σ Unit} {f : Unit → Operation σ β}
    (hm : m s = (x, s)) (hf : x = .ok () → Blocked R (.ok ()) (f ()) s) :
    Blocked R x (m >>= f) s := by
  cases x with
  | ok u =>
    obtain ⟨t, hx, ht⟩ := hf rfl
    exact ⟨t, (bind_of_ok hm).trans hx, ht⟩
  | error e => exact ⟨s, bind_of_error hm, hrefl s⟩

end Operation

open Operation

namespace Store

structure Frozen (s t : Store) : Prop where
  database : t.database = s.database
  config : t.config = s.config

theorem Frozen.refl (s : Store) : s.Frozen s := ⟨rfl, rfl⟩

theorem Frozen.trans {s t u : Store} (hst : s.Frozen t) (htu : t.Frozen u) : s.Frozen u :=
  ⟨htu.database.trans hst.database, htu.config.trans hst.config⟩

variable {s : Store}

theorem exec_closed (h : s.database.isOpen = false) (statement : Statement) :
    exec statement s = (.error (.storage .closed), s) :=
  exec_of_error (Database.exec_of_closed h _ _)

theorem blocked_observed (h : s.database.isOpen = false) (statement : Statement) :
    Blocked Frozen (.ok ()) (observed statement) s :=
  ⟨_, observed_of_error (exec_closed h statement), rfl, rfl⟩

theorem blocked_collections (h : s.database.isOpen = false) :
    Blocked Frozen (.ok ()) collections s :=
  .bind ⟨s, exec_closed h .collections, .refl s⟩

end Store

namespace Collection

open Store

variable (c : Collection) {s : Store} {x : Except StoreError Unit}

theorem blocked_compile {α : Type} {filter : Filter} {f : Predicate → StoreM α}
    (hf : ∀ p, Blocked Frozen x (f p) s) :
    Blocked Frozen (filter.validated >>= fun _ => x) (check filter.compile >>= f) s := by
  cases hv : filter.validated with
  | ok u =>
    obtain ⟨p, hp, -⟩ := Filter.compile_of_valid hv
    exact .after .trans (congrArg (fun r => (r, s)) hp) (.refl s) (hf p)
  | error e =>
    exact ⟨s, bind_of_error (congrArg (fun r => (r, s)) (Filter.compile_of_invalid hv)), .refl s⟩

theorem blocked_compiled {α : Type} {filter : Filter} {f : Predicate → StoreM α}
    (hf : ∀ p, Blocked Frozen (.ok ()) (f p) s) :
    Blocked Frozen filter.validated (check filter.compile >>= f) s := by
  have hblocked : Blocked Frozen (filter.validated >>= fun _ => .ok ())
      (check filter.compile >>= f) s := blocked_compile hf
  cases hv : filter.validated with
  | ok u =>
    rw [hv] at hblocked
    exact hblocked
  | error e =>
    rw [hv] at hblocked
    exact hblocked

def searchable (filter : Filter) (options : QueryOptions) : Except StoreError Unit := do
  filter.validated
  let _ ← options.tail
  .ok ()

theorem rejects_searchable (filter : Filter) (options : QueryOptions) :
    Rejects (searchable filter options) :=
  filter.rejects_validated.bind fun _ => options.rejects_tail.bind fun _ => .ok ()

variable (h : s.database.isOpen = false)

include h

theorem blocked_put (id : String) (doc : Json) :
    Blocked Frozen (writable id doc) (c.put id doc) s := by
  refine .check .refl rfl fun _ _ => .checked .refl rfl fun _ => ?_
  let t : Store := { s with clock := s.clock.advance }
  have hput : Blocked Frozen (.ok ()) (observed (.put c.name id doc s.clock.now)) t :=
    blocked_observed (s := t) h _
  exact .after .trans (t := t) rfl ⟨rfl, rfl⟩ hput.bind

theorem blocked_getDocument (id : String) : Blocked Frozen (.ok ()) (c.getDocument id) s :=
  (blocked_observed h _).bind

theorem blocked_get (id : String) : Blocked Frozen (.ok ()) (c.get id) s :=
  (c.blocked_getDocument h id).bind

theorem blocked_delete (id : String) : Blocked Frozen (.ok ()) (c.delete id) s :=
  (blocked_observed h _).bind

theorem blocked_findDocuments (filter : Filter) (options : QueryOptions) :
    Blocked Frozen (searchable filter options) (c.findDocuments filter options) s :=
  blocked_compile fun _ => .check .refl rfl fun _ _ => (blocked_observed h _).bind

theorem blocked_findWhere (filter : Filter) (options : QueryOptions) :
    Blocked Frozen (searchable filter options) (c.findWhere filter options) s :=
  (c.blocked_findDocuments h filter options).bind

theorem blocked_countWhere (filter : Filter) :
    Blocked Frozen filter.validated (c.countWhere filter) s :=
  blocked_compiled fun _ => (blocked_observed h _).bind

theorem blocked_deleteWhere (filter : Filter) :
    Blocked Frozen filter.validated (c.deleteWhere filter) s :=
  blocked_compiled fun _ => (blocked_observed h _).bind

variable {α : Type} [Record α]

theorem blocked_putRecord {r : α} (hr : Record.key r ≠ "") :
    Blocked Frozen (.ok ()) (c.putRecord r) s := by
  rw [← writable_eq_ok.mpr ⟨validId_eq_ok.mpr hr, (rfl : validDocument (Record.document r) = .ok ())⟩]
  exact c.blocked_put h _ _

theorem blocked_getRecord (id : String) :
    Blocked Frozen (.ok ()) (c.getRecord id : StoreM (Option α)) s :=
  (c.blocked_get h id).bind

theorem blocked_findRecords (filter : Filter) (options : QueryOptions) :
    Blocked Frozen (searchable filter options) (c.findRecords filter options : StoreM (List α)) s :=
  (c.blocked_findDocuments h filter options).bind

end Collection

namespace CollectionCall

open Store Collection

def checked (strict : Bool) : CollectionCall → Except StoreError Unit
  | put id doc => writable id doc
  | findDocuments filter options => searchable filter options
  | findWhere filter options => searchable filter options
  | find filter options => do searchable (← Filter.ofJson strict filter) options
  | list options => searchable .all options
  | countWhere filter => filter.validated
  | count filter => do (← Filter.ofJson strict filter).validated
  | deleteWhere filter => filter.validated
  | _ => .ok ()

theorem rejects_checked (strict : Bool) (call : CollectionCall) : Rejects (call.checked strict) := by
  cases call with
  | put id doc => exact (rejects_validId id).bind fun _ => rejects_validDocument doc
  | findDocuments filter options => exact rejects_searchable filter options
  | findWhere filter options => exact rejects_searchable filter options
  | find filter options =>
    exact (Filter.rejects_ofJson strict filter).bind fun f => rejects_searchable f options
  | list options => exact rejects_searchable .all options
  | countWhere filter => exact filter.rejects_validated
  | count filter => exact (Filter.rejects_ofJson strict filter).bind Filter.rejects_validated
  | deleteWhere filter => exact filter.rejects_validated
  | _ => exact .ok ()

/-- Every call on a closed store fails. -/
theorem run_blocked (c : Collection) {s : Store} (h : s.database.isOpen = false)
    (call : CollectionCall) :
    Blocked Frozen (call.checked s.config.strictFilters) (call.run c) s := by
  cases call with
  | put id doc => exact (c.blocked_put h id doc).bind
  | get id => exact (c.blocked_get h id).bind
  | getDocument id => exact (c.blocked_getDocument h id).bind
  | delete id => exact (c.blocked_delete h id).bind
  | findDocuments filter options => exact (c.blocked_findDocuments h filter options).bind
  | findWhere filter options => exact (c.blocked_findWhere h filter options).bind
  | find filter options =>
    have hfind : Blocked Frozen (checked s.config.strictFilters (.find filter options))
        (c.find filter options) s :=
      .check .refl rfl fun f _ => c.blocked_findWhere h f options
    exact hfind.bind
  | list options => exact (c.blocked_findWhere h .all options).bind
  | countWhere filter => exact (c.blocked_countWhere h filter).bind
  | count filter =>
    have hcount : Blocked Frozen (checked s.config.strictFilters (.count filter))
        (c.count filter) s :=
      .check .refl rfl fun f _ => c.blocked_countWhere h f
    exact hcount.bind
  | deleteWhere filter => exact (c.blocked_deleteWhere h filter).bind
  | clear => exact (c.blocked_deleteWhere h .all).bind
  | _ =>
    have hobserved (statement : Statement) : Blocked Frozen (.ok ()) (observed statement) s :=
      blocked_observed h statement
    exact (hobserved _).bind.bind

end CollectionCall

end DocumentGraph
