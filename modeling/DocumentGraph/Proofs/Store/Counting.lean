import DocumentGraph.Proofs.Store.Closed
import DocumentGraph.Proofs.Store.Course
set_option autoImplicit false

/-!
# What the counters count

A call that ends well counts once, as a call of its kind and with what it hands out. Of the failures
only the refusals of the engine count: arguments that are rejected, and documents that cannot be read,
leave all counters as they are. So over a course the counters tell how many calls of each kind ended
well, and how many were refused.
-/

namespace DocumentGraph

open Operation

theorem Filter.rejects_compile (filter : Filter) : Rejects filter.compile := by
  cases hv : filter.validated with
  | ok u =>
    obtain ⟨p, hp, -⟩ := compile_of_valid hv
    rw [hp]
    exact .ok p
  | error e =>
    rw [compile_of_invalid hv]
    exact .error (filter.rejects_validated e hv)

namespace Metrics

def tally : CollectionCall.Kind → Nat → Metrics → Metrics
  | .reading, n, m => { m with reads := m.reads + 1, documentsRead := m.documentsRead + n }
  | .writing, _, m => m.recordWrite
  | .deleting, _, m => m.recordDelete
  | .querying, n, m => m.recordQuery n

def failed (e : StoreError) (m : Metrics) : Metrics := if e.isRefusal then m.recordError else m

def operations (m : Metrics) : Nat := m.reads + m.writes + m.deletes + m.queries + m.errors

end Metrics

namespace Store

variable {α β : Type} {m : StoreM α} {f : α → StoreM β} {x : Except StoreError α}

/-- What an operation with this outcome makes of the counters. Nothing is refused while the engine is
ready. -/
structure Tallied (count : α → Metrics → Metrics) (s : Store) (r : Except StoreError α) (t : Store) :
    Prop where
  metrics : t.metrics =
    match r with
    | .ok a => count a s.metrics
    | .error e => s.metrics.failed e
  ready : s.Ready → t.Ready
  refused : ∀ e, r = .error e → e.isRefusal = true → ¬ s.Ready

/-- If the operation ends well it counts as told, and if it fails its failure counts. -/
def Tallies (m : StoreM α) (count : α → Metrics → Metrics) : Prop :=
  ∀ s r t, m s = (r, t) → Tallied count s r t

abbrev Quiet (m : StoreM α) : Prop := Tallies m fun _ metrics => metrics

theorem Tallied.error {count : α → Metrics → Metrics} {counted : β → Metrics → Metrics}
    {s t : Store} {e : StoreError} (h : Tallied count s (.error e) t) :
    Tallied counted s (.error e) t :=
  ⟨h.metrics, h.ready, fun d hd => h.refused d (congrArg Except.error (Except.error.inj hd))⟩

theorem Quiet.bind {count : β → Metrics → Metrics} (hm : Quiet m)
    (hf : ∀ a, Tallies (f a) count) : Tallies (m >>= f) count := by
  intro s r t h
  rw [bind_apply] at h
  rcases hx : m s with ⟨e | a, u⟩
  · rw [hx] at h
    cases h
    exact (hm s _ _ hx).error
  · rw [hx] at h
    obtain ⟨hu, hready, -⟩ := hm s _ u hx
    obtain ⟨ht, hready', hrefused⟩ := hf a u r t h
    dsimp only at hu
    rw [hu] at ht
    exact ⟨ht, fun hs => hready' (hready hs), fun e he href hs => hrefused e he href (hready hs)⟩

theorem Tallies.map {count : α → Metrics → Metrics} {counted : β → Metrics → Metrics}
    (hm : Tallies m count) (g : α → β) (hcount : ∀ a, counted (g a) = count a) :
    Tallies (m >>= fun a => pure (g a)) counted := by
  intro s r t h
  rw [bind_apply] at h
  rcases hx : m s with ⟨e | a, u⟩
  · rw [hx] at h
    cases h
    exact (hm s _ _ hx).error
  · rw [hx] at h
    cases h
    obtain ⟨hmetrics, hready, -⟩ := hm s _ _ hx
    exact ⟨hmetrics.trans (congrFun (hcount a).symm _), hready, nofun⟩

theorem tallies_record (g : Metrics → Metrics) : Tallies (record g) fun _ => g := by
  intro s r t h
  cases h
  exact ⟨rfl, id, nofun⟩

theorem tallies_recorded {count : β → Metrics → Metrics} {g : Metrics → Metrics} {b : β}
    (h : count b = g) : Tallies (record g >>= fun _ => pure b) count :=
  (tallies_record g).map _ fun _ => h

theorem quiet_checked (hx : ∀ e, x = .error e → e.isRefusal = false) : Quiet (check x) := by
  intro s r t h
  cases h
  refine ⟨?_, id, fun e he href => absurd href (by rw [hx e he]; exact Bool.false_ne_true)⟩
  cases x with
  | ok a => rfl
  | error e => exact (if_neg (by rw [hx e rfl]; exact Bool.false_ne_true)).symm

theorem quiet_check (hx : Rejects x) : Quiet (check x) :=
  quiet_checked fun e he => StoreError.isRefusal_of_isRejection (hx e he)

theorem quiet_readClock : Quiet readClock := by
  intro s r t h
  cases h
  exact ⟨rfl, id, nofun⟩

theorem quiet_parsed (filter : Json) : Quiet (Collection.parsed filter) := fun s =>
  quiet_check (Filter.rejects_ofJson s.config.strictFilters filter) s

theorem quiet_observed (statement : Statement) : Quiet (observed statement) := by
  intro s r t h
  have hready : s.Ready → t.Ready := (observed_yields statement s).state h |>.1.ready
  rcases hdb : s.database.exec s.config.tableName statement with ⟨d | cursor, db⟩
  · have hrefused := observed_of_error (exec_of_error hdb)
    rw [hrefused] at h
    cases h
    refine ⟨rfl, hready, fun e _ _ hs => ?_⟩
    obtain ⟨u, hu, -⟩ := (observed_yields statement s).of_ready hs
    cases hrefused.symm.trans hu
  · rw [observed_of_ok (exec_of_ok hdb)] at h
    cases h
    exact ⟨rfl, hready, nofun⟩

end Store

namespace Collection

open Store

variable (c : Collection)

theorem isRefusal_of_decode {row : SqlRow} {e : StoreError} (h : c.decode row = .error e) :
    e.isRefusal = false := by
  unfold decode at h
  dsimp only at h
  split at h
  · cases h
  · cases h
    rfl

theorem isRefusal_of_decodeAll {rows : List SqlRow} {e : StoreError}
    (h : c.decodeAll rows = .error e) : e.isRefusal = false := by
  induction rows with
  | nil => cases h
  | cons row rest ih =>
    rw [decodeAll] at h
    cases hd : c.decode row with
    | error d =>
      rw [hd] at h
      cases h
      exact c.isRefusal_of_decode hd
    | ok doc =>
      rw [hd] at h
      cases hrest : c.decodeAll rest with
      | error d =>
        rw [hrest] at h
        cases h
        exact ih hrest
      | ok docs =>
        rw [hrest] at h
        cases h

theorem tallies_put (id : String) (doc : Json) :
    Tallies (c.put id doc) fun _ => Metrics.tally .writing 0 :=
  (quiet_check (rejects_validId id)).bind fun _ => (quiet_check (rejects_validDocument doc)).bind
    fun _ => quiet_readClock.bind fun _ => (quiet_observed _).bind fun _ => tallies_record _

theorem tallies_getDocument (id : String) :
    Tallies (c.getDocument id) fun found => Metrics.tally .reading found.toList.length := by
  refine (quiet_observed _).bind fun cursor => ?_
  cases cursor.one? with
  | some row =>
    exact (quiet_checked fun _ => c.isRefusal_of_decode).bind fun _ => tallies_recorded rfl
  | none => exact tallies_recorded rfl

theorem tallies_get (id : String) :
    Tallies (c.get id) fun found => Metrics.tally .reading found.toList.length := by
  refine (c.tallies_getDocument id).map _ fun found => ?_
  cases found <;> rfl

theorem tallies_has (id : String) :
    Tallies (c.has id) fun found => Metrics.tally .reading found.toNat := by
  refine (quiet_observed _).bind fun cursor => ?_
  cases decide (0 < cursor.rowsRead) with
  | true => exact tallies_recorded rfl
  | false => exact tallies_recorded rfl

theorem tallies_delete (id : String) : Tallies (c.delete id) fun _ => Metrics.tally .deleting 0 :=
  (quiet_observed _).bind fun _ => tallies_recorded rfl

theorem tallies_findDocuments (filter : Filter) (options : QueryOptions) :
    Tallies (c.findDocuments filter options) fun ds => Metrics.tally .querying ds.length :=
  (quiet_check filter.rejects_compile).bind fun _ => (quiet_check options.rejects_tail).bind fun _ =>
    (quiet_observed _).bind fun _ => (quiet_checked fun _ => c.isRefusal_of_decodeAll).bind
      fun _ => tallies_recorded rfl

theorem tallies_findWhere (filter : Filter) (options : QueryOptions) :
    Tallies (c.findWhere filter options) fun ds => Metrics.tally .querying ds.length := by
  refine (c.tallies_findDocuments filter options).map _ fun ds => ?_
  rw [List.length_map]

theorem tallies_countWhere (filter : Filter) :
    Tallies (c.countWhere filter) fun _ => Metrics.tally .querying 0 :=
  (quiet_check filter.rejects_compile).bind fun _ => (quiet_observed _).bind fun _ =>
    tallies_recorded rfl

theorem tallies_keys : Tallies c.keys fun ids => Metrics.tally .querying ids.length :=
  (quiet_observed _).bind fun _ => tallies_recorded rfl

theorem tallies_deleteWhere (filter : Filter) :
    Tallies (c.deleteWhere filter) fun _ => Metrics.tally .deleting 0 :=
  (quiet_check filter.rejects_compile).bind fun _ => (quiet_observed _).bind fun _ =>
    tallies_recorded rfl

end Collection

/-- A call that ends well counts once, as one of its kind and with what it hands out. -/
theorem CollectionCall.run_tallies (c : Collection) (call : CollectionCall) :
    Store.Tallies (call.run c) fun reply => Metrics.tally call.kind (call.handedOut reply) := by
  cases call with
  | put id doc => exact (c.tallies_put id doc).map _ fun _ => rfl
  | get id => exact (c.tallies_get id).map _ fun _ => rfl
  | getDocument id =>
    refine (c.tallies_getDocument id).map _ fun found => ?_
    cases found <;> rfl
  | has id => exact (c.tallies_has id).map _ fun _ => rfl
  | delete id => exact (c.tallies_delete id).map _ fun _ => rfl
  | findDocuments filter options =>
    refine (c.tallies_findDocuments filter options).map _ fun ds => ?_
    rw [handedOut, List.length_map]
    rfl
  | findWhere filter options => exact (c.tallies_findWhere filter options).map _ fun _ => rfl
  | find filter options =>
    exact ((Store.quiet_parsed filter).bind fun f => c.tallies_findWhere f options).map _
      fun _ => rfl
  | list options => exact (c.tallies_findWhere .all options).map _ fun _ => rfl
  | countWhere filter => exact (c.tallies_countWhere filter).map _ fun _ => rfl
  | count filter =>
    exact ((Store.quiet_parsed filter).bind fun f => c.tallies_countWhere f).map _ fun _ => rfl
  | keys => exact c.tallies_keys.map _ fun _ => rfl
  | deleteWhere filter => exact (c.tallies_deleteWhere filter).map _ fun _ => rfl
  | clear => exact (c.tallies_deleteWhere .all).map _ fun _ => rfl

structure Metrics.Counts (m : Metrics) (steps : List CollectionStep) (n : Metrics) : Prop where
  reads : n.reads = m.reads + steps.countP (·.did .reading)
  writes : n.writes = m.writes + steps.countP (·.did .writing)
  deletes : n.deletes = m.deletes + steps.countP (·.did .deleting)
  queries : n.queries = m.queries + steps.countP (·.did .querying)
  documentsRead : n.documentsRead = m.documentsRead + (steps.map (·.handedOut)).sum
  errors : n.errors = m.errors + steps.countP (·.isRefused)

namespace Metrics.Counts

variable {m n o : Metrics} {steps more : List CollectionStep}

theorem refl (m : Metrics) : m.Counts [] m := ⟨rfl, rfl, rfl, rfl, rfl, rfl⟩

theorem trans (h : m.Counts steps n) (k : n.Counts more o) : m.Counts (steps ++ more) o := by
  constructor <;> simp only [List.countP_append, List.map_append, List.sum_append]
  · rw [k.reads, h.reads, Nat.add_assoc]
  · rw [k.writes, h.writes, Nat.add_assoc]
  · rw [k.deletes, h.deletes, Nat.add_assoc]
  · rw [k.queries, h.queries, Nat.add_assoc]
  · rw [k.documentsRead, h.documentsRead, Nat.add_assoc]
  · rw [k.errors, h.errors, Nat.add_assoc]

end Metrics.Counts

namespace CollectionStep

variable {s t : Store} {step : CollectionStep}

theorem handedOut_eq_zero {call : CollectionCall} (h : call.kind = .writing ∨ call.kind = .deleting)
    (reply : Reply) : call.handedOut reply = 0 := by
  cases call <;> first | rfl | simp [CollectionCall.kind] at h

theorem Happens.counts (h : step.Happens s t) : s.metrics.Counts [step] t.metrics := by
  obtain ⟨rfl, hrun⟩ := h
  obtain ⟨before, c, call, outcome⟩ := step
  have hmetrics := (call.run_tallies c before outcome t hrun).metrics
  dsimp only at hmetrics ⊢
  rw [hmetrics]
  cases outcome with
  | error e =>
    cases he : e.isRefusal <;>
      constructor <;>
        simp [Metrics.failed, Metrics.recordError, did, handedOut, isRefused, Except.isOk,
          Except.toBool, he]
  | ok reply =>
    cases hkind : call.kind <;>
      constructor <;>
        simp [Metrics.tally, Metrics.recordWrite, Metrics.recordDelete, Metrics.recordQuery, did,
          handedOut, isRefused, Except.isOk, Except.toBool, hkind, handedOut_eq_zero]

/-- The call ended well, or the engine refused it. -/
def isCounted (step : CollectionStep) : Bool := step.outcome.isOk || step.isRefused

theorem isRefused_of_error {e : StoreError} (h : step.outcome = .error e) :
    step.isRefused = e.isRefusal := by
  rw [isRefused, h]

theorem countP_isCounted (steps : List CollectionStep) :
    steps.countP (·.isCounted) = steps.countP (·.did .reading) + steps.countP (·.did .writing) +
      steps.countP (·.did .deleting) + steps.countP (·.did .querying) +
      steps.countP (·.isRefused) := by
  induction steps with
  | nil => rfl
  | cons step rest ih =>
    have hone : (if step.isCounted = true then 1 else 0) =
        (if step.did .reading = true then 1 else 0) + (if step.did .writing = true then 1 else 0) +
          (if step.did .deleting = true then 1 else 0) +
          (if step.did .querying = true then 1 else 0) +
          (if step.isRefused = true then 1 else 0) := by
      obtain ⟨before, c, call, outcome⟩ := step
      cases outcome with
      | error e =>
        cases he : e.isRefusal <;>
          simp [isCounted, did, isRefused, Except.isOk, Except.toBool, he]
      | ok reply =>
        cases hkind : call.kind <;>
          simp [isCounted, did, isRefused, Except.isOk, Except.toBool, hkind]
    simp only [List.countP_cons, ih, hone]
    omega

theorem countP_isFailed (steps : List CollectionStep) :
    steps.countP (·.isFailed) = steps.countP (·.isRefused) + steps.countP (!·.isCounted) := by
  induction steps with
  | nil => rfl
  | cons step rest ih =>
    have hone : (if step.isFailed = true then 1 else 0) =
        (if step.isRefused = true then 1 else 0) +
          (if (!step.isCounted) = true then 1 else 0) := by
      obtain ⟨before, c, call, outcome⟩ := step
      cases outcome with
      | ok reply => rfl
      | error e =>
        cases he : e.isRefusal <;>
          simp [isFailed, isCounted, isRefused, Except.isOk, Except.toBool, he]
    simp only [List.countP_cons, ih, hone]
    omega

end CollectionStep

def Store.SameMetrics (s t : Store) : Prop := t.metrics = s.metrics

theorem Store.Course.counts {s t : Store} {steps : List CollectionStep}
    (h : s.Course Store.SameMetrics steps t) : s.metrics.Counts steps t.metrics := by
  induction h with
  | nil => exact .refl _
  | event _ step ih => exact ih.trans step.counts
  | amid _ move ih =>
    rw [move]
    exact ih

theorem Metrics.Counts.operations {m n : Metrics} {steps : List CollectionStep}
    (h : m.Counts steps n) : n.operations = m.operations + steps.countP (·.isCounted) := by
  rw [Metrics.operations, Metrics.operations, CollectionStep.countP_isCounted, h.reads, h.writes,
    h.deletes, h.queries, h.errors]
  omega

namespace CollectionStep

variable {step : CollectionStep} {after : Store}

theorem Happens.isRefused_of_ready (h : step.Happens step.before after) (hready : step.before.Ready) :
    step.isRefused = false := by
  cases ho : step.outcome with
  | ok reply => rw [isRefused, ho]
  | error e =>
    rw [isRefused_of_error ho, ← Bool.not_eq_true]
    intro he
    have hrun := h.2
    exact (step.call.run_tallies step.collection _ _ _ hrun).refused e ho he hready

theorem Happens.metrics_of_error {e : StoreError} (h : step.Happens step.before after)
    (ho : step.outcome = .error e) : after.metrics = step.before.metrics.failed e := by
  have hmetrics := (step.call.run_tallies step.collection _ _ _ h.2).metrics
  rw [ho] at hmetrics
  exact hmetrics

theorem Happens.metrics_of_uncounted (h : step.Happens step.before after)
    (huncounted : step.isCounted = false) : after.metrics = step.before.metrics := by
  rw [isCounted, Bool.or_eq_false_iff] at huncounted
  cases ho : step.outcome with
  | ok reply =>
    rw [ho] at huncounted
    cases huncounted.1
  | error e =>
    rw [h.metrics_of_error ho, Metrics.failed, ← isRefused_of_error ho, huncounted.2]
    rfl

theorem Happens.metrics_of_failed {before : Store} (h : step.Happens before after)
    (hfailed : step.isFailed = true) :
    after.metrics = before.metrics ∨ after.metrics = before.metrics.recordError := by
  obtain ⟨rfl, hrun⟩ := h
  cases ho : step.outcome with
  | ok reply =>
    rw [isFailed, ho] at hfailed
    cases hfailed
  | error e =>
    rw [Happens.metrics_of_error ⟨rfl, hrun⟩ ho, Metrics.failed]
    split
    · exact .inr rfl
    · exact .inl rfl

/-- On a closed engine every call fails, and it is refused if nothing was rejected before. -/
theorem Happens.isRefused_of_closed (h : step.Happens step.before after)
    (hclosed : step.before.database.isOpen = false) :
    step.isFailed = true ∧ (step.isRefused = true ↔
      step.call.checked step.before.config.strictFilters = .ok ()) := by
  obtain ⟨t, hblocked, -⟩ := step.call.run_blocked step.collection hclosed
  have ho : step.outcome = .error (.orClosed (step.call.checked step.before.config.strictFilters)) :=
    congrArg Prod.fst (h.2.symm.trans hblocked)
  refine ⟨by rw [isFailed, ho]; rfl, ?_⟩
  rw [isRefused_of_error ho]
  cases hx : step.call.checked step.before.config.strictFilters with
  | ok u => exact ⟨fun _ => rfl, fun _ => rfl⟩
  | error e =>
    have he := StoreError.isRefusal_of_isRejection (step.call.rejects_checked _ e hx)
    exact ⟨fun href => absurd (he.symm.trans href) Bool.false_ne_true, nofun⟩

end CollectionStep

/-- The errors that are counted are the refusals of the engine, so all failures are counted exactly if
there were no others. A call that is counted counts once, and any other leaves the counters as they
are. On a ready engine no failure is counted, and on a closed one those whose arguments pass. -/
theorem Store.Course.errors_counted {s t : Store} {steps : List CollectionStep}
    (hcourse : s.Course Store.SameMetrics steps t) :
    t.metrics.errors = s.metrics.errors + steps.countP (·.isRefused) ∧
    (t.metrics.errors = s.metrics.errors + steps.countP (·.isFailed) ↔
      ∀ step ∈ steps, step.isCounted = true) ∧
    t.metrics.operations = s.metrics.operations + steps.countP (·.isCounted) ∧
    ∀ step ∈ steps, ∃ after, step.Happens step.before after ∧
      (step.isCounted = true → after.metrics.operations = step.before.metrics.operations + 1) ∧
      (step.isCounted = false → after.metrics = step.before.metrics) ∧
      (step.before.Ready → step.isRefused = false) ∧
      (step.before.database.isOpen = false → step.isFailed = true ∧ (step.isRefused = true ↔
        step.call.checked step.before.config.strictFilters = .ok ())) := by
  have hcounts := hcourse.counts
  refine ⟨hcounts.errors, ?_, hcounts.operations, fun step hmem => ?_⟩
  · have hnone : steps.countP (!·.isCounted) = 0 ↔ ∀ step ∈ steps, step.isCounted = true := by
      simp [List.countP_eq_zero]
    rw [hcounts.errors, CollectionStep.countP_isFailed, ← hnone]
    omega
  · obtain ⟨-, -, after, -, -, hstep⟩ := hcourse.upto hmem
    refine ⟨after, hstep, fun hcounted => ?_, hstep.metrics_of_uncounted, hstep.isRefused_of_ready,
      hstep.isRefused_of_closed⟩
    rw [hstep.counts.operations, List.countP_cons_of_pos hcounted]
    rfl

/-- An empty id is not counted, and a put on the closed engine is. -/
theorem Store.errors_of_empty_id :
    let s : Store := ⟨.initial, .empty, .zero, [], .still 0⟩
    let c : Collection := ⟨"notes"⟩
    let steps : List CollectionStep :=
      [⟨s, c, .put "" (.object []), .error (.invalidId .emptyId)⟩,
        ⟨s.close, c, .put "a" (.object []), .error (.storage .closed)⟩]
    ∃ t, s.Course Store.SameMetrics steps t ∧ steps.countP (·.isFailed) = 2 ∧
      t.metrics.errors = 1 := by
  intro s c steps
  have hrejected : CollectionStep.Happens s ⟨s, c, .put "" (.object []),
      .error (.invalidId .emptyId)⟩ s := ⟨rfl, rfl⟩
  have hrefused : CollectionStep.Happens s.close ⟨s.close, c, .put "a" (.object []),
      .error (.storage .closed)⟩ (CollectionCall.run c (.put "a" (.object [])) s.close).2 :=
    ⟨rfl, rfl⟩
  have hclose : s.SameMetrics s.close := rfl
  have hcourse : s.Course Store.SameMetrics steps _ :=
    .event (.amid (.event .nil hrejected) hclose) hrefused
  exact ⟨_, hcourse, rfl, (Store.Course.errors_counted hcourse).1⟩

end DocumentGraph
