import DocumentGraph.Proofs.Graph.Calls
import DocumentGraph.Proofs.Record.Action
import DocumentGraph.Proofs.Record.Filing
set_option autoImplicit false

/-!
# The audit log is complete and only grows

The id of a new action is made by a later state of the generator than any id in the log, so logging
appends. Every operation logs what it did, once for each thing or relationship that it wrote, and
everything else spares the log. What was logged is what is read back, in the order of logging.
-/

namespace DocumentGraph

open Identifier

def Action.filed (a : Action) : String × Json := (a.id, Record.document a)

namespace Graph

def logRows (g : Graph) : Entries := g.rows actionCollection.name

structure Audited (g : Graph) : Prop where
  timely : g.Timely
  made : ∀ e ∈ g.logRows, ∃ (state : Generator) (tail : Nat), state.InRange ∧
    state.AtMost g.ids.generator ∧ e.id = make "act" (state.suffix tail)

def Appends (g h : Graph) (actions : List Action) : Prop :=
  ∃ new : Entries, h.logRows = g.logRows ++ new ∧ new.map Entries.pair = actions.map Action.filed

variable {g h k : Graph} {xs ys : List Action}

theorem Appends.refl (g : Graph) : g.Appends g [] := ⟨[], by rw [List.append_nil], rfl⟩

theorem Appends.trans (hgh : g.Appends h xs) (hhk : h.Appends k ys) : g.Appends k (xs ++ ys) := by
  obtain ⟨new, hnew, hxs⟩ := hgh
  obtain ⟨more, hmore, hys⟩ := hhk
  refine ⟨new ++ more, by rw [hmore, hnew, List.append_assoc], ?_⟩
  rw [List.map_append, List.map_append, hxs, hys]

theorem Audited.of_spared (hg : g.Audited) (hp : g.Precedes h) (hrows : h.logRows = g.logRows) :
    h.Audited := by
  refine ⟨hp.timely hg.timely, fun e he => ?_⟩
  rw [hrows] at he
  exact Made.mono (hg.made e he) hp

variable {α β : Type} {m : GraphM α} {P : α → List ActionEntry → Prop}

/-- If the operation ends well, it appends actions with entries as told. -/
def Logs (m : GraphM α) (P : α → List ActionEntry → Prop) : Prop :=
  ∀ g a h, g.Audited → m g = (.ok a, h) → h.Audited ∧ ∃ actions : List Action,
    g.Appends h actions ∧ P a (actions.map (·.toActionEntry))

theorem Logs.of_spares (hm : Spares actionCollection.name m) (hP : ∀ a, P a []) : Logs m P := by
  intro g a h hg hx
  obtain ⟨hp, hrows⟩ := hm g _ h hx
  refine ⟨hg.of_spared hp hrows, [], ⟨[], ?_, rfl⟩, hP a⟩
  rw [List.append_nil]
  exact hrows

theorem logs_pure {a : α} (h : P a []) : Logs (pure a) P := by
  intro g b k hg hx
  cases hx
  exact ⟨hg, [], .refl g, h⟩

theorem Logs.mono {R : α → List ActionEntry → Prop} (hm : Logs m P)
    (hR : ∀ a xs, P a xs → R a xs) : Logs m R := by
  intro g a k hg hx
  obtain ⟨hk, actions, happ, hP⟩ := hm g a k hg hx
  exact ⟨hk, actions, happ, hR a _ hP⟩

theorem Logs.bind {f : α → GraphM β} {Q : α → β → List ActionEntry → Prop}
    {R : β → List ActionEntry → Prop} (hm : Logs m P) (hf : ∀ a, Logs (f a) (Q a))
    (hR : ∀ a b xs ys, P a xs → Q a b ys → R b (xs ++ ys)) : Logs (m >>= f) R := by
  intro g b h hg hx
  obtain ⟨a, k, hm', hf'⟩ := Operation.ok_of_bind hx
  obtain ⟨hk, xs, hgk, hP⟩ := hm g a k hg hm'
  obtain ⟨hh, ys, hkh, hQ⟩ := hf a k b h hk hf'
  refine ⟨hh, xs ++ ys, hgk.trans hkh, ?_⟩
  rw [List.map_append]
  exact hR a b _ _ hP hQ

theorem Logs.after {f : α → GraphM β} {R : β → List ActionEntry → Prop}
    (hm : Spares actionCollection.name m) (hf : ∀ a, Logs (f a) R) : Logs (m >>= f) R := by
  refine Logs.bind (P := fun _ xs => xs = []) (Q := fun _ => R) (Logs.of_spares hm fun _ => rfl) hf ?_
  rintro a b xs ys rfl hR
  exact hR

theorem Logs.map {f : α → β} {R : β → List ActionEntry → Prop} (hm : Logs m P)
    (hR : ∀ a xs, P a xs → R (f a) xs) : Logs (m >>= fun a => pure (f a)) R := by
  refine hm.bind (Q := fun a b ys => b = f a ∧ ys = []) (fun a g b h hg hx => ?_) ?_
  · cases hx
    exact ⟨hg, [], .refl _, rfl, rfl⟩
  · rintro a b xs ys hP ⟨rfl, rfl⟩
    rw [List.append_nil]
    exact hR a xs hP

theorem logs_log (entry : ActionEntry) : Logs (log entry) fun _ xs => xs = [entry] := by
  intro g a h hg hx
  obtain ⟨id, g₁, hid, hx⟩ := Operation.ok_of_bind hx
  obtain ⟨time, g₂, htime, hx⟩ := Operation.ok_of_bind hx
  obtain ⟨u, g₃, hput, hx⟩ := Operation.ok_of_bind hx
  cases hx
  -- The new id is none of those in the log, so putting it appends.
  obtain ⟨hmade, hfresh⟩ := made_newId hg.timely hid
  obtain ⟨hp₁, he₁⟩ := reads_newId "act" g _ g₁ hid
  obtain ⟨hp₂, he₂⟩ := reads_now g₁ _ g₂ htime
  obtain ⟨t, hstored, rfl⟩ := onStore_eq hput
  obtain ⟨hk, hentries⟩ := Collection.put_of_ok _ _ hstored
  have hrows : g₂.logRows = g.logRows :=
    congrArg (fun es => es.rows actionCollection.name) (he₂.trans he₁)
  have hadded : logRows { g₂ with store := t } = g.logRows ++
      [⟨actionCollection.name, id, Record.document (⟨entry, id, time⟩ : Action),
        g₂.store.clock.now, g₂.store.clock.now⟩] := by
    have habsent : ∀ e ∈ g₂.store.entries.rows actionCollection.name, e.id ≠ id := fun e he =>
      hfresh e.id (hg.made e (hrows ▸ he))
    rw [← hrows]
    change t.entries.rows _ = _
    rw [hentries]
    exact Entries.rows_put_of_absent habsent _ _
  have hp₃ := hp₂.trans (Precedes.of_keeps (h := { g₂ with store := t }) hk rfl)
  have hp := hp₁.trans hp₃
  refine ⟨⟨hp.timely hg.timely, fun e he => ?_⟩, [⟨entry, id, time⟩], ⟨_, hadded, rfl⟩, rfl⟩
  rw [hadded, List.mem_append, List.mem_singleton] at he
  rcases he with he | rfl
  · exact Made.mono (hg.made e he) hp
  · exact hmade.mono hp₃

theorem logs_createThing (type : String) (data : Json) (id : Option String) :
    Logs (createThing type data id) fun t xs => xs = [.about "created" t.id] := by
  have hwrite (id : String) : Logs (do
      let t := Thing.first id type (membersOf data) (← now)
      onStore (thingCollection.putRecord t)
      let _ ← log (.about "created" t.id)
      return t) fun t xs => xs = [.about "created" t.id] := by
    refine Logs.after reads_now.spares fun time => ?_
    refine Logs.after (spares_onStore (Collection.spares_putRecord (by decide) _)) fun _ => ?_
    exact (logs_log _).map fun _ _ h => h
  refine Logs.after (reads_check _).spares fun _ => Logs.after (reads_check _).spares fun _ => ?_
  cases id with
  | some id => exact Logs.after (reads_check _).spares fun _ => hwrite id
  | none => exact Logs.after (reads_newId _).spares fun id => hwrite id

theorem logs_updateThing (id : String) (changes : Json) :
    Logs (updateThing id changes) fun t xs =>
      xs = if t.isSome then [{ ActionEntry.about "updated" id with data := some changes }]
        else [] := by
  refine Logs.after (reads_check _).spares fun _ => Logs.after (reads_thing id).spares fun found => ?_
  cases found with
  | none => exact logs_pure rfl
  | some old =>
    refine Logs.after reads_now.spares fun time => ?_
    refine Logs.after (spares_onStore (Collection.spares_putRecord (by decide) _)) fun _ => ?_
    exact (logs_log _).map fun _ _ h => h

theorem logs_deleteThing (id : String) :
    Logs (deleteThing id) fun deleted xs =>
      xs = if deleted then [.about "deleted" id] else [] := by
  refine Logs.after (spares_onStore (Collection.spares_delete (by decide) _)) fun there => ?_
  cases there with
  | true =>
    refine Logs.after (spares_onStore (Collection.spares_deleteWhere (by decide) _)) fun _ => ?_
    exact (logs_log _).map fun _ _ h => h
  | false => exact logs_pure rfl

theorem logs_relate (source verb target : String) (cascade : Cascade) (data : Option Json) :
    Logs (relate source verb target cascade data) fun _ xs =>
      xs = [.relating source verb target data] := by
  refine Logs.after (reads_check _).spares fun _ => Logs.after (reads_check _).spares fun _ =>
    Logs.after (reads_check _).spares fun _ => ?_
  refine Logs.after (reads_newId _).spares fun id => Logs.after reads_now.spares fun time => ?_
  refine Logs.after (spares_onStore (Collection.spares_putRecord (by decide) _)) fun _ => ?_
  exact (logs_log _).map fun _ _ h => h

theorem logs_unrelate (source verb target : String) :
    Logs (unrelate source verb target) fun _ xs =>
      xs = [.relating source ("un" ++ verb) target none] := by
  refine Logs.after (spares_onStore (Collection.spares_deleteWhere (by decide) _)) fun _ => ?_
  exact (logs_log _).map fun _ _ h => h

theorem logs_fuzzyRelate (source verb type text : String) (data : Option Json)
    (threshold : Option Binary64) :
    Logs (fuzzyRelate source verb type text data threshold) fun r xs =>
      xs = (if r.created then [.about "created" r.thing.id] else []) ++
        [.relating source verb r.thing.id none] := by
  refine Logs.after (reads_ask _ _ _).spares fun asked => ?_
  obtain ⟨t, candidates⟩ := asked
  have hrelate (created : Bool) (target : Thing) : Logs (do
      let relationship ← relate source verb target.id .fuzzy none
      return (⟨created, target, relationship⟩ : FuzzyRelation)) fun r xs =>
        r.created = created ∧ r.thing = target ∧ xs = [.relating source verb target.id none] :=
    (logs_relate source verb target.id .fuzzy none).map fun _ _ h => ⟨rfl, rfl, h⟩
  dsimp only
  cases hbest : Candidate.best t candidates with
  | some c =>
    refine (hrelate false c.thing).mono ?_
    rintro r xs ⟨hc, ht, rfl⟩
    rw [hc, ht]
    rfl
  | none =>
    refine Logs.bind (logs_createThing _ _ _) (fun thing => hrelate true thing) ?_
    rintro thing r xs ys rfl ⟨hc, ht, rfl⟩
    rw [hc, ht]
    rfl

theorem isSome_updateThing {id : String} {changes : Json} {t : Option Thing}
    (hx : updateThing id changes g = (.ok t, h)) : t.isSome = g.hasThing id := by
  obtain ⟨_, g₁, hcheck, hx⟩ := Operation.ok_of_bind hx
  obtain rfl : g = g₁ := congrArg Prod.snd hcheck
  obtain ⟨found, g₂, hthing, hx⟩ := Operation.ok_of_bind hx
  obtain ⟨s, hget, rfl⟩ := onStore_eq hthing
  have hfound := Collection.isSome_getRecord _ _ hget
  have ht : t.isSome = found.isSome := by
    cases found with
    | none =>
      cases hx
      rfl
    | some old =>
      obtain ⟨time, g₃, -, hx⟩ := Operation.ok_of_bind hx
      obtain ⟨_, g₄, -, hx⟩ := Operation.ok_of_bind hx
      obtain ⟨_, g₅, -, hx⟩ := Operation.ok_of_bind hx
      cases hx
      rfl
  exact ht.trans hfound

theorem run_logs {g h : Graph} {call : GraphCall} {reply : GraphReply} (hg : g.Audited)
    (hx : call.run g = (.ok reply, h)) : h.Audited ∧ ∃ actions : List Action,
      g.Appends h actions ∧ actions.map (·.toActionEntry) = call.logged g reply := by
  have hquiet (hwrites : actionCollection.name ∉ call.writes) (hlogged : call.logged g reply = []) :
      h.Audited ∧ ∃ actions : List Action,
        g.Appends h actions ∧ actions.map (·.toActionEntry) = call.logged g reply := by
    rw [hlogged]
    exact Logs.of_spares (P := fun _ xs => xs = []) (GraphCall.run_spares hwrites) (fun _ => rfl)
      g reply h hg hx
  have hwrite {α : Type} {m : GraphM α} {f : α → GraphReply} {P : α → List ActionEntry → Prop}
      (hm : Logs m P) (hrun : call.run = m >>= fun a => pure (f a))
      (hlogged : ∀ a xs, P a xs → xs = call.logged g (f a)) : h.Audited ∧ ∃ actions : List Action,
        g.Appends h actions ∧ actions.map (·.toActionEntry) = call.logged g reply := by
    have := hm.map (f := f) (R := fun r xs => xs = call.logged g r) hlogged
    rw [hrun] at hx
    exact this g reply h hg hx
  cases call with
  | createThing type data id =>
    exact hwrite (logs_createThing type data id) rfl fun t xs hxs => hxs
  | updateThing id changes =>
    -- What is to be logged depends on the graph before the call, so the state is kept here.
    obtain ⟨t, k, hupdate, hpure⟩ := Operation.ok_of_bind hx
    cases hpure
    obtain ⟨hh, actions, happ, hlog⟩ := logs_updateThing id changes g t h hg hupdate
    refine ⟨hh, actions, happ, ?_⟩
    rw [hlog, isSome_updateThing hupdate]
    rfl
  | deleteThing id =>
    refine hwrite (logs_deleteThing id) rfl fun deleted xs hxs => ?_
    rw [hxs]
    cases deleted <;> rfl
  | log entry => exact hwrite (logs_log entry) rfl fun _ xs hxs => hxs
  | relate source v target cascade data =>
    exact hwrite (logs_relate source v target cascade data) rfl fun _ xs hxs => hxs
  | unrelate source v target =>
    exact hwrite (logs_unrelate source v target) rfl fun _ xs hxs => hxs
  | fuzzyRelate source v type text data threshold =>
    exact hwrite (logs_fuzzyRelate source v type text data threshold) rfl fun _ xs hxs => hxs
  | elsewhere name outside call =>
    exact hquiet (GraphCall.not_mem_writes_elsewhere (by decide)) rfl
  | _ =>
    -- Every other call spares the log, and nothing is to be logged for it.
    refine hquiet ?_ rfl
    simp [GraphCall.writes, actionCollection, nounCollection, verbCollection]

theorem Runs.logs {calls : List GraphCall} {entries : List ActionEntry}
    (hrun : Runs g calls entries h) (hg : g.Audited) : h.Audited ∧ ∃ actions : List Action,
      g.Appends h actions ∧ actions.map (·.toActionEntry) = entries := by
  induction hrun with
  | nil g => exact ⟨hg, [], .refl g, rfl⟩
  | cons step _ ih =>
    obtain ⟨hk, xs, hxs, hlogged⟩ := run_logs hg step
    obtain ⟨hh, ys, hys, hentries⟩ := ih hk
    exact ⟨hh, xs ++ ys, hxs.trans hys, by rw [List.map_append, hlogged, hentries]⟩

theorem wellFormed_logged {call : GraphCall} (hc : call.PayloadWellFormed) (g : Graph)
    (reply : GraphReply) : ∀ e ∈ call.logged g reply, ∀ j, e.data = some j → j.WellFormed := by
  intro e he j hj
  unfold GraphCall.logged at he
  split at he
  · obtain rfl := List.mem_singleton.mp he
    cases hj
  · split at he
    · obtain rfl := List.mem_singleton.mp he
      cases hj
      exact hc
    · cases he
  · obtain rfl := List.mem_singleton.mp he
    cases hj
  · obtain rfl := List.mem_singleton.mp he
    exact hc j hj
  · obtain rfl := List.mem_singleton.mp he
    exact hc j hj
  · obtain rfl := List.mem_singleton.mp he
    cases hj
  · rw [List.mem_append, List.mem_singleton] at he
    rcases he with he | rfl
    · split at he
      · obtain rfl := List.mem_singleton.mp he
        cases hj
      · cases he
    · cases hj
  · cases he

theorem Runs.wellFormed {calls : List GraphCall} {entries : List ActionEntry}
    (hrun : Runs g calls entries h) (hc : ∀ call ∈ calls, call.PayloadWellFormed) :
    ∀ e ∈ entries, ∀ j, e.data = some j → j.WellFormed := by
  induction hrun with
  | nil g =>
    intro e he
    cases he
  | @cons g _ _ call reply _ _ step _ ih =>
    intro e he
    rcases List.mem_append.mp he with he | he
    · exact wellFormed_logged (hc call List.mem_cons_self) g reply e he
    · exact ih (fun c hmem => hc c (List.mem_cons_of_mem _ hmem)) e he

theorem audited_ofStore {store : Store} (tails : Nat → Nat)
    (hclock : ∀ n, (store.clock.reading n).toInt.toNat < 36 ^ timeWidth)
    (hempty : store.entries.rows actionCollection.name = []) :
    (ofStore store tails).Audited ∧ (ofStore store tails).logRows = [] := by
  have hlog : (ofStore store tails).logRows = [] := hempty
  refine ⟨⟨⟨hclock, Generator.inRange_initial⟩, fun e he => ?_⟩, hlog⟩
  rw [hlog] at he
  cases he

variable {actions : List Action} {filter : Filter}

theorem chosen_of_log (hrows : (g.logRows).map Entries.pair = actions.map Action.filed)
    (filter : Filter) :
    (actionCollection.chosen filter g.store.entries).map Entries.pair =
      (actions.filter fun a => filter.holds (Record.document a)).map Record.filed :=
  Collection.chosen_filed _ hrows fun _ => rfl

theorem readable_actions (hwf : ∀ a ∈ actions, ∀ j, a.data = some j → j.WellFormed) :
    Record.Readable Action.readBack actions :=
  ⟨fun a _ => a.ofDocument_document, fun a ha => a.wellFormed_document (hwf a ha)⟩

theorem findRecords_of_ok (hrows : (g.logRows).map Entries.pair = actions.map Action.filed)
    (hwf : ∀ a ∈ actions, ∀ j, a.data = some j → j.WellFormed) (hv : filter.validated = .ok ())
    {list : List Action} (hx : onStore (actionCollection.findRecords filter .unrestricted) g =
      (.ok list, h)) :
    list = (actions.filter fun a => filter.holds (Record.document a)).map Action.readBack := by
  obtain ⟨t, hfind, rfl⟩ := onStore_eq hx
  have hread := ((actionCollection.findRecords_yields g.store hv).of_ok hfind).1
  exact Collection.recordsOf_of_ok _ (chosen_of_log hrows filter) ((readable_actions hwf).filter _)
    hread

theorem findRecords_of_ready (hready : g.store.Ready)
    (hrows : (g.logRows).map Entries.pair = actions.map Action.filed)
    (hwf : ∀ a ∈ actions, ∀ j, a.data = some j → j.WellFormed ∧ j.depth < readingLimit)
    (hv : filter.validated = .ok ()) :
    ∃ (list : List Action) (h : Graph),
      onStore (actionCollection.findRecords filter .unrestricted) g = (.ok list, h) := by
  have hyields := actionCollection.findRecords_yields (α := Action) g.store hv
  obtain ⟨t, hfind, -, -⟩ := hyields.of_ready hready
  have hdepth : ∀ a ∈ actions, (Record.document a).depth ≤ readingLimit := fun a ha =>
    a.depth_document_le fun j hj => Nat.le_of_lt_succ (hwf a ha j hj).2
  rw [Collection.recordsOf_shallow _ (chosen_of_log hrows filter)
    ((readable_actions fun a ha j hj => (hwf a ha j hj).1).filter _) fun a ha =>
      hdepth a (List.mem_filter.mp ha).1] at hfind
  exact ⟨_, { g with store := t }, by rw [onStore, hfind]⟩

theorem run_of_isOk {call : GraphCall} {g : Graph} (h : (call.run g).1.isOk = true) :
    ∃ reply, call.run g = (.ok reply, (call.run g).2) := by
  rcases hx : call.run g with ⟨e | reply, k⟩
  · rw [hx] at h
    cases h
  · exact ⟨reply, rfl⟩

end Graph

end DocumentGraph
