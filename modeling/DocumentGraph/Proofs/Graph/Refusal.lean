import DocumentGraph.Proofs.Graph.Statements
set_option autoImplicit false

/-!
# Refused statements and the log

If the engine refuses a statement of a call, the table is what the statements before it have made. An
action is filed after the change that it tells of, so whichever statement is refused, the log has
nothing new but actions whose change is in the table.
-/

namespace DocumentGraph

open Identifier Operation DocumentGraph.Graph

namespace Entries

variable {ρ τ : Type} [Record ρ] [Record τ] {es : Entries} {name id : String} {doc : Json}
  {now : Int64}

def Has (c : Collection) (r : ρ) (es : Entries) : Prop :=
  (es.fetch c.name (Record.key r)).map (·.data) = some (Record.document r)

theorem has_filing (c : Collection) (r : ρ) (time : Int64) (es : Entries) :
    ((c.filing r time).effect es).Has c r :=
  data_fetch_put _ _ _ _ _

theorem Has.filing {c d : Collection} {r : ρ} (h : es.Has c r) (hne : d.name ≠ c.name) (x : τ)
    (time : Int64) : ((d.filing x time).effect es).Has c r := by
  have hrows : ((d.filing x time).effect es).rows c.name = es.rows c.name := rows_put_of_ne hne _ _ _
  rw [Has, fetch_of_rows hrows]
  exact h

theorem holds_of_removeWhere {filter : Filter} {p : Predicate}
    (hp : ∀ doc, p.selects doc = filter.holds doc) {d : String × Json}
    (hd : d ∈ (es.removeWhere name p).shelf name) : filter.holds d.2 = false := by
  rw [shelf_removeWhere_self hp] at hd
  simpa using (List.mem_filter.mp hd).2

theorem ids_prefix_put (name id : String) (doc : Json) (now : Int64) (es : Entries) :
    (es.shelf name).ids <+: ((es.put name id doc now).shelf name).ids := by
  induction es with
  | nil => exact List.nil_prefix
  | cons e rest ih =>
    by_cases hname : e.collection = name
    · by_cases hat : isAt name id e = true
      · rw [put, if_pos hat, shelf_cons_self hname, shelf_cons_self]
        · exact List.prefix_refl _
        · exact hname
      · rw [put, if_neg hat, shelf_cons_self hname, shelf_cons_self hname]
        exact (List.prefix_cons_inj _).mpr ih
    · have hat : ¬ isAt name id e = true := fun hat => hname (isAt_iff.mp hat).1
      rw [put, if_neg hat, shelf_cons_of_ne hname, shelf_cons_of_ne hname]
      exact ih

theorem mem_shelf_put {d : String × Json} (hd : d ∈ (es.put name id doc now).shelf name) :
    d ∈ es.shelf name ∨ d = (id, doc) := by
  obtain ⟨e, he, rfl⟩ := List.mem_map.mp hd
  obtain ⟨hput, hname⟩ := mem_rows.mp he
  rcases mem_put hput with hmem | ⟨-, hid, hdata⟩
  · exact .inl (List.mem_map_of_mem (mem_rows.mpr ⟨hmem, hname⟩))
  · exact .inr (Prod.ext hid hdata)

def log (es : Entries) : Shelf := es.shelf actionCollection.name

theorem edges_filing (a : Action) (time : Int64) (es : Entries) :
    ((actionCollection.filing a time).effect es).shelf relationshipCollection.name =
      es.shelf relationshipCollection.name :=
  shelf_put_of_ne (by decide) _ _ _

/-- The log goes on with these actions and no others. -/
structure Continues (old es : Entries) (new : List Action) : Prop where
  kept : old.log.ids <+: es.log.ids
  added : ∀ d ∈ es.log, d ∈ old.log ∨ ∃ a ∈ new, d = Record.filed a

variable {old : Entries} {new : List Action}

theorem continues_nil (h : es.log = old.log) : Continues old es [] :=
  ⟨h ▸ List.prefix_refl _, fun _ hd => .inl (h ▸ hd)⟩

theorem Continues.spared (h : Continues old es new) {fs : Entries} (hlog : fs.log = es.log) :
    Continues old fs new :=
  ⟨hlog ▸ h.kept, hlog ▸ h.added⟩

theorem Continues.filing (h : Continues old es new) (a : Action) (time : Int64) :
    Continues old ((actionCollection.filing a time).effect es) (new ++ [a]) := by
  refine ⟨h.kept.trans (ids_prefix_put _ _ _ _ _), fun d hd => ?_⟩
  rcases mem_shelf_put hd with hd | rfl
  · exact (h.added d hd).imp_right fun ⟨b, hb, hbd⟩ => ⟨b, List.mem_append_left _ hb, hbd⟩
  · exact .inr ⟨a, List.mem_append_right _ List.mem_cons_self, rfl⟩

end Entries

def Statement.SparesLog (s : Statement) : Prop := ∀ es, (s.effect es).log = es.log

namespace Statement

variable {ρ : Type} [Record ρ] {c : Collection}

theorem sparesLog_filing (hc : c.name ≠ actionCollection.name) (r : ρ) (time : Int64) :
    (c.filing r time).SparesLog :=
  fun _ => Entries.shelf_put_of_ne hc _ _ _

theorem sparesLog_fetch (name id : String) : (fetch name id).SparesLog := fun _ => rfl

theorem sparesLog_remove {name : String} (hname : name ≠ actionCollection.name) (id : String) :
    (remove name id).SparesLog :=
  fun es => Entries.shelf_remove_of_ne hname id es

theorem sparesLog_removeWhere {name : String} (hname : name ≠ actionCollection.name)
    (p : Predicate) : (removeWhere name p).SparesLog :=
  fun es => Entries.shelf_removeWhere_of_ne hname p es

theorem log_after {ss : List Statement} (hss : ∀ s ∈ ss, s.SparesLog) (es : Entries) :
    (es.after ss).log = es.log := by
  induction ss generalizing es with
  | nil => rfl
  | cons s rest ih =>
    obtain ⟨hs, hrest⟩ := List.forall_mem_cons.mp hss
    rw [Entries.after_cons, ih hrest, hs]

end Statement

namespace GraphCall

/-- The action tells of a change by the call that is in the table. -/
def Backs (g : Graph) (es : Entries) (entry : ActionEntry) : GraphCall → Prop
  | createThing type data id => ∃ t : Thing, entry = .about "created" t.id ∧ t.type = type ∧
      t.data = membersOf data ∧ (∀ k, id = some k → t.id = k) ∧ es.Has thingCollection t
  | updateThing id changes =>
    entry = { ActionEntry.about "updated" id with data := some changes } ∧
      ∃ (old : Thing) (time : Int64), g.current id = some old ∧ old.id = id ∧
        es.Has thingCollection (old.changed (membersOf changes) time)
  | deleteThing id => entry = .about "deleted" id ∧ es.fetch thingCollection.name id = none ∧
      ∀ r : Relationship, Record.filed r ∈ es.shelf relationshipCollection.name → r.touches id = false
  | relate source v target cascade data => entry = .relating source v target data ∧
      ∃ r : Relationship, r = ⟨r.id, source, v, target, cascade, data, r.createdAt⟩ ∧
        es.Has relationshipCollection r
  | unrelate source v target => entry = .relating source ("un" ++ v) target none ∧
      ∀ r : Relationship, Record.filed r ∈ es.shelf relationshipCollection.name →
        r.links source v target = false
  | fuzzyRelate source v type text data _ =>
    (∃ t : Thing, entry = .about "created" t.id ∧ t.type = type ∧
      t.data = membersOf (dataOf text data) ∧ es.Has thingCollection t) ∨
    ∃ r : Relationship, entry = .relating source v r.target none ∧
      r = ⟨r.id, source, v, r.target, .fuzzy, none, r.createdAt⟩ ∧ es.Has relationshipCollection r
  | _ => False

/-- The log is the old one and actions whose change is in the table. -/
def Honest (call : GraphCall) (g : Graph) (es : Entries) : Prop :=
  ∃ new, g.entries.Continues es new ∧ ∀ a ∈ new, call.Backs g es a.toActionEntry

variable {g : Graph} {call : GraphCall} {es : Entries} {ss : List Statement}

theorem honest_of_log (h : es.log = g.entries.log) : call.Honest g es :=
  ⟨[], Entries.continues_nil h, List.forall_mem_nil _⟩

theorem honest_of_spared (hss : ∀ s ∈ ss, s.SparesLog) (n : Nat) :
    call.Honest g (g.entries.after (ss.take n)) :=
  honest_of_log (Statement.log_after (fun s hs => hss s (List.mem_of_mem_take hs)) _)

theorem honest_of_filing (ss : List Statement) {a : Action} {time : Int64}
    (hss : ∀ s ∈ ss, s.SparesLog)
    (hbacks : call.Backs g (g.entries.after (ss ++ [actionCollection.filing a time])) a.toActionEntry)
    (n : Nat) : call.Honest g (g.entries.after ((ss ++ [actionCollection.filing a time]).take n)) := by
  by_cases hn : n ≤ ss.length
  · rw [List.take_append_of_le_length hn]
    exact honest_of_spared hss n
  · have hall : (ss ++ [actionCollection.filing a time]).length ≤ n := by
      rw [List.length_append]
      exact Nat.lt_of_not_le hn
    rw [List.take_of_length_le hall]
    refine ⟨[a], ?_, List.forall_mem_singleton.mpr hbacks⟩
    rw [Entries.after_append]
    exact (Entries.continues_nil (Statement.log_after hss _)).filing a time

theorem firstThing_fields (g : Graph) (type : String) (data : Json) (id : Option String) :
    (g.firstThing type data id).type = type ∧ (g.firstThing type data id).data = membersOf data ∧
      ∀ k, id = some k → (g.firstThing type data id).id = k := by
  cases id with
  | none => exact ⟨rfl, rfl, nofun⟩
  | some id => exact ⟨rfl, rfl, fun k hk => Option.some.inj hk⟩

/-- However many statements of its plan are executed, the log stays honest. -/
theorem Plan.honest (hs : Stocked thingCollection.name g.entries) (hplan : Plan g call ss) (n : Nat) :
    call.Honest g (g.entries.after (ss.take n)) := by
  have hthing (t : Thing) (time : Int64) : (thingCollection.filing t time).SparesLog :=
    Statement.sparesLog_filing (by decide) t time
  have hedge (r : Relationship) (time : Int64) : (relationshipCollection.filing r time).SparesLog :=
    Statement.sparesLog_filing (by decide) r time
  cases hplan with
  | nothing call => exact honest_of_spared (List.forall_mem_nil _) n
  | @created type data id t a filed logged ht ha =>
    refine honest_of_filing [_] (List.forall_mem_singleton.mpr (hthing t filed)) ?_ n
    obtain ⟨htype, hdata, hid⟩ := firstThing_fields g type data id
    subst ht
    exact ⟨_, ha, htype, hdata, hid, (Entries.has_filing _ _ _ _).filing (by decide) a logged⟩
  | fetched => exact honest_of_spared (List.forall_mem_singleton.mpr (Statement.sparesLog_fetch _ _)) n
  | @changed id changes old a time filed logged there ha =>
    refine honest_of_filing [_, _] (List.forall_mem_cons.mpr ⟨Statement.sparesLog_fetch _ _,
      List.forall_mem_singleton.mpr (hthing _ filed)⟩) ?_ n
    obtain ⟨t, hstored, hkey, hold, -⟩ := Stocked.exists_of_recordAt (α := Thing) hs there
    obtain rfl : old = t := hold
    exact ⟨ha, old, time, current_of_stored hstored, hkey,
      (Entries.has_filing _ _ _ _).filing (by decide) a logged⟩
  | absent =>
    exact honest_of_spared (List.forall_mem_singleton.mpr (Statement.sparesLog_remove (by decide) _)) n
  | @deleted id p a logged hp ha =>
    refine honest_of_filing [_, _] (List.forall_mem_cons.mpr
      ⟨Statement.sparesLog_remove (by decide) _,
        List.forall_mem_singleton.mpr (Statement.sparesLog_removeWhere (by decide) _)⟩) ?_ n
    let removed := (g.entries.remove thingCollection.name id).removeWhere relationshipCollection.name p
    have hthings : ((actionCollection.filing a logged).effect removed).rows thingCollection.name =
        (g.entries.remove thingCollection.name id).rows thingCollection.name :=
      (Entries.rows_put_of_ne (by decide) _ _ _).trans (Entries.rows_removeWhere_of_ne (by decide) _ _)
    refine ⟨ha, (fetch_of_rows hthings id).trans (Entries.fetch_remove _ _ _), fun r hr => ?_⟩
    have hshelf : Record.filed r ∈ removed.shelf relationshipCollection.name :=
      Entries.edges_filing a logged removed ▸ hr
    exact (r.holds_touching id).symm.trans (Entries.holds_of_removeWhere hp hshelf)
  | @related source v target cascade data r a filed logged hr ha =>
    refine honest_of_filing [_] (List.forall_mem_singleton.mpr (hedge r filed)) ?_ n
    exact ⟨ha, r, hr, (Entries.has_filing _ _ _ _).filing (by decide) a logged⟩
  | @unrelated source v target p a logged hp ha =>
    refine honest_of_filing [_]
      (List.forall_mem_singleton.mpr (Statement.sparesLog_removeWhere (by decide) _)) ?_ n
    refine ⟨ha, fun r hr => ?_⟩
    have hshelf : Record.filed r ∈
        (g.entries.removeWhere relationshipCollection.name p).shelf relationshipCollection.name :=
      Entries.edges_filing a logged _ ▸ hr
    exact (r.holds_between source v target).symm.trans (Entries.holds_of_removeWhere hp hshelf)
  | @found source v type text data threshold r a filed logged hr ha =>
    refine honest_of_filing [_] (List.forall_mem_singleton.mpr (hedge r filed)) ?_ n
    exact .inr ⟨r, ha, hr, (Entries.has_filing _ _ _ _).filing (by decide) a logged⟩
  | @alone source v type text data threshold t a filed logged ht ha =>
    refine honest_of_filing [_] (List.forall_mem_singleton.mpr (hthing t filed)) ?_ n
    obtain ⟨htype, hdata, -⟩ := firstThing_fields g type (dataOf text data) none
    subst ht
    exact .inl ⟨_, ha, htype, hdata, (Entries.has_filing _ _ _ _).filing (by decide) a logged⟩
  | @joined source v type text data threshold t r a b filed logged filed' logged' ht ha hr hb =>
    obtain ⟨htype, hdata, -⟩ := firstThing_fields g type (dataOf text data) none
    rw [← ht] at htype hdata
    have htarget : r.target = t.id := congrArg Relationship.target hr
    let made := g.entries.after [thingCollection.filing t filed, actionCollection.filing a logged]
    let linked := (relationshipCollection.filing r filed').effect made
    have hmade : made.Has thingCollection t := (Entries.has_filing _ t filed _).filing (by decide) a logged
    have hlinked : linked.Has thingCollection t := hmade.filing (by decide) r filed'
    have hspared : ∀ s ∈ [thingCollection.filing t filed], s.SparesLog :=
      List.forall_mem_singleton.mpr (hthing t filed)
    have hlog : g.entries.Continues linked [a] :=
      ((Entries.continues_nil (Statement.log_after hspared _)).filing a logged).spared
        (hedge r filed' made)
    have hbacks : (fuzzyRelate source v type text data threshold).Backs g made a.toActionEntry :=
      .inl ⟨t, ha, htype, hdata, hmade⟩
    have hfirst := honest_of_filing _ hspared hbacks
    rcases n with _ | _ | _ | _ | n
    · exact hfirst 0
    · exact hfirst 1
    · exact hfirst 2
    · exact ⟨[a], hlog, List.forall_mem_singleton.mpr (.inl ⟨t, ha, htype, hdata, hlinked⟩)⟩
    · rw [List.take_of_length_le (by simp)]
      refine ⟨[a, b], hlog.filing b logged', List.forall_mem_cons.mpr
        ⟨.inl ⟨t, ha, htype, hdata, hlinked.filing (by decide) b logged'⟩,
          List.forall_mem_singleton.mpr (.inr ⟨r, htarget ▸ hb, htarget ▸ hr, ?_⟩)⟩⟩
      exact (Entries.has_filing _ r filed' _).filing (by decide) b logged'

end GraphCall

namespace Graph

variable {g h k : Graph} {α : Type} {m : GraphM α}

def Prolongs (g h : Graph) : Prop :=
  g.Precedes h ∧ (g.Audited → h.Audited ∧ g.logRows <+: h.logRows)

theorem Prolongs.trans (hgh : Prolongs g h) (hhk : Prolongs h k) : Prolongs g k := by
  refine ⟨hgh.1.trans hhk.1, fun hg => ?_⟩
  obtain ⟨hh, hfirst⟩ := hgh.2 hg
  obtain ⟨hk, hsecond⟩ := hhk.2 hh
  exact ⟨hk, hfirst.trans hsecond⟩

theorem prolongs_of_rows (hp : g.Precedes h) (hrows : h.logRows = g.logRows) : Prolongs g h :=
  ⟨hp, fun hg => ⟨hg.of_spared hp hrows, hrows ▸ List.prefix_refl _⟩⟩

theorem prolongs_of_spares (hm : Spares actionCollection.name m) : Steps Prolongs m := by
  intro g r h hx
  obtain ⟨hp, hrows⟩ := hm g r h hx
  exact prolongs_of_rows hp hrows

theorem frames_prolongs : Frames Prolongs := frames_of_spared .trans prolongs_of_rows

theorem entries_of_log_error {entry : ActionEntry} {e : StoreError}
    (hx : log entry g = (.error e, h)) : h.entries = g.entries := by
  rcases error_of_bind hx with hid | ⟨id, g₁, hid, hx⟩
  · exact (reads_newId "act" g _ h hid).2
  · have he₁ := (reads_newId "act" g _ g₁ hid).2
    rcases error_of_bind hx with hnow | ⟨time, g₂, hnow, hx⟩
    · exact (reads_now g₁ _ h hnow).2.trans he₁
    · have he₂ := (reads_now g₁ _ g₂ hnow).2.trans he₁
      rcases error_of_bind hx with hput | ⟨u, g₃, -, hx⟩
      · exact (entries_of_putRecord_error hput).trans he₂
      · cases hx

theorem prolongs_log (entry : ActionEntry) : Steps Prolongs (log entry) := by
  intro g r h hx
  have hspares : Spares "" (log entry) := spares_log (by decide) entry
  have hp : g.Precedes h := (hspares g r h hx).1
  cases r with
  | ok a =>
    refine ⟨hp, fun hg => ?_⟩
    obtain ⟨hh, actions, ⟨new, hnew, -⟩, -⟩ := logs_log entry g a h hg hx
    exact ⟨hh, new, hnew.symm⟩
  | error e =>
    exact prolongs_of_rows hp (congrArg (Entries.rows _) (entries_of_log_error hx))

end Graph

theorem GraphCall.run_prolongs (call : GraphCall) : Steps Prolongs call.run := by
  have hR := frames_prolongs
  have hput {ρ : Type} [Record ρ] {c : Collection} (hc : c.name ≠ actionCollection.name) (r : ρ) :
      Steps Prolongs (onStore (c.putRecord r)) :=
    prolongs_of_spares (spares_onStore (Collection.spares_putRecord hc r))
  have hedges (filter : Filter) :
      Steps Prolongs (onStore (relationshipCollection.deleteWhere filter)) :=
    prolongs_of_spares (spares_onStore (Collection.spares_deleteWhere (by decide) filter))
  have hcreate (type : String) (data : Json) (id : Option String) :
      Steps Prolongs (Graph.createThing type data id) :=
    hR.createThing (fun _ _ => hput (by decide) _) (fun _ => prolongs_log _) id
  have hrelate (source v target : String) (cascade : Cascade) (data : Option Json) :
      Steps Prolongs (Graph.relate source v target cascade data) :=
    hR.relate (fun _ _ => hput (by decide) _) (prolongs_log _)
  cases call with
  | createThing type data id => exact hR.map (hcreate type data id) _
  | updateThing id changes =>
    have hupdate : Steps Prolongs (Graph.updateThing id changes) := fun _ _ _ hx =>
      hR.updateThing (fun _ _ _ _ => hput (by decide) _) (prolongs_log _) hx
    exact hR.map hupdate _
  | deleteThing id =>
    have hthing : Spares actionCollection.name (onStore (thingCollection.delete id)) :=
      spares_onStore (Collection.spares_delete (by decide) id)
    exact hR.map (hR.deleteThing (prolongs_of_spares hthing) (hedges _) (prolongs_log _)) _
  | log entry => exact hR.map (prolongs_log entry) _
  | relate source v target cascade data => exact hR.map (hrelate source v target cascade data) _
  | unrelate source v target => exact hR.map (hR.unrelate (hedges _) (prolongs_log _)) _
  | fuzzyRelate source v type text data threshold =>
    exact hR.map (hR.fuzzyRelate (hcreate _ _ _) (fun _ => hrelate _ _ _ _ _) threshold) _
  | elsewhere name outside call =>
    exact prolongs_of_spares (run_spares (not_mem_writes_elsewhere (by decide)))
  | _ =>
    refine prolongs_of_spares (run_spares ?_)
    simp [writes, actionCollection, nounCollection, verbCollection]

theorem Graph.Trace.prolongs {start g : Graph} {steps : List GraphStep}
    (htrace : start.Trace steps g) : Prolongs start g := by
  induction htrace with
  | nil => exact frames_prolongs.alike rfl rfl rfl rfl
  | @snoc g h steps call outcome init step ih => exact ih.trans (call.run_prolongs g _ h step)

namespace Graph

variable {g : Graph} {steps : List GraphStep} {call : GraphCall}

/-- A call that changes the graph issues the statements of its plan, on any engine. If it fails with an
error of the engine, the table is what the statements before the refused one have made of it. However
the call ends, the log is the old one and actions whose change is in the table; as long as one graph
makes the ids, the old one is left as it is and those come after it. -/
theorem refused_of_session (hsession : Session collectionNames steps g)
    (hwf : ∀ s ∈ steps, s.call.WellFormed) (hcall : call.mutates = true) :
    ∃ ss r k, call.Plan g ss ∧ Issues call.run g ss r k ∧ (∀ e, r = .error e → e.IsOwn) ∧
      (∀ d h, call.run g = (.error (.storage d), h) →
        ∃ n < ss.length, h.entries = g.entries.after (ss.take n)) ∧
      (∀ outcome h, call.run g = (outcome, h) → call.Honest g h.entries) ∧
      ∀ store tails, (∀ n, (store.clock.reading n).toInt.toNat < 36 ^ timeWidth) →
        store.entries.rows actionCollection.name = [] → (ofStore store tails).Trace steps g →
          ∀ outcome h, call.run g = (outcome, h) → g.logRows <+: h.logRows := by
  have hs : Stocked thingCollection.name g.entries :=
    hsession.stocked (List.Subset.refl _) hwf (by decide)
  obtain ⟨ss, r, k, hissues, hown, hplan⟩ := GraphCall.run_issues hcall g
  refine ⟨ss, r, k, hplan, hissues, hown, fun d h hx => ?_, fun outcome h hx => ?_,
    fun store tails hclock hempty htrace outcome h hx => ?_⟩
  · rcases ends_of_issues hissues hx with ⟨n, hn, -, he⟩ | ⟨heq, -⟩
    · exact ⟨n, hn, he⟩
    · exact absurd rfl (hown _ heq.symm d)
  · rcases ends_of_issues hissues hx with ⟨n, -, -, he⟩ | ⟨-, he⟩
    · exact he ▸ hplan.honest hs n
    · have hall := hplan.honest hs ss.length
      rw [List.take_length] at hall
      exact he ▸ hall
  · obtain ⟨haudited, -⟩ := audited_ofStore tails hclock hempty
    have hg := (htrace.prolongs.2 haudited).1
    exact ((call.run_prolongs g _ h hx).2 hg).2

/-- Two ids are related, and then the engine refuses the second statement of unrelating them: the edge
is gone and the log does not tell of it. -/
theorem refused_of_unrelating :
    ∃ steps g, steps.map (·.call) = [GraphCall.relate "a" "knows" "b" .direct none] ∧
      Session collectionNames steps g ∧
      (∃ e : Relationship,
        g.entries.shelf relationshipCollection.name = [Record.filed e] ∧
          e.links "a" "knows" "b" = true) ∧
      ∃ d h, (GraphCall.unrelate "a" "knows" "b").run g = (.error (.storage d), h) ∧
        h.entries.shelf relationshipCollection.name = [] ∧ h.entries.log = g.entries.log := by
  let store : Store := ⟨.initial, .empty, .zero, [], .still 0⟩
  let start : Graph := ofStore store fun _ => 0
  obtain ⟨e, g₁, hrelate, -, -⟩ := (assured_relate (by decide : "a" ≠ "") (by decide : "knows" ≠ "")
    (by decide : "b" ≠ "") .direct none).of_ready (⟨rfl, rfl⟩ : start.store.Ready)
  have hzero : (0 : Int64).toInt.toNat < 36 ^ timeWidth := by decide
  have hedged : g₁.Edged ([] ++ [e]) := (edged_ofStore _ (fun _ => hzero) rfl).relate hrelate
  have hlinks : e.links "a" "knows" "b" = true := by
    rw [(relate_of_ok hrelate).1]
    rfl
  let steps : List GraphStep :=
    [⟨start, .relate "a" "knows" "b" .direct none, .ok (.relationship e)⟩]
  let weary (db : Database) : Database := { db with isOpen := true, refusal := some ⟨1, "disk full"⟩ }
  let g : Graph := Hosted.host (weary g₁.store.database) g₁
  have hsession : Session collectionNames steps g :=
    .amid _ (.called (.opened store (fun _ => 0) fun _ _ => rfl) (bind_of_ok hrelate)) fun _ _ => rfl
  have hwf : ∀ s ∈ steps, s.call.WellFormed :=
    List.forall_mem_singleton.mpr ⟨nofun, trivial, trivial⟩
  obtain ⟨ss, r, k, hplan, hissues, hown, -⟩ :=
    refused_of_session hsession hwf (show (GraphCall.unrelate "a" "knows" "b").mutates = true from rfl)
  refine ⟨steps, g, rfl, hsession, ⟨e, hedged.rows, hlinks⟩, ?_⟩
  cases hplan with
  | nothing =>
    -- On a closed engine nothing could have been refused.
    let closed : Database := { weary g₁.store.database with isOpen := false }
    obtain ⟨db, hx, -⟩ := hissues.done closed rfl fun n _ => Nat.zero_le n
    have hclosed : ((GraphCall.unrelate "a" "knows" "b").run (Hosted.host closed g)).1 =
        .error (.storage .closed) := rfl
    have hr : r = .error (.storage .closed) := (congrArg Prod.fst hx).symm.trans hclosed
    exact absurd rfl (hown _ hr .closed)
  | @unrelated source v target p a logged hp ha =>
    obtain ⟨d, h, hx, hh⟩ := hissues.refused _ rfl 1 rfl (Nat.lt_succ_self 1)
    have he : h.entries = g.entries.removeWhere relationshipCollection.name p := hh
    refine ⟨d, h, hx, ?_, ?_⟩
    · have hshelf : g.entries.shelf relationshipCollection.name = [Record.filed e] := hedged.rows
      have hbetween : (Relationship.between "a" "knows" "b").holds (Record.filed e).2 = true :=
        (e.holds_between _ _ _).trans hlinks
      rw [he, Entries.shelf_removeWhere_self hp, hshelf, Shelf.withoutMatching,
        List.filter_cons_of_neg (by simp [hbetween])]
      rfl
    · rw [he]
      exact Statement.sparesLog_removeWhere (by decide) p g.entries

end Graph

end DocumentGraph
