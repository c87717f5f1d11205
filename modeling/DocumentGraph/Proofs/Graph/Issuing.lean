import DocumentGraph.Proofs.Graph.Tasks
import DocumentGraph.Proofs.Identifier.Distinct
import DocumentGraph.Proofs.Store.Changes
set_option autoImplicit false

namespace DocumentGraph

open Identifier Operation DocumentGraph.Graph

def CollectionCall.filedId? : CollectionCall → Option String
  | put id _ => some id
  | _ => none

theorem CollectionCall.filedId?_of_touches {call : CollectionCall} {id filed : String}
    (hfiled : call.filedId? = some filed) (htouches : call.Touches id) : id = filed := by
  cases call with
  | put key doc =>
    cases hfiled
    exact htouches.symm
  | _ => cases hfiled

namespace Deed

/-- All calls put documents, each under an id that was made. -/
def Filed (deeds : List Deed) : Prop :=
  ∃ filed : List String, (steps deeds).map (·.call.filedId?) = filed.map some ∧
    filed.Sublist (ids deeds)

variable {deeds more : List Deed}

theorem filed_nil : Filed [] := ⟨[], rfl, .slnil⟩

theorem Filed.append (h : Filed deeds) (k : Filed more) : Filed (deeds ++ more) := by
  obtain ⟨xs, hxs, hsub⟩ := h
  obtain ⟨ys, hys, hsub'⟩ := k
  refine ⟨xs ++ ys, ?_, ?_⟩
  · rw [steps_append, List.map_append, List.map_append, hxs, hys]
  · rw [ids_append]
    exact hsub.append hsub'

theorem filed_makes (id : String) : Filed [.makes id] := ⟨[], rfl, List.nil_sublist _⟩

theorem filed_record {step : CollectionStep} {id : String} (h : step.call.filedId? = some id) :
    Filed [.makes id, .calls step] :=
  ⟨[id], congrArg (fun filed => [filed]) h, .refl _⟩

theorem Filed.mem_ids (h : Filed deeds) {step : CollectionStep} (hstep : step ∈ steps deeds)
    {id : String} (htouches : step.call.Touches id) : id ∈ ids deeds := by
  obtain ⟨filed, hfiled, hsub⟩ := h
  have hmem : step.call.filedId? ∈ filed.map some := hfiled ▸ List.mem_map_of_mem hstep
  obtain ⟨key, hkey, heq⟩ := List.mem_map.mp hmem
  rw [CollectionCall.filedId?_of_touches heq.symm htouches]
  exact hsub.subset hkey

end Deed

namespace Graph

variable {α β ρ : Type} [Record ρ] {g h k : Graph} {deeds more : List Deed} {m : GraphM α}
  {f : α → GraphM β}

/-- However it ends, the operation puts documents under ids that it made, and nothing else. -/
def Files (m : GraphM α) (g : Graph) : Prop := Undertakes m g fun _ deeds => Deed.Filed deeds

theorem files_pure (a : α) : Files (pure a) g := undertakes_pure Deed.filed_nil

theorem Files.bind (hm : Files m g) (hf : ∀ a k, Files (f a) k) : Files (m >>= f) g :=
  Undertakes.bind hm (fun _ _ h => h) fun a k _ _ h =>
    Undertakes.mono (hf a k) fun _ _ hmore => h.append hmore

theorem Files.after (hm : Idle m) (hf : ∀ a k, Files (f a) k) : Files (m >>= f) g :=
  Undertakes.after hm (fun _ => Deed.filed_nil) fun a k _ => hf a k

theorem files_record {name : String} {c : Collection} {r : String → Int64 → ρ}
    {f : String → Int64 → GraphM β} (hkey : ∀ id time, Record.key (r id time) = id)
    (hf : ∀ id time k, Files (f id time) k) : Files (do
      let id ← newId name
      let time ← now
      onStore (c.putRecord (r id time))
      f id time) g := by
  refine Undertakes.bind (undertakes_newId name g) ?_ ?_
  · rintro e deeds ⟨id, he, -⟩
    cases he
  · rintro id k deeds - ⟨id, hid, rfl⟩
    cases hid
    refine Undertakes.after idle_now (fun _ => Deed.filed_makes id) fun time k _ => ?_
    have hrun : CollectionCall.run c (.put (Record.key (r id time)) (Record.document (r id time))) =
        c.putRecord (r id time) >>= fun _ => pure .done := rfl
    have hput (step : CollectionStep) (hstep : step.call = .put (Record.key (r id time))
        (Record.document (r id time))) : Deed.Filed [.makes id, .calls step] :=
      Deed.filed_record (by rw [hstep, CollectionCall.filedId?, hkey])
    refine Undertakes.bind (undertakes_call hrun k) ?_ ?_
    · rintro e deeds rfl
      exact hput _ rfl
    · rintro u l deeds - rfl
      exact Undertakes.mono (hf id time l) fun _ _ hmore => (hput _ rfl).append hmore

theorem files_log (entry : ActionEntry) (g : Graph) : Files (log entry) g :=
  files_record (fun _ _ => rfl) fun _ _ _ => files_pure _

theorem files_createThing (type : String) (data : Json) (g : Graph) :
    Files (createThing type data none) g :=
  Files.after (idle_check _) fun _ _ => Files.after (idle_check _) fun _ _ =>
    files_record (fun _ _ => rfl) fun _ _ k => (files_log _ k).bind fun _ _ => files_pure _

theorem files_relate (source verb target : String) (cascade : Cascade) (data : Option Json)
    (g : Graph) : Files (relate source verb target cascade data) g :=
  Files.after (idle_check _) fun _ _ => Files.after (idle_check _) fun _ _ =>
    Files.after (idle_check _) fun _ _ => files_record (fun _ _ => rfl) fun _ _ k =>
      (files_log _ k).bind fun _ _ => files_pure _

theorem files_fuzzyRelate (source verb type text : String) (data : Option Json)
    (threshold : Option Binary64) (g : Graph) :
    Files (fuzzyRelate source verb type text data threshold) g := by
  refine Files.after (idle_ask _ _ _) fun asked k => ?_
  obtain ⟨t, candidates⟩ := asked
  dsimp only
  cases Candidate.best t candidates with
  | some c => exact (files_relate _ _ _ _ _ k).bind fun _ _ => files_pure _
  | none =>
    exact (files_createThing _ _ k).bind fun _ k => (files_relate _ _ _ _ _ k).bind fun _ _ =>
      files_pure _

/-- The source of ids is left alone, and the clock goes on as it would. -/
structure KeepsIds (g h : Graph) : Prop where
  ids : h.ids = g.ids
  reading : h.store.clock.reading = g.store.clock.reading

/-- Deeds one after the other. What else happens between them makes no ids. -/
abbrev History (g : Graph) (deeds : List Deed) (h : Graph) : Prop :=
  Trail Deed.Happens KeepsIds g deeds h

theorem Does.history (hdoes : g.Does deeds h) : g.History deeds h :=
  hdoes.mono fun hidle => ⟨hidle.ids, hidle.reading⟩

theorem keepsIds_of_happens {step : CollectionStep} (hstep : Deed.Happens g (.calls step) h) :
    g.KeepsIds h := by
  obtain ⟨⟨-, hrun⟩, hids⟩ := hstep
  exact ⟨hids, (step.call.run_confined step.collection _ _ _ hrun).1.reading⟩

theorem History.issued (hhistory : g.History deeds h) :
    ∃ calls : List (String × Int64), (∀ call ∈ calls, ∃ n, call.2 = g.store.clock.reading n) ∧
      Deed.ids deeds = g.ids.issued calls ∧ h.ids = g.ids.after calls ∧
      h.store.clock.reading = g.store.clock.reading := by
  induction hhistory with
  | nil => exact ⟨[], List.forall_mem_nil _, rfl, rfl, rfl⟩
  | @event deeds deed k l init happens ih =>
    obtain ⟨calls, hclocks, hids, hafter, hreading⟩ := ih
    rw [Deed.ids_append, hids]
    cases deed with
    | makes id =>
      obtain ⟨name, hnew⟩ := happens
      rw [newId_apply] at hnew
      cases hnew
      refine ⟨calls ++ [(name, k.store.clock.now)], ?_, ?_, ?_, hreading⟩
      · refine List.forall_mem_append.mpr ⟨hclocks, List.forall_mem_singleton.mpr ?_⟩
        exact ⟨k.store.clock.taken, congrFun hreading _⟩
      · rw [Source.issued_append, ← hafter]
        rfl
      · rw [Source.after_append, ← hafter]
        rfl
    | calls step =>
      have hkeeps := keepsIds_of_happens happens
      exact ⟨calls, hclocks, List.append_nil _, hkeeps.ids.trans hafter,
        hkeeps.reading.trans hreading⟩
  | amid _ move ih =>
    obtain ⟨calls, hclocks, hids, hafter, hreading⟩ := ih
    exact ⟨calls, hclocks, hids, move.ids.trans hafter, move.reading.trans hreading⟩

theorem History.nodup (hg : g.Timely) (hhistory : g.History deeds h) : (Deed.ids deeds).Nodup := by
  obtain ⟨calls, hclocks, hids, -⟩ := hhistory.issued
  rw [hids]
  refine Source.nodup_issued hg.2 fun call hcall => ?_
  obtain ⟨n, hn⟩ := hclocks call hcall
  rw [hn]
  exact hg.1 n

theorem Does.fetch {id : String} (hdoes : g.Does deeds h)
    (huntouched : ∀ step ∈ Deed.steps deeds, ¬ step.call.Touches id) (name : String) :
    h.entries.fetch name id = g.entries.fetch name id := by
  induction hdoes with
  | nil => rfl
  | @event deeds deed k l init happens ih =>
    rw [Deed.steps_append] at huntouched
    obtain ⟨hinit, hlast⟩ := List.forall_mem_append.mp huntouched
    rw [← ih hinit]
    cases deed with
    | makes key =>
      obtain ⟨prefixName, hnew⟩ := happens
      rw [newId_apply] at hnew
      cases hnew
      rfl
    | calls step =>
      have hchanges := (step.call.run_confined step.collection _ _ _ happens.1.2).2
      exact hchanges.fetch fun htouches => hlast step List.mem_cons_self htouches.2
  | amid _ move ih =>
    rw [← ih huntouched, entries, entries, move.store]
    rfl

end Graph

def GraphCall.filesNew : GraphCall → Bool
  | createThing _ _ id => id.isNone
  | log _ => true
  | relate _ _ _ _ _ => true
  | fuzzyRelate _ _ _ _ _ _ => true
  | _ => false

theorem GraphCall.run_files {call : GraphCall} (hnew : call.filesNew = true) (g : Graph) :
    Files call.run g := by
  cases call with
  | createThing type data id =>
    obtain rfl := Option.isNone_iff_eq_none.mp hnew
    exact (files_createThing type data g).bind fun _ _ => files_pure _
  | log entry => exact (files_log entry g).bind fun _ _ => files_pure _
  | relate source v target cascade data =>
    exact (files_relate source v target cascade data g).bind fun _ _ => files_pure _
  | fuzzyRelate source v type text data threshold =>
    exact (files_fuzzyRelate source v type text data threshold g).bind fun _ _ => files_pure _
  | _ => cases hnew

namespace Graph

theorem History.timely_start {store : Store}
    (hclock : ∀ n, (store.clock.reading n).toInt.toNat < 36 ^ timeWidth) (tails : Nat → Nat) :
    (ofStore store tails).Timely :=
  ⟨hclock, Generator.inRange_initial⟩

/-- Identifiers made by one source never repeat, whatever their names, the readings of the clock and
the random tails are, and the count stays where 64 bits hold it. The ids that a graph makes are such
identifiers; and a call that files new records puts each under an id of its own, so that all that lies
under ids made before stays what it is. -/
theorem ids_never_repeat {tails : Nat → Nat} {calls : List (String × Int64)}
    (hfew : calls.length < 2 ^ 64)
    (hclocks : ∀ call ∈ calls, call.2.toInt.toNat < 36 ^ timeWidth) :
    let source : Source := ⟨.initial, tails, 0⟩
    (source.issued calls).Nodup ∧ (∀ state ∈ source.states calls, state.count < 2 ^ 64) ∧
    ∀ (store : Store) (deeds : List Deed) (g : Graph),
      (∀ n, (store.clock.reading n).toInt.toNat < 36 ^ timeWidth) →
      (ofStore store tails).History deeds g →
      (∃ made, Deed.ids deeds = source.issued made) ∧ (Deed.ids deeds).Nodup ∧
      ∀ (call : GraphCall) outcome h, call.run g = (outcome, h) → ∃ more, g.Does more h ∧
        (Deed.ids (deeds ++ more)).Nodup ∧ (call.filesNew = true → Deed.Filed more ∧
          ∀ id ∈ Deed.ids deeds, ∀ name, h.entries.fetch name id = g.entries.fetch name id) := by
  refine ⟨Source.nodup_issued Generator.inRange_initial hclocks, fun state hstate => ?_,
    fun store deeds g hclock hhistory => ?_⟩
  · have hcount : state.count ≤ 0 + calls.length := Source.count_le_of_mem_states hstate
    omega
  · have hstart := History.timely_start hclock tails
    obtain ⟨made, -, hmade, -⟩ := hhistory.issued
    refine ⟨⟨made, hmade⟩, hhistory.nodup hstart, fun call outcome h hx => ?_⟩
    have hnodup {more : List Deed} (hdoes : g.Does more h) : (Deed.ids (deeds ++ more)).Nodup :=
      History.nodup hstart (hhistory.trans hdoes.history)
    by_cases hnew : call.filesNew = true
    · obtain ⟨more, hdoes, hfiled⟩ := call.run_files hnew g outcome h hx
      refine ⟨more, hdoes, hnodup hdoes, fun _ => ⟨hfiled, fun id hid name => ?_⟩⟩
      refine hdoes.fetch (fun step hstep htouches => ?_) name
      -- The id was made before, and once more by the call.
      have hdisjoint := hnodup hdoes
      rw [Deed.ids_append, List.nodup_append] at hdisjoint
      exact hdisjoint.2.2 id hid id (hfiled.mem_ids hstep htouches) rfl
    · obtain ⟨more, hdoes, -⟩ := call.run_performs g outcome h hx
      exact ⟨more, hdoes, hnodup hdoes, fun h => absurd h hnew⟩

/-- The clock stands still and steps back, a name is empty and another one looks like an identifier. -/
theorem ids_never_repeat_of_odd_names :
    ((⟨.initial, fun _ => 0, 0⟩ : Source).issued
      [("user", 5), ("", 5), ("user_000000005", 3), ("user", 3)]).Nodup := by
  have hfew : [("user", (5 : Int64)), ("", 5), ("user_000000005", 3), ("user", 3)].length < 2 ^ 64 :=
    by decide
  have hclocks : ∀ call ∈ [("user", (5 : Int64)), ("", 5), ("user_000000005", 3), ("user", 3)],
      call.2.toInt.toNat < 36 ^ timeWidth := by
    simp [timeWidth]
  exact (ids_never_repeat hfew hclocks).1

end Graph

end DocumentGraph
