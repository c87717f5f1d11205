import DocumentGraph.Proofs.Graph.Stock
set_option autoImplicit false

/-!
# Sessions

A session starts with a graph over a store in which some guarded collections are empty, and runs
calls that end however they do. Between two calls anything may happen to the store or to the graph
that leaves the guarded collections as they are: the engine is closed or opened again, it is told to
refuse a statement, something is written elsewhere, or the graph is replaced by a new one over the
same documents. All along the guarded collections are stocked.
-/

namespace DocumentGraph

open Operation DocumentGraph.Graph

namespace GraphCall

def SchemaWellFormed : GraphCall → Prop
  | defineNoun _ d => ∀ j, d.schema = some j → j.WellFormed
  | _ => True

structure WellFormed (call : GraphCall) : Prop where
  payload : call.PayloadWellFormed
  data : call.ThingDataWellFormed
  schema : call.SchemaWellFormed

variable {call : GraphCall} {name : String}

theorem run_stocks (hwf : call.WellFormed) (hname : name ∈ collectionNames) :
    Stocks name call.run := by
  have hR := frames_stocks name
  have hreads {α : Type} {m : GraphM α} (hm : Reads m) : Stocks name m := by
    intro g r h hx hs
    rw [(hm g r h hx).2]
    exact hs
  obtain ⟨hpayload, hdata, hschema⟩ := hwf
  cases call with
  | createThing type data id => exact hR.map (stocks_createThing hdata type id) _
  | updateThing id changes => exact hR.map (stocks_updateThing hdata id) _
  | deleteThing id =>
    exact hR.map (hR.deleteThing (stocks_delete _ id) (stocks_deleteWhere _ _) (stocks_log nofun)) _
  | log entry => exact hR.map (stocks_log hpayload) _
  | relate source v target cascade data =>
    exact hR.map (stocks_relate hpayload source v target cascade) _
  | unrelate source v target =>
    exact hR.map (hR.unrelate (stocks_deleteWhere _ _) (stocks_log nofun)) _
  | fuzzyRelate source v type text data threshold =>
    have hcreate : Stocks name (Graph.createThing type (dataOf text data) none) :=
      stocks_createThing (wellFormed_dataOf hdata) type none
    have hrelate (target : String) : Stocks name (Graph.relate source v target .fuzzy none) :=
      stocks_relate (by rintro j ⟨⟩) source v target .fuzzy
    exact hR.map (hR.fuzzyRelate hcreate hrelate threshold) _
  | defineNoun key d =>
    exact hR.map (hR.defineNoun
      (fun n hn => stocks_putRecord n fun _ => n.wellFormed_document (hn ▸ hschema))
      fun n => hreads (reads_rememberNoun n)) _
  | defineVerb key d =>
    exact hR.map (hR.defineVerb (fun v => stocks_putRecord v fun _ => v.wellFormed_document)
      fun v => hreads (reads_rememberVerb v)) _
  | elsewhere other outside call =>
    intro g r h hx hs
    exact hs.of_rows (run_spares (not_mem_writes_elsewhere hname) g r h hx).2
  | _ => exact hreads (run_reads rfl)

/-- Whatever a call does to the store, the graph changes only in what it remembers of nouns if the call
is about nouns, and of verbs if it is about verbs. -/
theorem run_remembers {R : Graph → Graph → Prop} (hR : Frames R)
    (hstore : ∀ {α : Type} (x : StoreM α), Steps R (onStore x))
    (hnouns : call.isAboutNouns = true → ∀ n, Steps R (rememberNoun n))
    (hverbs : call.isAboutVerbs = true → ∀ v, Steps R (rememberVerb v)) : Steps R call.run := by
  have hlog (entry : ActionEntry) : Steps R (Graph.log entry) := hR.log fun _ _ => hstore _
  have hcreate (type : String) (data : Json) (id : Option String) :
      Steps R (Graph.createThing type data id) :=
    hR.createThing (fun _ _ => hstore _) (fun _ => hlog _) id
  have hrelate (source v target : String) (cascade : Cascade) (data : Option Json) :
      Steps R (Graph.relate source v target cascade data) :=
    hR.relate (fun _ _ => hstore _) (hlog _)
  cases call with
  | createThing type data id => exact hR.map (hcreate type data id) _
  | updateThing id changes =>
    have hupdate : Steps R (Graph.updateThing id changes) := fun _ _ _ hx =>
      hR.updateThing (fun _ _ _ _ => hstore _) (hlog _) hx
    exact hR.map hupdate _
  | deleteThing id => exact hR.map (hR.deleteThing (hstore _) (hstore _) (hlog _)) _
  | log entry => exact hR.map (hlog entry) _
  | relate source v target cascade data => exact hR.map (hrelate source v target cascade data) _
  | unrelate source v target => exact hR.map (hR.unrelate (hstore _) (hlog _)) _
  | fuzzyRelate source v type text data threshold =>
    exact hR.map (hR.fuzzyRelate (hcreate _ _ _) (fun _ => hrelate _ _ _ _ _) threshold) _
  | defineNoun key d => exact hR.map (hR.defineNoun (fun _ _ => hstore _) (hnouns rfl)) _
  | defineVerb key d => exact hR.map (hR.defineVerb (fun _ => hstore _) (hverbs rfl)) _
  | elsewhere other outside call => exact hR.map (hstore _) _
  | _ => exact run_frames hR rfl hnouns hverbs

end GraphCall

namespace Graph

/-- Calls one after the other, each with its outcome. What else happens in between leaves the guarded
collections as they are. -/
inductive Session (guarded : List String) : List GraphStep → Graph → Prop where
  | opened (store : Store) (tails : Nat → Nat)
      (empty : ∀ name ∈ guarded, store.entries.rows name = []) :
      Session guarded [] (ofStore store tails)
  | called {steps : List GraphStep} {g h : Graph} {call : GraphCall}
      {outcome : Except StoreError GraphReply} (init : Session guarded steps g)
      (step : call.run g = (outcome, h)) : Session guarded (steps ++ [⟨g, call, outcome⟩]) h
  /-- The store that the graph uses has changed. -/
  | amid {steps : List GraphStep} {g : Graph} (store : Store) (init : Session guarded steps g)
      (same : ∀ name ∈ guarded, store.entries.rows name = g.rows name) :
      Session guarded steps { g with store := store }
  /-- A new graph takes the place of the graph. -/
  | renewed {steps : List GraphStep} {g : Graph} (store : Store) (tails : Nat → Nat)
      (init : Session guarded steps g)
      (same : ∀ name ∈ guarded, store.entries.rows name = g.rows name) :
      Session guarded steps (ofStore store tails)

variable {guarded : List String} {steps : List GraphStep} {g : Graph} {name : String}

theorem Session.stocked (hsession : Session guarded steps g) (hguarded : guarded ⊆ collectionNames)
    (hwf : ∀ s ∈ steps, s.call.WellFormed) (hname : name ∈ guarded) : Stocked name g.entries := by
  induction hsession with
  | opened store tails empty => exact .of_empty (empty name hname)
  | called init step ih =>
    obtain ⟨hinit, hlast⟩ := List.forall_mem_append.mp hwf
    have hcall := hlast _ List.mem_cons_self
    exact GraphCall.run_stocks hcall (hguarded hname) _ _ _ step (ih hinit)
  | amid store init same ih => exact (ih hwf).of_rows (same name hname)
  | renewed store tails init same ih => exact (ih hwf).of_rows (same name hname)

end Graph

end DocumentGraph
