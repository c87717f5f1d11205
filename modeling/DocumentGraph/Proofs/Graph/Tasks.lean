import DocumentGraph.Proofs.Graph.Deeds
import DocumentGraph.Proofs.Graph.PartialWrite
import DocumentGraph.Proofs.Store.Counting
import DocumentGraph.Proofs.Store.Opening
set_option autoImplicit false

/-!
# Counting what graphs and records do

Operations on records and on graphs count as the calls on collections that they are made of. An
operation on a record is one call. How many calls an operation on a graph is made of depends on what
it finds: whether there is something to update or to delete, whether a noun or a verb is remembered,
how many edges are to be followed and whether a thing has to be created first.
-/

namespace DocumentGraph

open Operation DocumentGraph.Graph

namespace Operation

variable {σ α β : Type} {m : Operation σ α} {f : α → Operation σ β}

def Still (m : Operation σ α) : Prop := Steps (fun s t => t = s) m

theorem still_pure (a : α) : Still (pure a : Operation σ α) := by
  intro s r t h
  cases h
  rfl

theorem still_check (r : Except StoreError α) : Still (Store.check r) :=
  fun _ _ _ h => (congrArg Prod.snd h).symm

theorem Still.bind (hm : Still m) (hf : ∀ a, Still (f a)) : Still (m >>= f) :=
  Steps.bind (fun h k => k.trans h) hm hf

theorem state_of_bind (hf : ∀ a, Still (f a)) (s : σ) : ((m >>= f) s).2 = (m s).2 := by
  rw [bind_apply]
  rcases m s with ⟨e | a, t⟩
  · rfl
  · exact hf a t _ _ rfl

theorem state_of_map (made : α → β) (s : σ) : ((m >>= fun a => pure (made a)) s).2 = (m s).2 :=
  state_of_bind (fun a => still_pure (made a)) s

end Operation

namespace Collection

variable {ρ : Type} [Record ρ] (c : Collection) {es : Entries} {list : List ρ}

theorem length_decodeAll {rows : List SqlRow} {docs : List Document}
    (h : c.decodeAll rows = .ok docs) : docs.length = rows.length := by
  induction rows generalizing docs with
  | nil =>
    cases h
    rfl
  | cons row rest ih =>
    obtain ⟨doc, others, -, hrest, rfl⟩ := c.ok_of_decodeAll h
    rw [List.length_cons, ih hrest, List.length_cons]

theorem length_decodeRecords {docs : List Document} (h : c.decodeRecords docs = .ok list) :
    list.length = docs.length := by
  induction docs generalizing list with
  | nil =>
    cases h
    rfl
  | cons d rest ih =>
    obtain ⟨r, rs, -, hrest, rfl⟩ := c.ok_of_decodeRecords h
    rw [List.length_cons, ih hrest, List.length_cons]

theorem length_recordsOf (h : c.recordsOf es = .ok list) : list.length = es.length := by
  rw [recordsOf] at h
  cases hdocs : c.decodeAll (es.map Cursor.documentRow) with
  | error e =>
    rw [hdocs] at h
    cases h
  | ok docs =>
    rw [hdocs] at h
    rw [c.length_decodeRecords h, c.length_decodeAll hdocs, List.length_map]

end Collection

namespace Graph

variable {α ρ : Type} [Record ρ] {g h k : Graph}

theorem idle_stored (r : Except StoreError α) : Idle (onStore (Store.check r)) :=
  idle_of_same (fun _ => rfl) fun _ => rfl

theorem performs_idle {m : GraphM α} {T : α → List Task → Prop} (hm : Idle m) (hT : ∀ a, T a []) :
    Performs m g T := by
  intro r h hx
  refine ⟨[], .idle (hm g r h hx), ?_⟩
  cases r with
  | ok a => exact ⟨List.forall_mem_nil _, hT a⟩
  | error e => exact .nil

theorem performs_putRecord (c : Collection) (r : ρ) (g : Graph) :
    Performs (onStore (c.putRecord r)) g fun _ done => done = [(c, .writing)] := by
  have hrun : CollectionCall.run c (.put (Record.key r) (Record.document r)) =
      c.putRecord r >>= fun _ => pure .done := rfl
  exact performs_call hrun g

theorem performs_getRecord (c : Collection) (id : String) (g : Graph) :
    Performs (onStore (c.getRecord id : StoreM (Option ρ))) g
      fun _ done => done = [(c, .reading)] := by
  have hrun : CollectionCall.run c (.get id) = c.get id >>= fun found => pure (.value found) := rfl
  unfold Collection.getRecord
  rw [onStore_bind]
  refine (performs_call hrun g).bind fun found k _ => ?_
  cases found with
  | none => exact performs_pure rfl
  | some data =>
    dsimp only
    rw [onStore_bind]
    exact Performs.after (idle_stored _) fun r k _ => performs_pure rfl

theorem performs_findRecords (c : Collection) (filter : Filter) (options : QueryOptions) (g : Graph) :
    Performs (onStore (c.findRecords filter options : StoreM (List ρ))) g
      fun _ done => done = [(c, .querying)] := by
  have hrun : CollectionCall.run c (.findDocuments filter options) =
      c.findDocuments filter options >>= fun ds => pure (.documents (ds.map Document.pair)) := rfl
  unfold Collection.findRecords
  rw [onStore_bind]
  exact (performs_call hrun g).bind fun ds k _ => performs_idle (idle_stored _) fun _ => rfl

theorem performs_countWhere (c : Collection) (filter : Filter) (g : Graph) :
    Performs (onStore (c.countWhere filter)) g fun _ done => done = [(c, .querying)] := by
  have hrun : CollectionCall.run c (.countWhere filter) =
      c.countWhere filter >>= fun n => pure (.number n) := rfl
  exact performs_call hrun g

theorem performs_deleteWhere (c : Collection) (filter : Filter) (g : Graph) :
    Performs (onStore (c.deleteWhere filter)) g fun _ done => done = [(c, .deleting)] := by
  have hrun : CollectionCall.run c (.deleteWhere filter) =
      c.deleteWhere filter >>= fun n => pure (.number n) := rfl
  exact performs_call hrun g

theorem performs_delete (c : Collection) (id : String) (g : Graph) :
    Performs (onStore (c.delete id)) g fun _ done => done = [(c, .deleting)] := by
  have hrun : CollectionCall.run c (.delete id) = c.delete id >>= fun b => pure (.flag b) := rfl
  exact performs_call hrun g

def edgeCount (g : Graph) (member id verb : String) : Nat :=
  (relationshipCollection.chosen (Relationship.withEnd member id (some verb)) g.entries).length

def nounTasks (g : Graph) (name : String) : List Task :=
  if (g.nounCache.find? name).isSome then [] else [(nounCollection, .reading)]

def verbTasks (g : Graph) (name : String) : List Task :=
  if (g.verbCache.find? name).isSome then [] else [(verbCollection, .reading)]

theorem performs_log (entry : ActionEntry) (g : Graph) :
    Performs (log entry) g fun _ done => done = [(actionCollection, .writing)] :=
  (performs_newId _ g).bind fun _ _ _ => Performs.after idle_now fun _ k _ =>
    (performs_putRecord _ _ k).bind fun _ _ _ => performs_pure rfl

theorem performs_createThing (type : String) (data : Json) (id : Option String) (g : Graph) :
    Performs (createThing type data id) g
      fun _ done => done = [(thingCollection, .writing), (actionCollection, .writing)] := by
  have hwrite (id : String) (k : Graph) : Performs (do
      let t := Thing.first id type (membersOf data) (← now)
      onStore (thingCollection.putRecord t)
      let _ ← log (.about "created" t.id)
      return t) k fun _ done => done = [(thingCollection, .writing), (actionCollection, .writing)] :=
    Performs.after idle_now fun _ k _ => (performs_putRecord _ _ k).bind fun _ k _ =>
      (performs_log _ k).bind fun _ _ _ => performs_pure rfl
  refine Performs.after (idle_check _) fun _ _ _ => Performs.after (idle_check _) fun _ k _ => ?_
  cases id with
  | some id => exact Performs.after (idle_check _) fun _ k _ => hwrite id k
  | none => exact (performs_newId _ k).bind fun id k _ => hwrite id k

theorem performs_updateThing (id : String) (changes : Json) (g : Graph) :
    Performs (updateThing id changes) g fun t done => done = (thingCollection, .reading) ::
      if t.isSome then [(thingCollection, .writing), (actionCollection, .writing)] else [] := by
  refine Performs.after (idle_check _) fun _ k _ => ?_
  refine (performs_getRecord _ id k).bind fun found k _ => ?_
  cases found with
  | none => exact performs_pure rfl
  | some old =>
    exact Performs.after idle_now fun _ k _ => (performs_putRecord _ _ k).bind fun _ k _ =>
      (performs_log _ k).bind fun _ _ _ => performs_pure rfl

theorem performs_deleteThing (id : String) (g : Graph) :
    Performs (deleteThing id) g fun there done => done = (thingCollection, .deleting) ::
      if there then [(relationshipCollection, .deleting), (actionCollection, .writing)] else [] := by
  refine (performs_delete _ id g).bind fun there k _ => ?_
  cases there with
  | true =>
    exact (performs_deleteWhere _ _ k).bind fun _ k _ => (performs_log _ k).bind fun _ _ _ =>
      performs_pure rfl
  | false => exact performs_pure rfl

theorem performs_relate (source verb target : String) (cascade : Cascade) (data : Option Json)
    (g : Graph) : Performs (relate source verb target cascade data) g
      fun _ done => done = [(relationshipCollection, .writing), (actionCollection, .writing)] :=
  Performs.after (idle_check _) fun _ _ _ => Performs.after (idle_check _) fun _ _ _ =>
    Performs.after (idle_check _) fun _ k _ => (performs_newId _ k).bind fun _ _ _ =>
      Performs.after idle_now fun _ k _ => (performs_putRecord _ _ k).bind fun _ k _ =>
        (performs_log _ k).bind fun _ _ _ => performs_pure rfl

theorem performs_unrelate (source verb target : String) (g : Graph) :
    Performs (unrelate source verb target) g
      fun _ done => done = [(relationshipCollection, .deleting), (actionCollection, .writing)] :=
  (performs_deleteWhere _ _ g).bind fun _ k _ => (performs_log _ k).bind fun _ _ _ =>
    performs_pure rfl

theorem performs_fuzzyRelate (source verb type text : String) (data : Option Json)
    (threshold : Option Binary64) (g : Graph) :
    Performs (fuzzyRelate source verb type text data threshold) g fun r done =>
      done = (if r.created then [(thingCollection, .writing), (actionCollection, .writing)] else []) ++
        [(relationshipCollection, .writing), (actionCollection, .writing)] := by
  refine Performs.after (idle_ask _ _ _) fun asked k _ => ?_
  obtain ⟨t, candidates⟩ := asked
  dsimp only
  cases Candidate.best t candidates with
  | some c => exact (performs_relate _ _ _ _ _ k).bind fun _ _ _ => performs_pure rfl
  | none =>
    exact (performs_createThing _ _ _ k).bind fun _ k _ =>
      (performs_relate _ _ _ _ _ k).bind fun _ _ _ => performs_pure rfl

theorem performs_findThings (type : Option String) (filter : Json) (options : QueryOptions)
    (g : Graph) : Performs (findThings type filter options) g
      fun _ done => done = [(thingCollection, .querying)] :=
  Performs.after (idle_parsed filter) fun _ k _ => performs_findRecords _ _ _ k

theorem performs_findActions (filter : Json) (options : QueryOptions) (g : Graph) :
    Performs (findActions filter options) g fun _ done => done = [(actionCollection, .querying)] :=
  Performs.after (idle_parsed filter) fun _ k _ => performs_findRecords _ _ _ k

theorem performs_countActions (filter : Json) (g : Graph) :
    Performs (countActions filter) g fun _ done => done = [(actionCollection, .querying)] :=
  Performs.after (idle_parsed filter) fun _ k _ => performs_countWhere _ _ k

/-- Each thing is read, be it there or not. -/
theorem performs_thingsAt (ids : List String) (g : Graph) :
    Performs (thingsAt ids) g
      fun _ done => done = List.replicate ids.length (thingCollection, .reading) := by
  induction ids generalizing g with
  | nil => exact performs_pure rfl
  | cons id rest ih =>
    refine (performs_getRecord _ id g).bind fun _ k _ => (ih k).bind fun _ _ _ => performs_pure ?_
    rw [List.append_nil]
    rfl

theorem length_relationsAt {member id verb : String} {edges : List Relationship}
    (hmember : member = "from" ∨ member = "to")
    (hx : relationsAt member id (some verb) g = (.ok edges, h)) :
    edges.length = g.edgeCount member id verb := by
  obtain ⟨t, hfind, rfl⟩ := onStore_eq hx
  have hv : (Relationship.withEnd member id (some verb)).validated = .ok () := by
    rcases hmember with rfl | rfl <;> rfl
  have hread := ((relationshipCollection.findRecords_yields g.store hv).of_ok hfind).1
  exact relationshipCollection.length_recordsOf hread

theorem performs_relationsAt (member id : String) (verb : Option String) (g : Graph) :
    Performs (relationsAt member id verb) g fun _ done => done = [(relationshipCollection, .querying)] :=
  performs_findRecords _ _ _ g

theorem performs_traverse (source verb : String) (g : Graph) :
    Performs (traverse source verb) g fun _ done => done = (relationshipCollection, .querying) ::
      List.replicate (g.edgeCount "from" source verb) (thingCollection, .reading) := by
  refine (performs_relationsAt _ _ _ g).bind fun edges k hedges => ?_
  refine (performs_thingsAt _ k).mono ?_
  rintro _ done rfl
  rw [List.length_map, length_relationsAt (.inl rfl) hedges]
  rfl

theorem performs_traverseBack (target verb : String) (g : Graph) :
    Performs (traverseBack target verb) g fun _ done => done = (relationshipCollection, .querying) ::
      List.replicate (g.edgeCount "to" target verb) (thingCollection, .reading) := by
  refine (performs_relationsAt _ _ _ g).bind fun edges k hedges => ?_
  refine (performs_thingsAt _ k).mono ?_
  rintro _ done rfl
  rw [List.length_map, length_relationsAt (.inr rfl) hedges]
  rfl

theorem idle_rememberNoun (n : Noun) : Idle (rememberNoun n) :=
  idle_of_same (fun _ => rfl) fun _ => rfl

theorem idle_rememberVerb (v : Verb) : Idle (rememberVerb v) :=
  idle_of_same (fun _ => rfl) fun _ => rfl

theorem performs_noun (name : String) (g : Graph) :
    Performs (noun name) g fun _ done => done = g.nounTasks name := by
  have hrecalled : Idle (recalledNoun name) := idle_of_same (fun _ => rfl) fun _ => rfl
  refine Performs.after hrecalled fun recalled k hx => ?_
  cases hx
  unfold nounTasks
  cases g.nounCache.find? name with
  | some n => exact performs_pure rfl
  | none =>
    refine (performs_getRecord nounCollection name g).bind fun found k _ => ?_
    cases found with
    | some n => exact Performs.after (idle_rememberNoun n) fun _ _ _ => performs_pure rfl
    | none => exact performs_pure rfl

theorem performs_verb (name : String) (g : Graph) :
    Performs (verb name) g fun _ done => done = g.verbTasks name := by
  have hrecalled : Idle (recalledVerb name) := idle_of_same (fun _ => rfl) fun _ => rfl
  refine Performs.after hrecalled fun recalled k hx => ?_
  cases hx
  unfold verbTasks
  cases g.verbCache.find? name with
  | some v => exact performs_pure rfl
  | none =>
    refine (performs_getRecord verbCollection name g).bind fun found k _ => ?_
    cases found with
    | some v => exact Performs.after (idle_rememberVerb v) fun _ _ _ => performs_pure rfl
    | none => exact performs_pure rfl

theorem performs_defineNoun (name : String) (d : NounDefinition) (g : Graph) :
    Performs (defineNoun name d) g
      fun _ done => done = g.nounTasks name ++ [(nounCollection, .writing)] := by
  have hwrite (n : Noun) (k : Graph) : Performs (do
      onStore (nounCollection.putRecord n)
      rememberNoun n
      return n) k fun _ done => done = [(nounCollection, .writing)] :=
    (performs_putRecord _ _ k).bind fun _ _ _ => Performs.after (idle_rememberNoun _) fun _ _ _ =>
      performs_pure rfl
  refine Performs.after (idle_check _) fun _ k hchecked => ?_
  obtain rfl : g = k := congrArg Prod.snd hchecked
  refine (performs_noun name g).bind fun old k _ => ?_
  cases old with
  | some n => exact (hwrite _ k).mono fun _ _ hdone => congrArg _ hdone
  | none =>
    exact Performs.after idle_now fun _ k _ => (hwrite _ k).mono fun _ _ hdone => congrArg _ hdone

theorem performs_defineVerb (name : String) (d : VerbDefinition) (g : Graph) :
    Performs (defineVerb name d) g fun _ done => done = [(verbCollection, .writing)] :=
  Performs.after (idle_check _) fun _ k _ => (performs_putRecord _ _ k).bind fun _ _ _ =>
    Performs.after (idle_rememberVerb _) fun _ _ _ => performs_pure rfl

theorem performs_stats (g : Graph) :
    Performs stats g fun _ done => done = [nounCollection, verbCollection, thingCollection,
      actionCollection, relationshipCollection].map fun c => (c, .querying) :=
  (performs_countWhere _ _ g).bind fun _ k _ => (performs_countWhere _ _ k).bind fun _ k _ =>
    (performs_countWhere _ _ k).bind fun _ k _ => (performs_countWhere _ _ k).bind fun _ k _ =>
      (performs_countWhere _ _ k).bind fun _ _ _ => performs_pure rfl

end Graph

namespace GraphCall

/-- What a call that ended well is made of, in order. -/
def tasks (g : Graph) : GraphCall → GraphReply → List Task
  | createThing _ _ _, _ => [(thingCollection, .writing), (actionCollection, .writing)]
  | updateThing _ _, .foundThing t => (thingCollection, .reading) ::
      if t.isSome then [(thingCollection, .writing), (actionCollection, .writing)] else []
  | deleteThing _, .flag there => (thingCollection, .deleting) ::
      if there then [(relationshipCollection, .deleting), (actionCollection, .writing)] else []
  | thing _, _ => [(thingCollection, .reading)]
  | findThings _ _ _, _ => [(thingCollection, .querying)]
  | countThings _, _ => [(thingCollection, .querying)]
  | things _, _ => [(thingCollection, .querying)]
  | log _, _ => [(actionCollection, .writing)]
  | action _, _ => [(actionCollection, .reading)]
  | findActions _ _, _ => [(actionCollection, .querying)]
  | actionsOf _, _ => [(actionCollection, .querying)]
  | countActions _, _ => [(actionCollection, .querying)]
  | relate _ _ _ _ _, _ => [(relationshipCollection, .writing), (actionCollection, .writing)]
  | unrelate _ _ _, _ => [(relationshipCollection, .deleting), (actionCollection, .writing)]
  | relationship _, _ => [(relationshipCollection, .reading)]
  | relationsFrom _ _, _ => [(relationshipCollection, .querying)]
  | relationsTo _ _, _ => [(relationshipCollection, .querying)]
  | countRelationships, _ => [(relationshipCollection, .querying)]
  | traverse source v, _ => (relationshipCollection, .querying) ::
      List.replicate (g.edgeCount "from" source v) (thingCollection, .reading)
  | traverseBack target v, _ => (relationshipCollection, .querying) ::
      List.replicate (g.edgeCount "to" target v) (thingCollection, .reading)
  | fuzzyRelate _ _ _ _ _ _, .fuzzy r =>
      (if r.created then [(thingCollection, .writing), (actionCollection, .writing)] else []) ++
        [(relationshipCollection, .writing), (actionCollection, .writing)]
  | defineNoun name _, _ => g.nounTasks name ++ [(nounCollection, .writing)]
  | noun name, _ => g.nounTasks name
  | hasNoun name, _ => g.nounTasks name
  | nouns, _ => [(nounCollection, .querying)]
  | defineVerb _ _, _ => [(verbCollection, .writing)]
  | verb name, _ => g.verbTasks name
  | hasVerb name, _ => g.verbTasks name
  | verbs, _ => [(verbCollection, .querying)]
  | stats, _ => [nounCollection, verbCollection, thingCollection, actionCollection,
      relationshipCollection].map fun c => (c, .querying)
  | elsewhere name _ call, _ => [(⟨name⟩, call.kind)]
  | _, _ => []

theorem run_performs (call : GraphCall) (g : Graph) :
    Performs call.run g fun reply done => done = call.tasks g reply := by
  cases call with
  | createThing type data id => exact (performs_createThing type data id g).map fun _ _ h => h
  | updateThing id changes => exact (performs_updateThing id changes g).map fun _ _ h => h
  | deleteThing id => exact (performs_deleteThing id g).map fun _ _ h => h
  | thing id => exact (performs_getRecord _ id g).map fun _ _ h => h
  | findThings type filter options =>
    exact (performs_findThings type filter options g).map fun _ _ h => h
  | countThings type => exact (performs_countWhere _ _ g).map fun _ _ h => h
  | things options => exact (performs_findRecords _ _ options g).map fun _ _ h => h
  | log entry => exact (performs_log entry g).map fun _ _ h => h
  | action id => exact (performs_getRecord _ id g).map fun _ _ h => h
  | findActions filter options => exact (performs_findActions filter options g).map fun _ _ h => h
  | actionsOf id => exact (performs_findRecords _ _ _ g).map fun _ _ h => h
  | countActions filter => exact (performs_countActions filter g).map fun _ _ h => h
  | relate source v target cascade data =>
    exact (performs_relate source v target cascade data g).map fun _ _ h => h
  | unrelate source v target => exact (performs_unrelate source v target g).map fun _ _ h => h
  | relationship id => exact (performs_getRecord _ id g).map fun _ _ h => h
  | relationsFrom source v => exact (performs_relationsAt _ source v g).map fun _ _ h => h
  | relationsTo target v => exact (performs_relationsAt _ target v g).map fun _ _ h => h
  | countRelationships => exact (performs_countWhere _ _ g).map fun _ _ h => h
  | traverse source v => exact (performs_traverse source v g).map fun _ _ h => h
  | traverseBack target v => exact (performs_traverseBack target v g).map fun _ _ h => h
  | fuzzyRelate source v type text data threshold =>
    exact (performs_fuzzyRelate source v type text data threshold g).map fun _ _ h => h
  | setMatcher matcher =>
    exact Performs.after (idle_of_same (fun _ => rfl) fun _ => rfl) fun _ _ _ => performs_pure rfl
  | defineNoun name d => exact (performs_defineNoun name d g).map fun _ _ h => h
  | noun name => exact (performs_noun name g).map fun _ _ h => h
  | hasNoun name => exact ((performs_noun name g).map fun _ _ h => h).map fun _ _ h => h
  | nouns => exact (performs_findRecords _ _ _ g).map fun _ _ h => h
  | defineVerb name d => exact (performs_defineVerb name d g).map fun _ _ h => h
  | verb name => exact (performs_verb name g).map fun _ _ h => h
  | hasVerb name => exact ((performs_verb name g).map fun _ _ h => h).map fun _ _ h => h
  | verbs => exact (performs_findRecords _ _ _ g).map fun _ _ h => h
  | stats => exact (performs_stats g).map fun _ _ h => h
  | elsewhere name outside call =>
    have hrun : call.run ⟨name⟩ = call.run ⟨name⟩ >>= fun a => pure (id a) := (bind_pure _).symm
    exact (performs_call hrun g).map fun _ _ h => h

end GraphCall

namespace AnyCall

/-- The calls on collections that a call is made of. A call on records is one, whether its result
decodes or not. -/
def MadeOf (g : Graph) : AnyCall → List CollectionStep → Prop
  | graph call, steps => Meets (fun reply tasks => tasks = call.tasks g reply) (call.run g).1 steps
  | collection name call, steps => steps = [.of g.store ⟨name⟩ call]
  | putRecord name r, steps =>
    steps = [.of g.store ⟨name⟩ (.put (Record.key r) (Record.document r))]
  | getRecord _ name id, steps => steps = [.of g.store ⟨name⟩ (.get id)]
  | findRecords _ name filter options, steps =>
    steps = [.of g.store ⟨name⟩ (.findDocuments filter options)]

theorem store_onStore {α : Type} (x : StoreM α) (g : Graph) :
    (onStore x g).2.store = (x g.store).2 := by
  unfold onStore
  rcases x g.store with ⟨r, t⟩
  rfl

theorem store_getRecord (ρ : Type) [Record ρ] (c : Collection) (id : String) (s : Store) :
    ((c.getRecord id : StoreM (Option ρ)) s).2 = (c.get id s).2 := by
  refine state_of_bind (fun found => ?_) s
  cases found with
  | none => exact still_pure none
  | some data => exact (still_check _).bind fun r => still_pure (some r)

/-- However a call on a graph, a collection or records ends, it takes the store along a course of the
calls that it is made of. -/
theorem run_course (call : AnyCall) (g : Graph) :
    ∃ steps, g.store.Course Store.Ticks steps (call.run g).2.store ∧ call.MadeOf g steps := by
  have hone {c : Collection} {one : CollectionCall} {t : Store} (ht : t = (one.run c g.store).2) :
      g.store.Course Store.Ticks [.of g.store c one] t :=
    .single (ht ▸ CollectionStep.happens_of g.store c one)
  cases call with
  | graph call =>
    obtain ⟨deeds, hdoes, hmeets⟩ := call.run_performs g (call.run g).1 (call.run g).2 rfl
    refine ⟨Deed.steps deeds, ?_, hmeets⟩
    rw [run, state_of_map]
    exact hdoes.course
  | collection name call =>
    refine ⟨_, hone ?_, rfl⟩
    rw [run, state_of_map, store_onStore]
  | putRecord name r =>
    refine ⟨_, hone ?_, rfl⟩
    rw [run, store_onStore, CollectionCall.run, state_of_map, Collection.putRecord]
  | getRecord ρ name id =>
    refine ⟨_, hone ?_, rfl⟩
    rw [run, state_of_map, store_onStore, store_getRecord, CollectionCall.run, state_of_map]
  | findRecords ρ name filter options =>
    refine ⟨_, hone ?_, rfl⟩
    rw [run, state_of_map, store_onStore, CollectionCall.run, state_of_map]
    exact state_of_bind (fun docs => still_check _) g.store

end AnyCall

/-- A call in a course, with the graph before it. -/
structure AnyStep where
  before : Graph
  call : AnyCall

def AnyStep.Happens (g : Graph) (step : AnyStep) (h : Graph) : Prop :=
  step.before = g ∧ (step.call.run g).2 = h

def Graph.SameMetrics (g h : Graph) : Prop := g.store.SameMetrics h.store

abbrev Graph.Course (g : Graph) (steps : List AnyStep) (h : Graph) : Prop :=
  Trail AnyStep.Happens Graph.SameMetrics g steps h

theorem Graph.Course.parts {g h : Graph} {steps : List AnyStep} (hcalls : g.Course steps h) :
    ∃ parts : List (List CollectionStep),
      List.Forall₂ (fun step part => step.call.MadeOf step.before part) steps parts ∧
      g.store.Course Store.SameMetrics parts.flatten h.store := by
  induction hcalls with
  | nil => exact ⟨[], .nil, .nil⟩
  | @event steps step k _ _ happens ih =>
    obtain ⟨parts, hparts, hcourse⟩ := ih
    obtain ⟨hbefore, rfl⟩ := happens
    obtain ⟨part, hpart, hmade⟩ := step.call.run_course k
    refine ⟨parts ++ [part], List.rel_append hparts (.cons (hbefore ▸ hmade) .nil), ?_⟩
    rw [List.flatten_append, List.flatten_singleton]
    refine hcourse.trans (hpart.mono fun hticks => ?_)
    rw [Store.SameMetrics, hticks]
  | amid _ move ih =>
    obtain ⟨parts, hparts, hcourse⟩ := ih
    exact ⟨parts, hparts, .amid hcourse move⟩

structure Metrics.AtMost (m n : Metrics) : Prop where
  reads : m.reads ≤ n.reads
  writes : m.writes ≤ n.writes
  deletes : m.deletes ≤ n.deletes
  queries : m.queries ≤ n.queries
  documentsRead : m.documentsRead ≤ n.documentsRead
  errors : m.errors ≤ n.errors

theorem Metrics.Counts.atMost {m n : Metrics} {steps : List CollectionStep}
    (h : m.Counts steps n) : m.AtMost n :=
  ⟨h.reads ▸ Nat.le_add_right _ _, h.writes ▸ Nat.le_add_right _ _,
    h.deletes ▸ Nat.le_add_right _ _, h.queries ▸ Nat.le_add_right _ _,
    h.documentsRead ▸ Nat.le_add_right _ _, h.errors ▸ Nat.le_add_right _ _⟩

namespace Store

variable {s t : Store} {config : Config} {db : Database} {clock : Clock}

theorem metrics_openOn (h : openOn config db clock = .ok s) : s.metrics = .zero := by
  obtain ⟨-, created, -, rfl⟩ := openOn_eq_ok.mp h
  rfl

theorem metrics_ofStore (s : Store) (tails : Nat → Nat) : (ofStore s tails).store.metrics = s.metrics :=
  rfl

/-- However many calls on a store there have been since it was opened, its counters tell how many of
each kind ended well and what they handed out. No counter ever decreases, and a call that fails adds
at most an error. Operations on records and on graphs count as the calls that they are made of. -/
theorem counters_account (hopen : openOn config db clock = .ok s) :
    (∀ steps t, s.Course SameMetrics steps t → Metrics.zero.Counts steps t.metrics) ∧
    (∀ steps t more u, s.Course SameMetrics steps t → t.Course SameMetrics more u →
      t.metrics.AtMost u.metrics) ∧
    (∀ (step : CollectionStep) before after, step.Happens before after → step.isFailed = true →
      after.metrics = before.metrics ∨ after.metrics = before.metrics.recordError) ∧
    ∀ tails steps g, (ofStore s tails).Course steps g → ∃ parts : List (List CollectionStep),
      List.Forall₂ (fun step part => step.call.MadeOf step.before part) steps parts ∧
      (ofStore s tails).store.Course SameMetrics parts.flatten g.store ∧
      Metrics.zero.Counts parts.flatten g.store.metrics := by
  have hzero := metrics_openOn hopen
  refine ⟨fun steps t hcourse => ?_, fun _ _ _ _ _ hmore => hmore.counts.atMost,
    fun step before after happens hfailed => ?_, fun tails steps g hcourse => ?_⟩
  · rw [← hzero]
    exact hcourse.counts
  · exact happens.metrics_of_failed hfailed
  · obtain ⟨parts, hparts, hcourse⟩ := hcourse.parts
    refine ⟨parts, hparts, hcourse, ?_⟩
    rw [← hzero, ← metrics_ofStore s tails]
    exact hcourse.counts

/-- A put, a put under an empty id and a look at what was put. -/
theorem counters_of_put :
    let s : Store := ⟨.initial, Database.empty.withEntries "documents" [], .zero, [], .still 0⟩
    let c : Collection := ⟨"notes"⟩
    let t := (CollectionCall.run c (.put "a" (.object [])) s).2
    let u := (CollectionCall.run c (.has "a") t).2
    let steps : List CollectionStep :=
      [⟨s, c, .put "a" (.object []), .ok .done⟩,
        ⟨t, c, .put "" (.object []), .error (.invalidId .emptyId)⟩, ⟨t, c, .has "a", .ok (.flag true)⟩]
    openOn .initial .empty (.still 0) = .ok s ∧ s.Course SameMetrics steps u ∧
      u.metrics.writes = 1 ∧ u.metrics.reads = 1 ∧ u.metrics.documentsRead = 1 := by
  intro s c t u steps
  have hname : TableName.refusal? "documents" = none := by decide +kernel
  have hopen : openOn .initial .empty (.still 0) = .ok s :=
    openOn_eq_ok.mpr ⟨by decide, _, Database.createTable_eq_ok.mpr ⟨rfl, hname, rfl⟩, rfl⟩
  have hput : CollectionStep.Happens s ⟨s, c, .put "a" (.object []), .ok .done⟩ t := ⟨rfl, rfl⟩
  have hrejected : CollectionStep.Happens t ⟨t, c, .put "" (.object []),
      .error (.invalidId .emptyId)⟩ t := ⟨rfl, rfl⟩
  have hstored := c.put_of_ok s (show c.put "a" (.object []) s = (.ok (), t) from rfl)
  have hthere : (t.entries.fetch c.name "a").isSome = true := by
    rw [hstored.2, ← Option.isSome_map, Entries.data_fetch_put]
    rfl
  have hfound : (CollectionCall.run c (.has "a") t).1 = .ok (.flag true) := by
    obtain ⟨v, hv, -, -⟩ := ((c.has_yields t "a").map Reply.flag).of_ready ⟨rfl, rfl⟩
    rw [hthere] at hv
    exact congrArg Prod.fst hv
  have hhas : CollectionStep.Happens t ⟨t, c, .has "a", .ok (.flag true)⟩ u :=
    ⟨rfl, Prod.ext hfound rfl⟩
  have hcourse : s.Course SameMetrics steps u := .event (.event (.event .nil hput) hrejected) hhas
  have hcounts := (counters_account hopen).1 steps u hcourse
  exact ⟨hopen, hcourse, hcounts.writes, hcounts.reads, hcounts.documentsRead⟩

end Store

end DocumentGraph
