import DocumentGraph.Proofs.Graph.Frame
import DocumentGraph.Proofs.Store.Calls
set_option autoImplicit false

/-!
# Calls on graphs

A call names an operation on a graph with its arguments, or an operation on a collection of the same
store that is none of the graph's own. However it ends, it leaves the collections as they are that it
does not write to. In a run every call ends well; the entries that a run is to log are those of its
calls, one after the other. In a trace calls end however they do, and each step keeps the graph that
it started from.
-/

namespace DocumentGraph

open DocumentGraph.Graph

inductive GraphCall where
  | createThing (type : String) (data : Json) (id : Option String)
  | updateThing (id : String) (changes : Json)
  | deleteThing (id : String)
  | thing (id : String)
  | findThings (type : Option String) (filter : Json) (options : QueryOptions)
  | countThings (type : Option String)
  | things (options : QueryOptions)
  | log (entry : ActionEntry)
  | action (id : String)
  | findActions (filter : Json) (options : QueryOptions)
  | actionsOf (id : String)
  | countActions (filter : Json)
  | relate (source verb target : String) (cascade : Cascade) (data : Option Json)
  | unrelate (source verb target : String)
  | relationship (id : String)
  | relationsFrom (source : String) (verb : Option String)
  | relationsTo (target : String) (verb : Option String)
  | countRelationships
  | traverse (source verb : String)
  | traverseBack (target verb : String)
  | fuzzyRelate (source verb type text : String) (data : Option Json) (threshold : Option Binary64)
  | setMatcher (matcher : Option Matcher)
  | defineNoun (name : String) (d : NounDefinition)
  | noun (name : String)
  | hasNoun (name : String)
  | nouns
  | defineVerb (name : String) (d : VerbDefinition)
  | verb (name : String)
  | hasVerb (name : String)
  | verbs
  | stats
  | elsewhere (name : String) (outside : name ∉ collectionNames) (call : CollectionCall)

inductive GraphReply where
  | done
  | thing (t : Thing)
  | foundThing (t : Option Thing)
  | things (ts : List Thing)
  | flag (b : Bool)
  | number (n : Nat)
  | action (a : Action)
  | foundAction (a : Option Action)
  | actions (as : List Action)
  | relationship (r : Relationship)
  | foundRelationship (r : Option Relationship)
  | relationships (rs : List Relationship)
  | fuzzy (r : FuzzyRelation)
  | noun (n : Noun)
  | foundNoun (n : Option Noun)
  | nouns (ns : List Noun)
  | verb (v : Verb)
  | foundVerb (v : Option Verb)
  | verbs (vs : List Verb)
  | stats (s : Stats)
  | outside (r : Reply)

def Graph.hasThing (g : Graph) (id : String) : Bool :=
  (g.store.entries.fetch thingCollection.name id).isSome

namespace GraphCall

def run : GraphCall → GraphM GraphReply
  | createThing type data id => do return .thing (← Graph.createThing type data id)
  | updateThing id changes => do return .foundThing (← Graph.updateThing id changes)
  | deleteThing id => do return .flag (← Graph.deleteThing id)
  | thing id => do return .foundThing (← Graph.thing id)
  | findThings type filter options => do return .things (← Graph.findThings type filter options)
  | countThings type => do return .number (← Graph.countThings type)
  | things options => do return .things (← Graph.things options)
  | log entry => do return .action (← Graph.log entry)
  | action id => do return .foundAction (← Graph.action id)
  | findActions filter options => do return .actions (← Graph.findActions filter options)
  | actionsOf id => do return .actions (← Graph.actionsOf id)
  | countActions filter => do return .number (← Graph.countActions filter)
  | relate source v target cascade data => do
    return .relationship (← Graph.relate source v target cascade data)
  | unrelate source v target => do return .flag (← Graph.unrelate source v target)
  | relationship id => do return .foundRelationship (← Graph.relationship id)
  | relationsFrom source v => do return .relationships (← Graph.relationsFrom source v)
  | relationsTo target v => do return .relationships (← Graph.relationsTo target v)
  | countRelationships => do return .number (← Graph.countRelationships)
  | traverse source v => do return .things (← Graph.traverse source v)
  | traverseBack target v => do return .things (← Graph.traverseBack target v)
  | fuzzyRelate source v type text data threshold => do
    return .fuzzy (← Graph.fuzzyRelate source v type text data threshold)
  | setMatcher matcher => do
    Graph.modify fun g => { g with matcher := matcher }
    return .done
  | defineNoun name d => do return .noun (← Graph.defineNoun name d)
  | noun name => do return .foundNoun (← Graph.noun name)
  | hasNoun name => do return .flag (← Graph.hasNoun name)
  | nouns => do return .nouns (← Graph.nouns)
  | defineVerb name d => do return .verb (← Graph.defineVerb name d)
  | verb name => do return .foundVerb (← Graph.verb name)
  | hasVerb name => do return .flag (← Graph.hasVerb name)
  | verbs => do return .verbs (← Graph.verbs)
  | stats => do return .stats (← Graph.stats)
  | elsewhere name _ call => do return .outside (← onStore (call.run ⟨name⟩))

/-- What a call that ended well is to log: nothing if it only reads, and nothing either if there was
nothing to update or to delete. -/
def logged (g : Graph) : GraphCall → GraphReply → List ActionEntry
  | createThing _ _ _, .thing t => [.about "created" t.id]
  | updateThing id changes, _ =>
    if g.hasThing id then [{ ActionEntry.about "updated" id with data := some changes }] else []
  | deleteThing id, .flag true => [.about "deleted" id]
  | log entry, _ => [entry]
  | relate source v target _ data, _ => [.relating source v target data]
  | unrelate source v target, _ => [.relating source ("un" ++ v) target none]
  | fuzzyRelate source v _ _ _ _, .fuzzy r =>
    (if r.created then [.about "created" r.thing.id] else []) ++
      [.relating source v r.thing.id none]
  | _, _ => []

def PayloadWellFormed : GraphCall → Prop
  | updateThing _ changes => changes.WellFormed
  | log entry => ∀ j, entry.data = some j → j.WellFormed
  | relate _ _ _ _ data => ∀ j, data = some j → j.WellFormed
  | _ => True

def isFuzzy : GraphCall → Bool
  | fuzzyRelate _ _ _ _ _ _ => true
  | _ => false

def isElsewhere : GraphCall → Bool
  | elsewhere _ _ _ => true
  | _ => false

/-- The collections that a call may write to. -/
def writes : GraphCall → List String
  | createThing _ _ _ => [thingCollection.name, actionCollection.name]
  | updateThing _ _ => [thingCollection.name, actionCollection.name]
  | deleteThing _ => [thingCollection.name, relationshipCollection.name, actionCollection.name]
  | log _ => [actionCollection.name]
  | relate _ _ _ _ _ => [relationshipCollection.name, actionCollection.name]
  | unrelate _ _ _ => [relationshipCollection.name, actionCollection.name]
  | fuzzyRelate _ _ _ _ _ _ =>
    [thingCollection.name, relationshipCollection.name, actionCollection.name]
  | defineNoun _ _ => [nounCollection.name]
  | defineVerb _ _ => [verbCollection.name]
  | elsewhere name _ _ => [name]
  | _ => []

theorem not_mem_writes_elsewhere {name own : String} {outside : name ∉ collectionNames}
    {call : CollectionCall} (hown : own ∈ collectionNames) :
    own ∉ (elsewhere name outside call).writes := by
  intro hmem
  obtain rfl := List.mem_singleton.mp hmem
  exact outside hown

def isAboutNouns : GraphCall → Bool
  | defineNoun _ _ | noun _ | hasNoun _ => true
  | _ => false

def isAboutVerbs : GraphCall → Bool
  | defineVerb _ _ | verb _ | hasVerb _ => true
  | _ => false

/-- A call that writes to no collection steps as its readings do, and as what it remembers. -/
theorem run_frames {R : Graph → Graph → Prop} (hR : Frames R) {call : GraphCall}
    (h : call.writes = [])
    (hnouns : call.isAboutNouns = true → ∀ n, Operation.Steps R (rememberNoun n))
    (hverbs : call.isAboutVerbs = true → ∀ v, Operation.Steps R (rememberVerb v)) :
    Operation.Steps R call.run := by
  cases call with
  | thing id => exact hR.map (hR.getRecord _ id) _
  | findThings type filter options => exact hR.map (hR.findThings type filter options) _
  | countThings type => exact hR.map (hR.countWhere _ _) _
  | things options => exact hR.map (hR.findRecords _ _ options) _
  | action id => exact hR.map (hR.getRecord _ id) _
  | findActions filter options => exact hR.map (hR.findActions filter options) _
  | actionsOf id => exact hR.map (hR.findRecords _ _ _) _
  | countActions filter => exact hR.map (hR.countActions filter) _
  | relationship id => exact hR.map (hR.getRecord _ id) _
  | relationsFrom source v => exact hR.map (hR.relationsAt _ source v) _
  | relationsTo target v => exact hR.map (hR.relationsAt _ target v) _
  | countRelationships => exact hR.map (hR.countWhere _ _) _
  | traverse source v => exact hR.map (hR.traverse source v) _
  | traverseBack target v => exact hR.map (hR.traverseBack target v) _
  | setMatcher matcher => exact hR.map (hR.setMatcher matcher) _
  | noun key => exact hR.map (hR.noun (hnouns rfl) key) _
  | hasNoun key => exact hR.map (hR.bind (hR.noun (hnouns rfl) key) fun _ => hR.pure _) _
  | nouns => exact hR.map (hR.findRecords _ _ _) _
  | verb key => exact hR.map (hR.verb (hverbs rfl) key) _
  | hasVerb key => exact hR.map (hR.bind (hR.verb (hverbs rfl) key) fun _ => hR.pure _) _
  | verbs => exact hR.map (hR.findRecords _ _ _) _
  | stats => exact hR.map hR.stats _
  | _ => cases h

theorem run_reads {call : GraphCall} (h : call.writes = []) : Reads call.run :=
  run_frames frames_reads h (fun _ => reads_rememberNoun) fun _ => reads_rememberVerb

theorem run_spares {name : String} {call : GraphCall} (h : name ∉ call.writes) :
    Spares name call.run := by
  have hR := frames_spares name
  have hne {other : String} (hmem : other ∈ call.writes) : other ≠ name := by
    rintro rfl
    exact h hmem
  cases call with
  | createThing type data id =>
    exact hR.map (spares_createThing (hne (by simp [writes])) (hne (by simp [writes])) type data id) _
  | updateThing id changes =>
    exact hR.map (spares_updateThing (hne (by simp [writes])) (hne (by simp [writes])) id changes) _
  | deleteThing id =>
    exact hR.map (spares_deleteThing (hne (by simp [writes])) (hne (by simp [writes]))
      (hne (by simp [writes])) id) _
  | log entry => exact hR.map (spares_log (hne (by simp [writes])) entry) _
  | relate source v target cascade data =>
    exact hR.map (spares_relate (hne (by simp [writes])) (hne (by simp [writes])) source v target
      cascade data) _
  | unrelate source v target =>
    exact hR.map (spares_unrelate (hne (by simp [writes])) (hne (by simp [writes])) source v target) _
  | fuzzyRelate source v type text data threshold =>
    exact hR.map (spares_fuzzyRelate (hne (by simp [writes])) (hne (by simp [writes]))
      (hne (by simp [writes])) source v type text data threshold) _
  | defineNoun key d => exact hR.map (spares_defineNoun (hne (by simp [writes])) key d) _
  | defineVerb key d => exact hR.map (spares_defineVerb (hne (by simp [writes])) key d) _
  | elsewhere other outside call =>
    exact hR.map (spares_onStore (call.run_spares (hne (by simp [writes])))) _
  | _ => exact (run_reads rfl).spares

theorem run_precedes {call : GraphCall} {g h : Graph} {outcome : Except StoreError GraphReply}
    (hx : call.run g = (outcome, h)) : g.Precedes h := by
  cases call with
  | elsewhere name outside call =>
    have hown : thingCollection.name ∈ collectionNames := by decide
    exact (run_spares (not_mem_writes_elsewhere hown) g _ h hx).1
  | _ =>
    -- The empty name is that of none of the collections.
    refine (@run_spares "" _ ?_ g _ h hx).1
    simp [writes, thingCollection, relationshipCollection, actionCollection, nounCollection,
      verbCollection]

end GraphCall

/-- Calls that all end well, one after the other, and the entries that they are to log. -/
inductive Graph.Runs : Graph → List GraphCall → List ActionEntry → Graph → Prop where
  | nil (g : Graph) : Runs g [] [] g
  | cons {g h k : Graph} {call : GraphCall} {reply : GraphReply} {calls : List GraphCall}
      {entries : List ActionEntry} (step : call.run g = (.ok reply, h))
      (rest : Runs h calls entries k) :
      Runs g (call :: calls) (call.logged g reply ++ entries) k

/-- A call in a run, with the graph before it and its outcome. -/
structure GraphStep where
  before : Graph
  call : GraphCall
  outcome : Except StoreError GraphReply

namespace GraphStep

def Untroubled (s : GraphStep) : Prop := ∀ d, s.outcome ≠ .error (.storage d)

end GraphStep

/-- Calls one after the other, each with its outcome. -/
inductive Graph.Trace (start : Graph) : List GraphStep → Graph → Prop where
  | nil : Trace start [] start
  | snoc {g h : Graph} {steps : List GraphStep} {call : GraphCall}
      {outcome : Except StoreError GraphReply} (init : Trace start steps g)
      (step : call.run g = (outcome, h)) : Trace start (steps ++ [⟨g, call, outcome⟩]) h

theorem Graph.Trace.run_of_mem {start g : Graph} {steps : List GraphStep}
    (htrace : start.Trace steps g) :
    ∀ s ∈ steps, ∃ h, s.call.run s.before = (s.outcome, h) := by
  induction htrace with
  | nil => exact List.forall_mem_nil _
  | snoc init step ih => exact List.forall_mem_append.mpr ⟨ih, List.forall_mem_singleton.mpr ⟨_, step⟩⟩

end DocumentGraph
