import DocumentGraph.Proofs.Graph.Registry
import DocumentGraph.Proofs.Graph.Searching
import DocumentGraph.Proofs.Graph.Statements
import DocumentGraph.Proofs.Store.Closed
import DocumentGraph.Proofs.Store.Opening
set_option autoImplicit false

/-!
# Closed graphs

Once its engine is closed a graph stays as it is, whatever is asked of it. Only a noun or verb that it
remembers is still looked up; everything else fails with the error of what it checks before its first
statement, or else because the engine is closed. What is in the file is what was there when it was
closed.
-/

namespace DocumentGraph

open Operation DocumentGraph.Graph

namespace Graph

/-- Engine, configuration, matcher and what is remembered are the same. -/
structure Frozen (g h : Graph) : Prop where
  store : g.store.Frozen h.store
  nouns : h.nounCache = g.nounCache
  verbs : h.verbCache = g.verbCache
  matcher : h.matcher = g.matcher

theorem Frozen.refl (g : Graph) : g.Frozen g := ⟨.refl _, rfl, rfl, rfl⟩

theorem Frozen.trans {g h k : Graph} (hgh : g.Frozen h) (hhk : h.Frozen k) : g.Frozen k :=
  ⟨hgh.store.trans hhk.store, hhk.nouns.trans hgh.nouns, hhk.verbs.trans hgh.verbs,
    hhk.matcher.trans hgh.matcher⟩

def Closed (g : Graph) : Prop := g.store.database.isOpen = false

variable {α : Type} {g h : Graph} {x : Except StoreError Unit}

theorem Closed.of_frozen (hg : g.Closed) (hgh : g.Frozen h) : h.Closed := by
  rw [Closed, hgh.store.database]
  exact hg

theorem blocked_onStore {m : StoreM α} (hm : Blocked Store.Frozen x m g.store) :
    Blocked Frozen x (onStore m) g := by
  obtain ⟨t, hx, ht⟩ := hm
  exact ⟨_, onStore_apply hx, ht, rfl, rfl, rfl⟩

variable (hg : g.Closed)

include hg

theorem blocked_newId {name : String} {f : String → GraphM α}
    (hf : ∀ id, id ≠ "" → ∀ k : Graph, k.Closed → Blocked Frozen x (f id) k) :
    Blocked Frozen x (newId name >>= f) g := by
  have hfrozen : g.Frozen (newId name g).2 := ⟨⟨rfl, rfl⟩, rfl, rfl, rfl⟩
  exact .after .trans rfl hfrozen (hf _ (Identifier.make_ne_empty _ _) _ (hg.of_frozen hfrozen))

theorem blocked_now {f : Int64 → GraphM α}
    (hf : ∀ time (k : Graph), k.Closed → Blocked Frozen x (f time) k) :
    Blocked Frozen x (now >>= f) g := by
  have hfrozen : g.Frozen (now g).2 := ⟨⟨rfl, rfl⟩, rfl, rfl, rfl⟩
  exact .after .trans rfl hfrozen (hf _ _ (hg.of_frozen hfrozen))

theorem blocked_putRecord [Record α] (c : Collection) {r : α} (hr : Record.key r ≠ "") :
    Blocked Frozen (.ok ()) (onStore (c.putRecord r)) g :=
  blocked_onStore (c.blocked_putRecord hg hr)

theorem blocked_getRecord [Record α] (c : Collection) (id : String) :
    Blocked Frozen (.ok ()) (onStore (c.getRecord id : StoreM (Option α))) g :=
  blocked_onStore (c.blocked_getRecord hg id)

theorem blocked_findRecords [Record α] (c : Collection) (filter : Filter) (options : QueryOptions) :
    Blocked Frozen (Collection.searchable filter options)
      (onStore (c.findRecords filter options : StoreM (List α))) g :=
  blocked_onStore (c.blocked_findRecords hg filter options)

theorem blocked_countWhere (c : Collection) (filter : Filter) :
    Blocked Frozen filter.validated (onStore (c.countWhere filter)) g :=
  blocked_onStore (c.blocked_countWhere hg filter)

theorem blocked_log (entry : ActionEntry) : Blocked Frozen (.ok ()) (log entry) g :=
  blocked_newId hg fun _ hid _ hk => blocked_now hk fun _ _ hl =>
    (blocked_putRecord hl actionCollection hid).bind

omit hg

def validType (type : String) : Except StoreError Unit :=
  if type.isEmpty then .error (.invalidId .emptyType) else .ok ()

def creatable (type : String) (data : Json) (id : Option String) : Except StoreError Unit := do
  validDocument data
  validType type
  id.elim (.ok ()) validId

def relatable (source verb target : String) : Except StoreError Unit := do
  validId source
  validId verb
  validId target

def answered (g : Graph) (q : Question) : Except StoreError (Binary64 × List Candidate) :=
  match g.matcher with
  | none => .error (.configuration .noMatcher)
  | some m =>
    match m q with
    | .ok candidates => .ok (q.threshold, candidates)
    | .error message => .error (.matcher message)

/-- What is checked before the statements of relating by similarity: the other end is the best candidate
if there is one, and otherwise a thing is created first. -/
def similar (source verb type text : String) (data : Option Json) :
    Option Candidate → Except StoreError Unit
  | some c => relatable source verb c.thing.id
  | none => creatable type (dataOf text data) none

theorem rejects_creatable (type : String) (data : Json) (id : Option String) :
    Rejects (creatable type data id) := by
  refine (rejects_validDocument data).bind fun _ => .bind ?_ fun _ => ?_
  · unfold validType
    split
    · exact .error rfl
    · exact .ok ()
  · cases id with
    | some id => exact rejects_validId id
    | none => exact .ok ()

theorem rejects_relatable (source verb target : String) : Rejects (relatable source verb target) :=
  (rejects_validId source).bind fun _ => (rejects_validId verb).bind fun _ => rejects_validId target

theorem rejects_answered (g : Graph) (q : Question) : Rejects (g.answered q) := by
  unfold answered
  cases g.matcher with
  | none => exact .error rfl
  | some m =>
    dsimp only
    cases m q with
    | ok candidates => exact .ok _
    | error message => exact .error rfl

theorem rejects_similar (source verb type text : String) (data : Option Json)
    (best : Option Candidate) : Rejects (similar source verb type text data best) := by
  cases best with
  | some c => exact rejects_relatable source verb c.thing.id
  | none => exact rejects_creatable type _ none

end Graph

namespace GraphCall

def checked (g : Graph) : GraphCall → Except StoreError Unit
  | createThing type data id => creatable type data id
  | updateThing _ changes => validDocument changes
  | findThings type filter options => do
    let data ← Filter.ofJson g.store.config.strictFilters filter
    Collection.searchable (searching type data) options
  | things options => Collection.searchable .all options
  | findActions filter options => do
    Collection.searchable (← Filter.ofJson g.store.config.strictFilters filter) options
  | countActions filter => do (← Filter.ofJson g.store.config.strictFilters filter).validated
  | relate source v target _ _ => relatable source v target
  | fuzzyRelate source v type text data threshold => do
    let found ← g.answered (g.question type text threshold)
    similar source v type text data (Candidate.best found.1 found.2)
  | defineNoun name _ => validId name
  | defineVerb name _ => validId name
  | elsewhere _ _ call => call.checked g.store.config.strictFilters
  | _ => .ok ()

theorem rejects_checked (g : Graph) (call : GraphCall) : Rejects (call.checked g) := by
  have hparsed := Filter.rejects_ofJson g.store.config.strictFilters
  cases call with
  | createThing type data id => exact rejects_creatable type data id
  | updateThing id changes => exact rejects_validDocument changes
  | findThings type filter options =>
    exact (hparsed filter).bind fun _ => Collection.rejects_searchable _ options
  | things options => exact Collection.rejects_searchable .all options
  | findActions filter options =>
    exact (hparsed filter).bind fun _ => Collection.rejects_searchable _ options
  | countActions filter => exact (hparsed filter).bind Filter.rejects_validated
  | relate source v target cascade data => exact rejects_relatable source v target
  | fuzzyRelate source v type text data threshold =>
    exact (rejects_answered g _).bind fun _ => rejects_similar source v type text data _
  | defineNoun name d => exact rejects_validId name
  | defineVerb name d => exact rejects_validId name
  | elsewhere name outside call => exact call.rejects_checked _
  | _ => exact .ok ()

/-- The reply to a call that looks up a noun or verb that is remembered. -/
def recalled? (g : Graph) : GraphCall → Option GraphReply
  | noun name => (g.nounCache.find? name).map fun n => .foundNoun (some n)
  | hasNoun name => (g.nounCache.find? name).map fun _ => .flag true
  | verb name => (g.verbCache.find? name).map fun v => .foundVerb (some v)
  | hasVerb name => (g.verbCache.find? name).map fun _ => .flag true
  | _ => none

end GraphCall

namespace Graph

theorem ask_eq (type text : String) (threshold : Option Binary64) (g : Graph) :
    ∃ h, g.Frozen h ∧
      ask type text threshold g = (g.answered (g.question type text threshold), h) := by
  cases g with
  | mk store ids nouns verbs matcher asked =>
    cases matcher with
    | none => exact ⟨_, .refl _, rfl⟩
    | some m =>
      let q : Question := ⟨type, text, threshold.getD store.config.effectiveThreshold⟩
      refine ⟨⟨store, ids, nouns, verbs, some m, asked ++ [q]⟩, ⟨.refl _, rfl, rfl, rfl⟩, ?_⟩
      unfold ask answered question
      dsimp only
      cases m ⟨type, text, threshold.getD store.config.effectiveThreshold⟩ <;> rfl

variable {α : Type} {g : Graph} (hg : g.Closed)

include hg

theorem blocked_createThing (type : String) (data : Json) (id : Option String) :
    Blocked Frozen (creatable type data id) (createThing type data id) g := by
  have hwrite {id : String} (hid : id ≠ "") {k : Graph} (hk : k.Closed) :
      Blocked Frozen (.ok ()) (do
        let t := Thing.first id type (membersOf data) (← now)
        onStore (thingCollection.putRecord t)
        let _ ← log (.about "created" t.id)
        return t) k :=
    blocked_now hk fun _ _ hl => (blocked_putRecord hl thingCollection hid).bind
  refine .check .refl rfl fun _ _ => .check .refl rfl fun _ _ => ?_
  cases id with
  | some id => exact .checked .refl rfl fun hid => hwrite (validId_eq_ok.mp hid) hg
  | none => exact blocked_newId hg fun _ hid _ hk => hwrite hid hk

theorem blocked_updateThing (id : String) (changes : Json) :
    Blocked Frozen (validDocument changes) (updateThing id changes) g :=
  .checked .refl rfl fun _ => (blocked_getRecord hg thingCollection id).bind

theorem blocked_deleteThing (id : String) : Blocked Frozen (.ok ()) (deleteThing id) g :=
  (blocked_onStore (thingCollection.blocked_delete hg id)).bind

theorem blocked_relate (source verb target : String) (cascade : Cascade) (data : Option Json) :
    Blocked Frozen (relatable source verb target) (relate source verb target cascade data) g := by
  refine .check .refl rfl fun _ _ => .check .refl rfl fun _ _ => .checked .refl rfl fun _ => ?_
  exact blocked_newId hg fun _ hid _ hk => blocked_now hk fun _ _ hl =>
    (blocked_putRecord hl relationshipCollection hid).bind

theorem blocked_unrelate (source verb target : String) :
    Blocked Frozen (.ok ()) (unrelate source verb target) g :=
  (blocked_onStore (relationshipCollection.blocked_deleteWhere hg _)).bind

theorem blocked_relateBest (source verb type text : String) (data : Option Json)
    (best : Option Candidate) :
    Blocked Frozen (similar source verb type text data best)
      (relateBest source verb type text data best) g := by
  cases best with
  | some c => exact (blocked_relate hg source verb c.thing.id .fuzzy none).bind
  | none => exact (blocked_createThing hg type (dataOf text data) none).bind

theorem blocked_fuzzyRelate (source verb type text : String) (data : Option Json)
    (threshold : Option Binary64) :
    Blocked Frozen ((GraphCall.fuzzyRelate source verb type text data threshold).checked g)
      (fuzzyRelate source verb type text data threshold) g := by
  obtain ⟨k, hk, hask⟩ := ask_eq type text threshold g
  rw [fuzzyRelate_eq]
  exact .before .trans hask hk fun found _ =>
    blocked_relateBest (hg.of_frozen hk) source verb type text data _

theorem blocked_findThings (type : Option String) (filter : Json) (options : QueryOptions) :
    Blocked Frozen ((GraphCall.findThings type filter options).checked g)
      (findThings type filter options) g := by
  refine .check .refl rfl fun data _ => ?_
  cases type <;> exact blocked_findRecords hg thingCollection _ options

theorem blocked_findValid [Record α] (c : Collection) {filter : Filter}
    (hfilter : filter.validated = .ok ()) :
    Blocked Frozen (.ok ()) (onStore (c.findRecords filter .unrestricted : StoreM (List α))) g := by
  have hsearch : Collection.searchable filter .unrestricted = .ok () := by
    rw [Collection.searchable, hfilter]
    rfl
  rw [← hsearch]
  exact blocked_findRecords hg c filter .unrestricted

theorem blocked_relationsAt {member id : String} {verb : Option String}
    (hfilter : (Relationship.withEnd member id verb).validated = .ok ()) :
    Blocked Frozen (.ok ()) (relationsAt member id verb) g :=
  blocked_findValid hg relationshipCollection hfilter

theorem blocked_stats : Blocked Frozen (.ok ()) stats g :=
  (blocked_countWhere hg nounCollection .all).bind

theorem blocked_get [Record α] [Kept α] (R : Registry α) {name : String}
    (hname : (R.cache g).find? name = none) : Blocked Frozen (.ok ()) (R.get name) g := by
  obtain ⟨t, hx, ht⟩ := (blocked_getRecord (α := α) hg (Kept.collection α) name).bind
  exact ⟨t, (R.get_unknown hname).trans hx, ht⟩

theorem blocked_defineNoun (name : String) (d : NounDefinition) :
    Blocked Frozen (validId name) (defineNoun name d) g := by
  refine .checked .refl rfl fun hid => ?_
  cases hname : g.nounCache.find? name with
  | none => exact (blocked_get hg nounRegistry hname).bind
  | some n =>
    refine .after .trans (nounRegistry.get_recalled hname) (.refl g) ?_
    exact (blocked_putRecord hg nounCollection (validId_eq_ok.mp hid)).bind

theorem blocked_defineVerb (name : String) (d : VerbDefinition) :
    Blocked Frozen (validId name) (defineVerb name d) g :=
  .checked .refl rfl fun hid => (blocked_putRecord hg verbCollection (validId_eq_ok.mp hid)).bind

end Graph

namespace GraphCall

variable {g : Graph} {call : GraphCall}

/-- The call is an operation on the graph. Another matcher is given to a graph as it is built. -/
def operates : GraphCall → Bool
  | setMatcher _ => false
  | _ => true

theorem run_recalled {reply : GraphReply} (h : call.recalled? g = some reply) :
    call.run g = (.ok reply, g) := by
  cases call with
  | noun name =>
    obtain ⟨n, hn, rfl⟩ := Option.map_eq_some_iff.mp h
    exact bind_of_ok (nounRegistry.get_recalled hn)
  | hasNoun name =>
    obtain ⟨n, hn, rfl⟩ := Option.map_eq_some_iff.mp h
    exact bind_of_ok (bind_of_ok (nounRegistry.get_recalled hn))
  | verb name =>
    obtain ⟨v, hv, rfl⟩ := Option.map_eq_some_iff.mp h
    exact bind_of_ok (verbRegistry.get_recalled hv)
  | hasVerb name =>
    obtain ⟨v, hv, rfl⟩ := Option.map_eq_some_iff.mp h
    exact bind_of_ok (bind_of_ok (verbRegistry.get_recalled hv))
  | _ => cases h

theorem run_blocked (hg : g.Closed) (hcall : call.operates = true) (h : call.recalled? g = none) :
    Blocked Graph.Frozen (call.checked g) call.run g := by
  cases call with
  | createThing type data id => exact (blocked_createThing hg type data id).bind
  | updateThing id changes => exact (blocked_updateThing hg id changes).bind
  | deleteThing id => exact (blocked_deleteThing hg id).bind
  | thing id => exact (blocked_getRecord hg thingCollection id).bind
  | findThings type filter options => exact (blocked_findThings hg type filter options).bind
  | countThings type =>
    have htype : (ofType type).validated = .ok () := by cases type <;> rfl
    have hcount := blocked_countWhere hg thingCollection (ofType type)
    rw [htype] at hcount
    exact hcount.bind
  | things options => exact (blocked_findRecords hg thingCollection .all options).bind
  | log entry => exact (blocked_log hg entry).bind
  | action id => exact (blocked_getRecord hg actionCollection id).bind
  | findActions filter options =>
    have hfind : Blocked Graph.Frozen (checked g (.findActions filter options))
        (Graph.findActions filter options) g :=
      .check .refl rfl fun f _ => blocked_findRecords hg actionCollection f options
    exact hfind.bind
  | actionsOf id => exact (blocked_findValid hg actionCollection rfl).bind
  | countActions filter =>
    have hcount : Blocked Graph.Frozen (checked g (.countActions filter))
        (Graph.countActions filter) g :=
      .check .refl rfl fun f _ => blocked_countWhere hg actionCollection f
    exact hcount.bind
  | relate source v target cascade data =>
    exact (blocked_relate hg source v target cascade data).bind
  | unrelate source v target => exact (blocked_unrelate hg source v target).bind
  | relationship id => exact (blocked_getRecord hg relationshipCollection id).bind
  | relationsFrom source v => exact (blocked_relationsAt hg (by cases v <;> rfl)).bind
  | relationsTo target v => exact (blocked_relationsAt hg (by cases v <;> rfl)).bind
  | countRelationships => exact (blocked_countWhere hg relationshipCollection .all).bind
  | traverse source v => exact (blocked_relationsAt hg rfl).bind.bind
  | traverseBack target v => exact (blocked_relationsAt hg rfl).bind.bind
  | fuzzyRelate source v type text data threshold =>
    exact (blocked_fuzzyRelate hg source v type text data threshold).bind
  | setMatcher matcher => cases hcall
  | defineNoun name d => exact (blocked_defineNoun hg name d).bind
  | noun name => exact (blocked_get hg nounRegistry (Option.map_eq_none_iff.mp h)).bind
  | hasNoun name => exact (blocked_get hg nounRegistry (Option.map_eq_none_iff.mp h)).bind.bind
  | nouns => exact (blocked_findValid hg nounCollection rfl).bind
  | defineVerb name d => exact (blocked_defineVerb hg name d).bind
  | verb name => exact (blocked_get hg verbRegistry (Option.map_eq_none_iff.mp h)).bind
  | hasVerb name => exact (blocked_get hg verbRegistry (Option.map_eq_none_iff.mp h)).bind.bind
  | verbs => exact (blocked_findValid hg verbCollection rfl).bind
  | stats => exact (blocked_stats hg).bind
  | elsewhere name outside call => exact (blocked_onStore (call.run_blocked ⟨name⟩ hg)).bind

end GraphCall

/-- What is asked of a graph, of any collection of its store or of the store. -/
inductive GraphRequest where
  | call (call : GraphCall) (operates : call.operates = true)
  | collection (name : String) (call : CollectionCall)
  | collections

namespace GraphRequest

def run : GraphRequest → GraphM GraphReply
  | call c _ => c.run
  | collection name c => do return .outside (← onStore (c.run ⟨name⟩))
  | collections => do return .outside (.names (← onStore Store.collections))

/-- Requests one after the other: the outcomes, and the graph that is left. -/
def runAll : List GraphRequest → Graph → List (Except StoreError GraphReply) × Graph
  | [], g => ([], g)
  | q :: rest, g =>
    let (r, h) := q.run g
    let (rs, k) := runAll rest h
    (r :: rs, k)

def checked (g : Graph) : GraphRequest → Except StoreError Unit
  | call c _ => c.checked g
  | collection _ c => c.checked g.store.config.strictFilters
  | collections => .ok ()

theorem rejects_checked (g : Graph) (q : GraphRequest) : Rejects (q.checked g) := by
  cases q with
  | call c operates => exact c.rejects_checked g
  | collection name c => exact c.rejects_checked _
  | collections => exact .ok ()

def recalled? (g : Graph) : GraphRequest → Option GraphReply
  | call c _ => c.recalled? g
  | _ => none

def outcome (g : Graph) (q : GraphRequest) : Except StoreError GraphReply :=
  match q.recalled? g with
  | some reply => .ok reply
  | none => .error (.orClosed (q.checked g))

variable {g h : Graph}

/-- The outcome depends on nothing that changes while the graph is closed. -/
theorem outcome_congr (hconfig : h.store.config = g.store.config) (hnouns : h.nounCache = g.nounCache)
    (hverbs : h.verbCache = g.verbCache) (hmatcher : h.matcher = g.matcher) (q : GraphRequest) :
    q.outcome h = q.outcome g := by
  have hrecalled : q.recalled? h = q.recalled? g := by
    cases q with
    | call c operates => cases c <;> simp only [recalled?, GraphCall.recalled?, hnouns, hverbs]
    | _ => rfl
  have hchecked : q.checked h = q.checked g := by
    cases q with
    | call c operates =>
      cases c <;> simp only [checked, GraphCall.checked, question, answered, hconfig, hmatcher]
    | collection name c => rw [checked, checked, hconfig]
    | collections => rfl
  rw [outcome, outcome, hrecalled, hchecked]

theorem run_closed (hg : g.Closed) (q : GraphRequest) :
    ∃ h, q.run g = (q.outcome g, h) ∧ g.Frozen h := by
  cases hrecalled : q.recalled? g with
  | some reply =>
    rw [outcome, hrecalled]
    cases q with
    | call c operates => exact ⟨g, GraphCall.run_recalled hrecalled, .refl g⟩
    | _ => cases hrecalled
  | none =>
    rw [outcome, hrecalled]
    cases q with
    | call c operates => exact GraphCall.run_blocked hg operates hrecalled
    | collection name c => exact (blocked_onStore (c.run_blocked ⟨name⟩ hg)).bind
    | collections => exact (blocked_onStore (Store.blocked_collections hg)).bind

theorem runAll_closed (hg : g.Closed) (requests : List GraphRequest) :
    ∃ h, runAll requests g = (requests.map (outcome g), h) ∧ g.Frozen h := by
  induction requests generalizing g with
  | nil => exact ⟨g, rfl, .refl g⟩
  | cons q rest ih =>
    obtain ⟨h, hrun, hh⟩ := q.run_closed hg
    obtain ⟨k, hrest, hk⟩ := ih (hg.of_frozen hh)
    refine ⟨k, ?_, hh.trans hk⟩
    have houtcomes : rest.map (outcome h) = rest.map (outcome g) :=
      List.map_congr_left fun q _ => q.outcome_congr hh.store.config hh.nouns hh.verbs hh.matcher
    rw [runAll, hrun]
    dsimp only
    rw [hrest, houtcomes, List.map_cons]

/-- Once a graph is closed, whatever is asked of it and in whichever order, a noun or verb that is
remembered is looked up and everything else fails, with the error of what it checks first or as the
engine is closed. Tables and memory stay as they are. The engine opens no store any more, and a store
that is opened on the file has all entries in order and with their times, and remembers nothing. -/
theorem frozen_of_close (g : Graph) (requests : List GraphRequest) :
    ∃ h, runAll requests { g with store := g.store.close } = (requests.map (outcome g), h) ∧
      h.store.database = g.store.database.close ∧ h.nounCache = g.nounCache ∧
      h.verbCache = g.verbCache ∧ (∀ q ∈ requests, Rejects (q.checked g)) ∧
      (∀ config clock, Store.openOn config h.store.database clock =
        .error (if TableName.isWord config.tableName then .storage .closed
          else .configuration (.tableName config.tableName))) ∧
      ∀ config before clock fresh s, Store.openOn config fresh before = .ok s →
        ∃ t, Store.openOn config h.store.database.reopened clock = .ok t ∧ t.metrics = .zero ∧
          ∀ tails, (ofStore t tails).nounCache = [] ∧ (ofStore t tails).verbCache = [] ∧
            ∀ table, (ofStore t tails).store.database.entries table =
              g.store.database.entries table := by
  let closed : Graph := { g with store := g.store.close }
  have hclosed : closed.Closed := rfl
  obtain ⟨h, hrun, hh⟩ := runAll_closed hclosed requests
  have hdatabase : h.store.database = g.store.database.close := hh.store.database
  have houtcomes : requests.map (outcome closed) = requests.map (outcome g) :=
    List.map_congr_left fun q _ => q.outcome_congr (g := g) (h := closed) rfl rfl rfl rfl
  refine ⟨h, hrun.trans (by rw [houtcomes]), hdatabase, hh.nouns, hh.verbs,
    fun q _ => q.rejects_checked g, fun config clock => ?_, fun config before clock fresh s hs => ?_⟩
  · rw [hdatabase]
    exact Store.openOn_closed rfl config clock
  · obtain ⟨t, hopen, hmetrics, hentries⟩ := Store.openOn_reopened hs h.store.database clock
    refine ⟨t, hopen, hmetrics, fun tails => ⟨rfl, rfl, fun table => ?_⟩⟩
    rw [hdatabase] at hentries
    exact hentries table

/-- A noun is defined and the engine is closed: the noun is still looked up, another one is not, a
document without an id is rejected and the names of the collections are not read. -/
theorem frozen_of_close_defined :
    let start : Graph := ofStore ⟨.initial, .empty, .zero, [], .still 0⟩ fun _ => 0
    let g : Graph := (defineNoun "Note" ⟨none, none⟩ start).2
    ∃ h, runAll [.call (.noun "Note") rfl, .call (.noun "Memo") rfl,
        .collection "notes" (.put "" .null), .collections] { g with store := g.store.close } =
      ([.ok (.foundNoun (some ⟨"Note", none, none, 0⟩)), .error (.storage .closed),
        .error (.invalidId .emptyId), .error (.storage .closed)], h) ∧
      h.nounCache.length = 1 ∧
      ∃ t, Store.openOn .initial h.store.database.reopened (.still 1) = .ok t ∧
        t.metrics = .zero ∧ t.entries = g.store.entries := by
  intro start g
  obtain ⟨h, hrun, -, hnouns, -, -, -, hreopen⟩ := frozen_of_close g [.call (.noun "Note") rfl,
    .call (.noun "Memo") rfl, .collection "notes" (.put "" .null), .collections]
  have hcreate : Database.empty.createTable Config.initial.tableName = .ok _ :=
    Database.createTable_eq_ok.mpr ⟨rfl, by decide +kernel, rfl⟩
  have hfresh : Store.openOn .initial .empty (.still 0) = .ok _ :=
    Store.openOn_eq_ok.mpr ⟨by decide, _, hcreate, rfl⟩
  obtain ⟨t, hopen, hmetrics, hshows⟩ := hreopen .initial _ (.still 1) _ _ hfresh
  refine ⟨h, hrun.trans rfl, congrArg List.length hnouns, t, hopen, hmetrics, ?_⟩
  obtain ⟨-, created, -, rfl⟩ := Store.openOn_eq_ok.mp hopen
  obtain ⟨-, -, hentries⟩ := hshows fun _ => 0
  exact hentries "documents"

end GraphRequest

end DocumentGraph
