import DocumentGraph.Graph.Registry
import DocumentGraph.Graph.Similarity
import DocumentGraph.Proofs.Identifier.Suffix
import DocumentGraph.Proofs.Store.Frame
set_option autoImplicit false

/-!
# What graph operations leave alone

However an operation on a graph ends, the engine, the clock and the generator of ids are no earlier
than before. An operation reads if it also leaves all entries as they are, and it spares a
collection if it leaves the entries of that one as they are. Operations on things, actions and edges
read or write; each that writes spares all collections but its own. A new id differs from all that
were made before.
-/

namespace DocumentGraph

namespace Graph

open Identifier Operation

/-- Every reading of the clock fits into the digits of an id, and so does the generator. -/
def Timely (g : Graph) : Prop :=
  (∀ n, (g.store.clock.reading n).toInt.toNat < 36 ^ timeWidth) ∧ g.ids.generator.InRange

structure Precedes (g h : Graph) : Prop where
  keeps : g.store.Keeps h.store
  later : g.ids.generator.AtMost h.ids.generator
  timely : g.Timely → h.Timely

theorem Precedes.refl (g : Graph) : g.Precedes g := ⟨.refl _, .refl _, id⟩

theorem Precedes.trans {g h k : Graph} (hgh : g.Precedes h) (hhk : h.Precedes k) : g.Precedes k :=
  ⟨hgh.keeps.trans hhk.keeps, hgh.later.trans hhk.later, fun ht => hhk.timely (hgh.timely ht)⟩

theorem Precedes.of_keeps {g h : Graph} (hk : g.store.Keeps h.store) (hids : h.ids = g.ids) :
    g.Precedes h := by
  refine ⟨hk, by rw [hids]; exact .refl _, fun ht => ⟨fun n => ?_, by rw [hids]; exact ht.2⟩⟩
  rw [hk.reading]
  exact ht.1 n

def entries (g : Graph) : Entries := g.store.entries

def rows (name : String) (g : Graph) : Entries := g.entries.rows name

variable {α β : Type} {name : String} {m : GraphM α} {g h : Graph}

def Reads (m : GraphM α) : Prop := Steps (fun g h => g.Precedes h ∧ h.entries = g.entries) m

def Spares (name : String) (m : GraphM α) : Prop :=
  Steps (fun g h => g.Precedes h ∧ h.rows name = g.rows name) m

theorem Reads.spares (hm : Reads m) : Spares name m := by
  intro g r h hx
  obtain ⟨hp, he⟩ := hm g r h hx
  exact ⟨hp, by rw [rows, rows, he]⟩

theorem Reads.bind {f : α → GraphM β} (hm : Reads m) (hf : ∀ a, Reads (f a)) : Reads (m >>= f) :=
  Steps.bind (fun h k => ⟨h.1.trans k.1, k.2.trans h.2⟩) hm hf

theorem reads_pure (a : α) : Reads (pure a) := steps_pure (fun g => ⟨.refl g, rfl⟩) a

theorem onStore_eq {x : StoreM α} {r : Except StoreError α} (hx : onStore x g = (r, h)) :
    ∃ t, x g.store = (r, t) ∧ h = { g with store := t } := by
  unfold onStore at hx
  rcases hs : x g.store with ⟨q, t⟩
  rw [hs] at hx
  cases hx
  exact ⟨t, rfl, rfl⟩

theorem reads_onStore {x : StoreM α} (hx : Store.Reads x) : Reads (onStore x) := by
  intro g r h hg
  obtain ⟨t, hs, rfl⟩ := onStore_eq hg
  obtain ⟨hk, he⟩ := hx _ _ _ hs
  exact ⟨.of_keeps hk rfl, he⟩

theorem spares_onStore {x : StoreM α} (hx : Store.Spares name x) : Spares name (onStore x) := by
  intro g r h hg
  obtain ⟨t, hs, rfl⟩ := onStore_eq hg
  obtain ⟨hk, hrows⟩ := hx _ _ _ hs
  exact ⟨.of_keeps hk rfl, hrows⟩

theorem reads_check (r : Except StoreError α) : Reads (check r) := by
  intro g q h hx
  cases hx
  exact ⟨.refl g, rfl⟩

theorem reads_now : Reads now := reads_onStore Store.reads_readClock

theorem reads_parsed (filter : Json) : Reads (parsed filter) :=
  reads_onStore (Collection.reads_parsed filter)

theorem newId_apply (prefixName : String) (g : Graph) :
    newId prefixName g =
      (.ok (make prefixName ((g.ids.generator.advance g.store.clock.now).suffix
          (g.ids.tails g.ids.drawn))),
        { g with
          store := { g.store with clock := g.store.clock.advance }
          ids := (g.ids.next g.store.clock.now).2 }) := rfl

theorem reads_newId (prefixName : String) : Reads (newId prefixName) := by
  intro g r h hx
  rw [newId_apply] at hx
  cases hx
  refine ⟨⟨⟨rfl, rfl, rfl, id, rfl, Nat.le_succ _⟩, ?_, fun ht => ⟨ht.1, ?_⟩⟩, rfl⟩
  · exact (Generator.advance_later _ _).1
  · exact Generator.inRange_advance ht.2 (ht.1 _)

theorem reads_modify {f : Graph → Graph} (hstore : ∀ g, (f g).store = g.store)
    (hids : ∀ g, (f g).ids = g.ids) : Reads (modify f) := by
  intro g r h hx
  cases hx
  refine ⟨.of_keeps ?_ (hids g), ?_⟩
  · rw [hstore]
    exact .refl _
  · rw [entries, hstore, entries]

theorem reads_rememberNoun (n : Noun) : Reads (rememberNoun n) :=
  reads_modify (fun _ => rfl) fun _ => rfl

theorem reads_rememberVerb (v : Verb) : Reads (rememberVerb v) :=
  reads_modify (fun _ => rfl) fun _ => rfl

/-- The relation goes on from one operation to the next. It holds if nothing but the matcher and what
it was asked changes, however the store is read, and when an id is made. -/
structure Frames (R : Graph → Graph → Prop) : Prop where
  trans : ∀ {g h k}, R g h → R h k → R g k
  alike : ∀ {g h : Graph}, h.store = g.store → h.ids = g.ids → h.nounCache = g.nounCache →
    h.verbCache = g.verbCache → R g h
  reads : ∀ {α : Type} {x : StoreM α}, Store.Reads x → Steps R (onStore x)
  makes : ∀ prefixName, Steps R (newId prefixName)

theorem frames_reads : Frames fun g h => g.Precedes h ∧ h.entries = g.entries := by
  refine ⟨fun h k => ⟨h.1.trans k.1, k.2.trans h.2⟩, fun hstore hids _ _ => ⟨.of_keeps ?_ hids, ?_⟩,
    reads_onStore, reads_newId⟩
  · rw [hstore]
    exact .refl _
  · rw [entries, hstore, entries]

theorem frames_spares (name : String) :
    Frames fun g h => g.Precedes h ∧ h.rows name = g.rows name := by
  refine ⟨fun h k => ⟨h.1.trans k.1, k.2.trans h.2⟩, fun hstore hids hnouns hverbs => ?_,
    fun hx => (reads_onStore hx).spares, fun prefixName => (reads_newId prefixName).spares⟩
  obtain ⟨hp, he⟩ := frames_reads.alike hstore hids hnouns hverbs
  exact ⟨hp, by rw [rows, he, rows]⟩

/-- A relation that goes on frames if it holds wherever the entries of one collection stay as they
are. -/
theorem frames_of_spared {R : Graph → Graph → Prop} {name : String}
    (htrans : ∀ {g h k}, R g h → R h k → R g k)
    (hspared : ∀ {g h : Graph}, g.Precedes h → h.rows name = g.rows name → R g h) : Frames R := by
  have hsteps {α : Type} {m : GraphM α} (hm : Spares name m) : Steps R m := by
    intro g r h hx
    obtain ⟨hp, hrows⟩ := hm g r h hx
    exact hspared hp hrows
  refine ⟨htrans, fun hstore hids hnouns hverbs => ?_, fun hx => hsteps (reads_onStore hx).spares,
    fun prefixName => hsteps (reads_newId prefixName).spares⟩
  obtain ⟨hp, hrows⟩ := (frames_spares name).alike hstore hids hnouns hverbs
  exact hspared hp hrows

namespace Frames

variable {R : Graph → Graph → Prop} (hR : Frames R)

include hR

theorem bind {f : α → GraphM β} (hm : Steps R m) (hf : ∀ a, Steps R (f a)) : Steps R (m >>= f) :=
  Steps.bind hR.trans hm hf

theorem pure (a : α) : Steps R (Pure.pure a : GraphM α) :=
  steps_pure (fun _ => hR.alike rfl rfl rfl rfl) a

theorem map (hm : Steps R m) (f : α → β) : Steps R (m >>= fun a => Pure.pure (f a)) :=
  hR.bind hm fun a => hR.pure (f a)

theorem check (r : Except StoreError α) : Steps R (check r) := by
  intro g q h hx
  cases hx
  exact hR.alike rfl rfl rfl rfl

theorem ask (type text : String) (threshold : Option Binary64) :
    Steps R (ask type text threshold) := by
  intro g r h hx
  unfold Graph.ask at hx
  split at hx
  · cases hx
    exact hR.alike rfl rfl rfl rfl
  · dsimp only at hx
    split at hx <;>
    · cases hx
      exact hR.alike rfl rfl rfl rfl

theorem setMatcher (matcher : Option Matcher) :
    Steps R (modify fun g => { g with matcher := matcher }) := by
  intro g r h hx
  cases hx
  exact hR.alike rfl rfl rfl rfl

theorem now : Steps R now := hR.reads Store.reads_readClock

theorem parsed (filter : Json) : Steps R (parsed filter) :=
  hR.reads (Collection.reads_parsed filter)

theorem getRecord [Record α] (c : Collection) (id : String) :
    Steps R (onStore (c.getRecord id : StoreM (Option α))) :=
  hR.reads (c.reads_getRecord id)

theorem findRecords [Record α] (c : Collection) (filter : Filter) (options : QueryOptions) :
    Steps R (onStore (c.findRecords filter options : StoreM (List α))) :=
  hR.reads (c.reads_findRecords filter options)

theorem countWhere (c : Collection) (filter : Filter) : Steps R (onStore (c.countWhere filter)) :=
  hR.reads (c.reads_countWhere filter)

theorem findThings (type : Option String) (filter : Json) (options : QueryOptions) :
    Steps R (findThings type filter options) :=
  hR.bind (hR.parsed filter) fun _ => hR.findRecords _ _ _

theorem findActions (filter : Json) (options : QueryOptions) :
    Steps R (findActions filter options) :=
  hR.bind (hR.parsed filter) fun _ => hR.findRecords _ _ _

theorem countActions (filter : Json) : Steps R (countActions filter) :=
  hR.bind (hR.parsed filter) fun _ => hR.countWhere _ _

theorem thingsAt (ids : List String) : Steps R (thingsAt ids) := by
  induction ids with
  | nil => exact hR.pure []
  | cons id rest ih =>
    exact hR.bind (hR.getRecord _ id) fun _ => hR.bind ih fun _ => hR.pure _

theorem relationsAt (member id : String) (verb : Option String) :
    Steps R (relationsAt member id verb) :=
  hR.findRecords _ _ _

theorem traverse (source verb : String) : Steps R (traverse source verb) :=
  hR.bind (hR.relationsAt _ _ _) fun _ => hR.thingsAt _

theorem traverseBack (target verb : String) : Steps R (traverseBack target verb) :=
  hR.bind (hR.relationsAt _ _ _) fun _ => hR.thingsAt _

theorem noun (hremember : ∀ n, Steps R (rememberNoun n)) (key : String) : Steps R (noun key) := by
  have hrecalled : Steps R (recalledNoun key) := by
    intro g r h hx
    cases hx
    exact hR.alike rfl rfl rfl rfl
  refine hR.bind hrecalled fun recalled => ?_
  cases recalled with
  | some n => exact hR.pure _
  | none =>
    refine hR.bind (hR.getRecord _ key) fun found => ?_
    cases found with
    | some n => exact hR.bind (hremember n) fun _ => hR.pure _
    | none => exact hR.pure _

theorem verb (hremember : ∀ v, Steps R (rememberVerb v)) (key : String) : Steps R (verb key) := by
  have hrecalled : Steps R (recalledVerb key) := by
    intro g r h hx
    cases hx
    exact hR.alike rfl rfl rfl rfl
  refine hR.bind hrecalled fun recalled => ?_
  cases recalled with
  | some v => exact hR.pure _
  | none =>
    refine hR.bind (hR.getRecord _ key) fun found => ?_
    cases found with
    | some v => exact hR.bind (hremember v) fun _ => hR.pure _
    | none => exact hR.pure _

theorem stats : Steps R stats :=
  hR.bind (hR.countWhere _ _) fun _ => hR.bind (hR.countWhere _ _) fun _ =>
    hR.bind (hR.countWhere _ _) fun _ => hR.bind (hR.countWhere _ _) fun _ =>
      hR.bind (hR.countWhere _ _) fun _ => hR.pure _

theorem defineNoun {key : String} {d : NounDefinition}
    (hput : ∀ n : Noun, n.schema = d.schema → Steps R (onStore (nounCollection.putRecord n)))
    (hremember : ∀ n, Steps R (rememberNoun n)) : Steps R (defineNoun key d) := by
  have hwrite (n : Noun) (hn : n.schema = d.schema) : Steps R (do
      onStore (nounCollection.putRecord n)
      rememberNoun n
      return n) :=
    hR.bind (hput n hn) fun _ => hR.bind (hremember n) fun _ => hR.pure _
  refine hR.bind (hR.check _) fun _ => hR.bind (hR.noun hremember key) fun old => ?_
  cases old with
  | some n => exact hwrite _ rfl
  | none => exact hR.bind hR.now fun _ => hwrite _ rfl

theorem defineVerb {key : String} {d : VerbDefinition}
    (hput : ∀ v : Verb, Steps R (onStore (verbCollection.putRecord v)))
    (hremember : ∀ v, Steps R (rememberVerb v)) : Steps R (defineVerb key d) :=
  hR.bind (hR.check _) fun _ => hR.bind (hput _) fun _ => hR.bind (hremember _) fun _ => hR.pure _

theorem log {entry : ActionEntry}
    (hput : ∀ id time, Steps R (onStore (actionCollection.putRecord (⟨entry, id, time⟩ : Action)))) :
    Steps R (log entry) :=
  hR.bind (hR.makes _) fun _ => hR.bind hR.now fun _ => hR.bind (hput _ _) fun _ => hR.pure _

theorem createThing {type : String} {data : Json}
    (hput : ∀ id time,
      Steps R (onStore (thingCollection.putRecord (Thing.first id type (membersOf data) time))))
    (hlog : ∀ id, Steps R (Graph.log (.about "created" id))) (id : Option String) :
    Steps R (createThing type data id) := by
  have hwrite (id : String) : Steps R (do
      let t := Thing.first id type (membersOf data) (← Graph.now)
      onStore (thingCollection.putRecord t)
      let _ ← Graph.log (.about "created" t.id)
      return t) :=
    hR.bind hR.now fun _ => hR.bind (hput _ _) fun _ => hR.bind (hlog _) fun _ => hR.pure _
  refine hR.bind (hR.check _) fun _ => hR.bind (hR.check _) fun _ => ?_
  cases id with
  | some id => exact hR.bind (hR.check _) fun _ => hwrite id
  | none => exact hR.bind (hR.makes _) fun id => hwrite id

theorem updateThing {id : String} {changes : Json} {g h : Graph}
    {r : Except StoreError (Option Thing)}
    (hput : ∀ old k, Graph.thing id g = (.ok (some old), k) → ∀ time,
      Steps R (onStore (thingCollection.putRecord (old.changed (membersOf changes) time))))
    (hlog : Steps R (Graph.log { ActionEntry.about "updated" id with data := some changes }))
    (hx : updateThing id changes g = (r, h)) : R g h := by
  refine Steps.of_bind hR.trans (hR.check _) hx fun _ k hcheck hx => ?_
  obtain rfl : g = k := congrArg Prod.snd hcheck
  refine Steps.of_bind hR.trans (hR.getRecord _ id) hx fun found k hthing hx => ?_
  cases found with
  | none => exact hR.pure _ k r h hx
  | some old =>
    have hwrite := hput old k hthing
    exact hR.bind hR.now (fun _ => hR.bind (hwrite _) fun _ => hR.bind hlog fun _ => hR.pure _)
      k r h hx

theorem deleteThing {id : String} (hdelete : Steps R (onStore (thingCollection.delete id)))
    (hedges : Steps R (onStore (relationshipCollection.deleteWhere (Relationship.touching id))))
    (hlog : Steps R (Graph.log (.about "deleted" id))) : Steps R (deleteThing id) := by
  refine hR.bind hdelete fun there => ?_
  cases there with
  | true => exact hR.bind hedges fun _ => hR.bind hlog fun _ => hR.pure _
  | false => exact hR.pure _

theorem relate {source verb target : String} {cascade : Cascade} {data : Option Json}
    (hput : ∀ id time, Steps R (onStore (relationshipCollection.putRecord
      (⟨id, source, verb, target, cascade, data, time⟩ : Relationship))))
    (hlog : Steps R (Graph.log (.relating source verb target data))) :
    Steps R (relate source verb target cascade data) :=
  hR.bind (hR.check _) fun _ => hR.bind (hR.check _) fun _ => hR.bind (hR.check _) fun _ =>
    hR.bind (hR.makes _) fun _ => hR.bind hR.now fun _ => hR.bind (hput _ _) fun _ =>
      hR.bind hlog fun _ => hR.pure _

theorem unrelate {source verb target : String}
    (hedges : Steps R
      (onStore (relationshipCollection.deleteWhere (Relationship.between source verb target))))
    (hlog : Steps R (Graph.log (.relating source ("un" ++ verb) target none))) :
    Steps R (unrelate source verb target) :=
  hR.bind hedges fun _ => hR.bind hlog fun _ => hR.pure _

theorem relateFound {source verb : String} (created : Bool) {found : Thing}
    (hrelate : Steps R (Graph.relate source verb found.id .fuzzy none)) : Steps R (do
      let relationship ← Graph.relate source verb found.id .fuzzy none
      return (⟨created, found, relationship⟩ : FuzzyRelation)) :=
  hR.bind hrelate fun _ => hR.pure _

theorem fuzzyRelate {source verb type text : String} {data : Option Json}
    (hcreate : Steps R
      (Graph.createThing type (data.getD (.object [("text", .string text)])) none))
    (hrelate : ∀ target, Steps R (Graph.relate source verb target .fuzzy none))
    (threshold : Option Binary64) : Steps R (fuzzyRelate source verb type text data threshold) := by
  refine hR.bind (hR.ask _ _ _) fun asked => ?_
  obtain ⟨t, candidates⟩ := asked
  dsimp only
  cases Candidate.best t candidates with
  | some c => exact hR.relateFound false (hrelate _)
  | none => exact hR.bind hcreate fun thing => hR.relateFound true (hrelate _)

end Frames

theorem reads_ask (type text : String) (threshold : Option Binary64) :
    Reads (ask type text threshold) :=
  frames_reads.ask type text threshold

theorem reads_thing (id : String) : Reads (thing id) := frames_reads.getRecord _ id

theorem reads_noun (key : String) : Reads (noun key) := frames_reads.noun reads_rememberNoun key

/-- The id was made by a state that the generator has been in. -/
def Made (name : String) (g : Graph) (id : String) : Prop :=
  ∃ (state : Generator) (tail : Nat), state.InRange ∧ state.AtMost g.ids.generator ∧
    id = make name (state.suffix tail)

theorem Made.mono {name id : String} (hid : g.Made name id) (hp : g.Precedes h) :
    h.Made name id := by
  obtain ⟨state, tail, hrange, hmost, rfl⟩ := hid
  exact ⟨state, tail, hrange, hmost.trans hp.later, rfl⟩

theorem not_made_next (hg : g.Timely) (name other : String) (tail : Nat) :
    ¬ g.Made other (make name ((g.ids.generator.advance g.store.clock.now).suffix tail)) := by
  rintro ⟨state, earlier, hrange, hmost, heq⟩
  have hnext := Generator.inRange_advance hg.2 (hg.1 g.store.clock.taken)
  have hstate := Generator.suffix_injective hnext hrange (suffix_eq_of_make_eq heq)
  exact (Generator.advance_later g.ids.generator g.store.clock.now).2 (hstate ▸ hmost)

theorem made_newId {name id : String} (hg : g.Timely) (hx : newId name g = (.ok id, h)) :
    h.Made name id ∧ ∀ old, g.Made name old → old ≠ id := by
  have hnext := Generator.inRange_advance hg.2 (hg.1 g.store.clock.taken)
  rw [newId_apply] at hx
  cases hx
  refine ⟨⟨_, _, hnext, .refl _, rfl⟩, ?_⟩
  rintro old hold rfl
  exact not_made_next hg name name _ hold

theorem spares_defineNoun (hname : nounCollection.name ≠ name) (key : String) (d : NounDefinition) :
    Spares name (defineNoun key d) :=
  (frames_spares name).defineNoun
    (fun _ _ => spares_onStore (Collection.spares_putRecord hname _))
    fun n => (reads_rememberNoun n).spares

theorem spares_defineVerb (hname : verbCollection.name ≠ name) (key : String) (d : VerbDefinition) :
    Spares name (defineVerb key d) :=
  (frames_spares name).defineVerb (fun _ => spares_onStore (Collection.spares_putRecord hname _))
    fun v => (reads_rememberVerb v).spares

theorem spares_log (hactions : actionCollection.name ≠ name) (entry : ActionEntry) :
    Spares name (log entry) :=
  (frames_spares name).log fun _ _ => spares_onStore (Collection.spares_putRecord hactions _)

theorem spares_createThing (hthings : thingCollection.name ≠ name)
    (hactions : actionCollection.name ≠ name) (type : String) (data : Json) (id : Option String) :
    Spares name (createThing type data id) :=
  (frames_spares name).createThing
    (fun _ _ => spares_onStore (Collection.spares_putRecord hthings _))
    (fun _ => spares_log hactions _) id

theorem spares_updateThing (hthings : thingCollection.name ≠ name)
    (hactions : actionCollection.name ≠ name) (id : String) (changes : Json) :
    Spares name (updateThing id changes) := fun _ _ _ hx =>
  (frames_spares name).updateThing
    (fun _ _ _ _ => spares_onStore (Collection.spares_putRecord hthings _))
    (spares_log hactions _) hx

theorem spares_deleteThing (hthings : thingCollection.name ≠ name)
    (hedges : relationshipCollection.name ≠ name) (hactions : actionCollection.name ≠ name)
    (id : String) : Spares name (deleteThing id) :=
  (frames_spares name).deleteThing (spares_onStore (Collection.spares_delete hthings _))
    (spares_onStore (Collection.spares_deleteWhere hedges _)) (spares_log hactions _)

theorem spares_relate (hedges : relationshipCollection.name ≠ name)
    (hactions : actionCollection.name ≠ name) (source verb target : String) (cascade : Cascade)
    (data : Option Json) : Spares name (relate source verb target cascade data) :=
  (frames_spares name).relate (fun _ _ => spares_onStore (Collection.spares_putRecord hedges _))
    (spares_log hactions _)

theorem spares_unrelate (hedges : relationshipCollection.name ≠ name)
    (hactions : actionCollection.name ≠ name) (source verb target : String) :
    Spares name (unrelate source verb target) :=
  (frames_spares name).unrelate (spares_onStore (Collection.spares_deleteWhere hedges _))
    (spares_log hactions _)

theorem spares_relateFound (hedges : relationshipCollection.name ≠ name)
    (hactions : actionCollection.name ≠ name) (source verb : String) (created : Bool)
    (found : Thing) : Spares name (do
      let relationship ← relate source verb found.id .fuzzy none
      return (⟨created, found, relationship⟩ : FuzzyRelation)) :=
  (frames_spares name).relateFound created (spares_relate hedges hactions _ _ _ _ _)

theorem spares_fuzzyRelate (hthings : thingCollection.name ≠ name)
    (hedges : relationshipCollection.name ≠ name) (hactions : actionCollection.name ≠ name)
    (source verb type text : String) (data : Option Json) (threshold : Option Binary64) :
    Spares name (fuzzyRelate source verb type text data threshold) :=
  (frames_spares name).fuzzyRelate (spares_createThing hthings hactions _ _ _)
    (fun _ => spares_relate hedges hactions _ _ _ _ _) threshold

end Graph

end DocumentGraph
