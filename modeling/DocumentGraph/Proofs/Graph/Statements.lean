import DocumentGraph.Proofs.Graph.Traversal
import DocumentGraph.Proofs.Store.Closed
import DocumentGraph.Proofs.Store.Statements
set_option autoImplicit false

/-!
# The statements of graph operations

An operation that changes the graph issues the statements of its change first and then the one that
logs it. Relating by similarity may create a thing before it relates, and then the statements of the
creation, its action included, come before those of the edge. If something is wrong with the arguments
nothing is issued, or nothing after what was looked up.
-/

namespace DocumentGraph

open Identifier Operation DocumentGraph.Graph

instance : Hosted Graph where
  database g := g.store.database
  table g := g.store.config.tableName
  host db g := { g with store := { g.store with database := db } }

def Collection.filing {ρ : Type} [Record ρ] (c : Collection) (r : ρ) (time : Int64) : Statement :=
  .put c.name (Record.key r) (Record.document r) time

def StoreError.IsOwn (e : StoreError) : Prop := ∀ d, e ≠ .storage d

theorem StoreError.isOwn_of_isRejection {e : StoreError} (he : e.isRejection = true) : e.IsOwn := by
  rintro d rfl
  cases he

theorem StoreError.IsOwn.only {α : Type} {e : StoreError} (he : e.IsOwn) :
    ∀ d, (.error e : Except StoreError α) = .error d → d.IsOwn := by
  rintro d ⟨⟩
  exact he

namespace Graph

variable {α β ρ : Type} [Record ρ] {g h k : Graph}

theorem onStore_apply {x : StoreM α} {r : Except StoreError α} {t : Store}
    (hx : x g.store = (r, t)) : onStore x g = (r, { g with store := t }) := by
  rw [onStore, hx]

theorem issues_onStore {x : StoreM α} {ss : List Statement} {r : Except StoreError α} {t : Store}
    (hx : Issues x g.store ss r t) : Issues (onStore x) g ss r { g with store := t } := by
  refine ⟨hx.table, hx.entries, fun db hdb n hn hlt => ?_, fun db hdb hpatient => ?_⟩
  · obtain ⟨d, u, hu, he⟩ := hx.refused db hdb n hn hlt
    exact ⟨d, { g with store := u }, onStore_apply (g := Hosted.host db g) hu, he⟩
  · obtain ⟨db', hu, hdb', hleft⟩ := hx.done db hdb hpatient
    exact ⟨db', onStore_apply (g := Hosted.host db g) hu, hdb', hleft⟩

theorem ends_of_issues {m : GraphM α} {ss : List Statement} {r q : Except StoreError α}
    (hm : Issues m g ss r k) (hx : m g = (q, h)) :
    (∃ n < ss.length, (∃ d, q = .error (.storage d)) ∧ h.entries = g.entries.after (ss.take n)) ∨
      q = r ∧ h.entries = g.entries.after ss := by
  by_cases hpatient : ∀ n, g.store.database.patience = some n → ss.length ≤ n
  · obtain ⟨db, hdone, hdb, -⟩ := hm.done g.store.database rfl hpatient
    cases hx.symm.trans hdone
    refine .inr ⟨rfl, ?_⟩
    change db.entries (Hosted.table k) = _
    rw [hm.table, hdb]
    exact hm.entries
  · obtain ⟨n, hn, hlt⟩ := by simpa using hpatient
    obtain ⟨d, u, hrefused, hu⟩ := hm.refused g.store.database rfl n hn hlt
    cases hx.symm.trans hrefused
    exact .inl ⟨n, hlt, ⟨d, rfl⟩, hu⟩

theorem issues_check {x r : Except StoreError α} (h : x = r) (g : Graph) :
    Issues (check x) g [] r g :=
  issues_nil (fun _ => by rw [← h]; rfl) rfl rfl

theorem issues_newId (name : String) (g : Graph) :
    ∃ k : Graph, k.store.clock = g.store.clock.advance ∧
      Issues (newId name) g [] (.ok (g.nextId name)) k := by
  let k : Graph :=
    { g with
      store := { g.store with clock := g.store.clock.advance }
      ids := (g.ids.next g.store.clock.now).2 }
  exact ⟨k, rfl, issues_nil (fun _ => rfl) rfl rfl⟩

theorem issues_now (g : Graph) :
    ∃ k, Issues now g [] (.ok g.store.clock.now) k :=
  ⟨_, issues_onStore (Store.issues_readClock g.store)⟩

theorem ask_host (type text : String) (threshold : Option Binary64) (g : Graph) (db : Database) :
    ask type text threshold (Hosted.host db g) =
      ((ask type text threshold g).1, Hosted.host db (ask type text threshold g).2) := by
  cases g with
  | mk store ids nouns verbs matcher asked =>
    cases matcher with
    | none => rfl
    | some m =>
      simp only [ask, Hosted.host]
      split <;> rfl

theorem isOwn_of_ask {type text : String} {threshold : Option Binary64} {e : StoreError}
    (hx : ask type text threshold g = (.error e, h)) : e.IsOwn := by
  unfold ask at hx
  split at hx
  · cases hx
    exact nofun
  · dsimp only at hx
    split at hx <;>
    · cases hx
      try exact nofun

theorem issues_ask (type text : String) (threshold : Option Binary64) (g : Graph) :
    Issues (ask type text threshold) g [] (ask type text threshold g).1
      (ask type text threshold g).2 := by
  obtain ⟨hstore, -⟩ := ask_spares (show ask type text threshold g = (_, _) from rfl)
  refine issues_nil (ask_host type text threshold g) ?_ ?_
  · exact congrArg (fun s : Store => s.config.tableName) hstore
  · exact congrArg Store.entries hstore

theorem issues_putRecord (c : Collection) {r : ρ} (h : Record.key r ≠ "") (g : Graph) :
    ∃ time k, Issues (onStore (c.putRecord r)) g [c.filing r time] (.ok ()) k := by
  obtain ⟨t, hput⟩ := c.issues_putRecord g.store h
  exact ⟨_, _, issues_onStore hput⟩

theorem issues_log (entry : ActionEntry) (g : Graph) :
    ∃ (a : Action) (time : Int64) (k : Graph), a.toActionEntry = entry ∧
      Issues (log entry) g [actionCollection.filing a time] (.ok a) k := by
  obtain ⟨g₁, -, hid⟩ := issues_newId "act" g
  obtain ⟨g₂, hnow⟩ := issues_now g₁
  let a : Action := ⟨entry, g.nextId "act", g₁.store.clock.now⟩
  obtain ⟨time, k, hput⟩ := issues_putRecord actionCollection (r := a) (make_ne_empty _ _) g₂
  exact ⟨a, time, k, rfl, hid.before (hnow.before (hput.silently (issues_pure a k)))⟩

theorem issues_putLogged (c : Collection) {r : ρ} (h : Record.key r ≠ "") (entry : ActionEntry) (b : β)
    (g : Graph) : ∃ (a : Action) (filed logged : Int64) (k : Graph), a.toActionEntry = entry ∧
      Issues (do
        onStore (c.putRecord r)
        let _ ← log entry
        return b) g [c.filing r filed, actionCollection.filing a logged] (.ok b) k := by
  obtain ⟨filed, g₁, hput⟩ := issues_putRecord c h g
  obtain ⟨a, logged, k, ha, hlog⟩ := issues_log entry g₁
  exact ⟨a, filed, logged, k, ha, hput.bind (hlog.silently (issues_pure b k))⟩

end Graph

/-- The statements that a call issues, unless one of them is refused. -/
inductive GraphCall.Plan (g : Graph) : GraphCall → List Statement → Prop where
  /-- Something is wrong with the arguments, or the matcher fails. -/
  | nothing (call : GraphCall) : Plan g call []
  | created {type : String} {data : Json} {id : Option String} {t : Thing} {a : Action}
      {filed logged : Int64} (thing : t = g.firstThing type data id)
      (entry : a.toActionEntry = .about "created" t.id) :
      Plan g (.createThing type data id)
        [thingCollection.filing t filed, actionCollection.filing a logged]
  /-- There is no thing that can be read and changed. -/
  | fetched {id : String} {changes : Json} :
      Plan g (.updateThing id changes) [.fetch thingCollection.name id]
  | changed {id : String} {changes : Json} {old : Thing} {a : Action} {time filed logged : Int64}
      (there : thingCollection.recordAt id g.entries = .ok (some old))
      (entry : a.toActionEntry = { ActionEntry.about "updated" id with data := some changes }) :
      Plan g (.updateThing id changes) [.fetch thingCollection.name id,
        thingCollection.filing (old.changed (membersOf changes) time) filed,
        actionCollection.filing a logged]
  | absent {id : String} (missing : g.hasThing id = false) :
      Plan g (.deleteThing id) [.remove thingCollection.name id]
  | deleted {id : String} {p : Predicate} {a : Action} {logged : Int64}
      (touching : ∀ doc, p.selects doc = (Relationship.touching id).holds doc)
      (entry : a.toActionEntry = .about "deleted" id) :
      Plan g (.deleteThing id) [.remove thingCollection.name id,
        .removeWhere relationshipCollection.name p, actionCollection.filing a logged]
  | related {source verb target : String} {cascade : Cascade} {data : Option Json}
      {r : Relationship} {a : Action} {filed logged : Int64}
      (edge : r = ⟨r.id, source, verb, target, cascade, data, r.createdAt⟩)
      (entry : a.toActionEntry = .relating source verb target data) :
      Plan g (.relate source verb target cascade data)
        [relationshipCollection.filing r filed, actionCollection.filing a logged]
  | unrelated {source verb target : String} {p : Predicate} {a : Action} {logged : Int64}
      (between : ∀ doc, p.selects doc = (Relationship.between source verb target).holds doc)
      (entry : a.toActionEntry = .relating source ("un" ++ verb) target none) :
      Plan g (.unrelate source verb target)
        [.removeWhere relationshipCollection.name p, actionCollection.filing a logged]
  /-- The matcher has found a thing to relate to. -/
  | found {source verb type text : String} {data : Option Json} {threshold : Option Binary64}
      {r : Relationship} {a : Action} {filed logged : Int64}
      (edge : r = ⟨r.id, source, verb, r.target, .fuzzy, none, r.createdAt⟩)
      (entry : a.toActionEntry = .relating source verb r.target none) :
      Plan g (.fuzzyRelate source verb type text data threshold)
        [relationshipCollection.filing r filed, actionCollection.filing a logged]
  /-- A thing was created, and then the other end or the verb is rejected. -/
  | alone {source verb type text : String} {data : Option Json} {threshold : Option Binary64}
      {t : Thing} {a : Action} {filed logged : Int64}
      (thing : t = g.firstThing type (dataOf text data) none)
      (entry : a.toActionEntry = .about "created" t.id) :
      Plan g (.fuzzyRelate source verb type text data threshold)
        [thingCollection.filing t filed, actionCollection.filing a logged]
  | joined {source verb type text : String} {data : Option Json} {threshold : Option Binary64}
      {t : Thing} {r : Relationship} {a b : Action} {filed logged filed' logged' : Int64}
      (thing : t = g.firstThing type (dataOf text data) none)
      (created : a.toActionEntry = .about "created" t.id)
      (edge : r = ⟨r.id, source, verb, t.id, .fuzzy, none, r.createdAt⟩)
      (entry : b.toActionEntry = .relating source verb t.id none) :
      Plan g (.fuzzyRelate source verb type text data threshold)
        [thingCollection.filing t filed, actionCollection.filing a logged,
          relationshipCollection.filing r filed', actionCollection.filing b logged']

namespace Graph

variable {α β ρ : Type} [Record ρ] {g h k : Graph}

/-- Either something is wrong before the first statement, or what is issued and what it ends with are as
planned. -/
def Plans (m : GraphM α) (g : Graph) (P : List Statement → α → Prop) : Prop :=
  ∃ ss r k, Issues m g ss r k ∧
    ((ss = [] ∧ ∃ e : StoreError, r = .error e ∧ e.IsOwn) ∨ ∃ a, r = .ok a ∧ P ss a)

variable {m : GraphM α} {f : α → GraphM β} {P : List Statement → β → Prop}

theorem Plans.check {x : Except StoreError α} (hrejects : Rejects x)
    (hf : ∀ a, x = .ok a → Plans (f a) g P) : Plans (Graph.check x >>= f) g P := by
  cases hx : x with
  | error e =>
    have hown : e.IsOwn := StoreError.isOwn_of_isRejection (hrejects e hx)
    exact ⟨[], .error e, g, (issues_check rfl g).bind_error, .inl ⟨rfl, e, rfl, hown⟩⟩
  | ok a =>
    obtain ⟨ss, r, k, hissues, hplan⟩ := hf a hx
    exact ⟨ss, r, k, (issues_check rfl g).before hissues, hplan⟩

theorem Plans.before {a : α} (hm : Issues m g [] (.ok a) k) (hf : Plans (f a) k P) :
    Plans (m >>= f) g P := by
  obtain ⟨ss, r, l, hissues, hplan⟩ := hf
  exact ⟨ss, r, l, hm.before hissues, hplan⟩

theorem Plans.mono {Q : List Statement → β → Prop} {m : GraphM β} (hm : Plans m g P)
    (hPQ : ∀ ss b, P ss b → Q ss b) : Plans m g Q := by
  obtain ⟨ss, r, k, hissues, hplan⟩ := hm
  exact ⟨ss, r, k, hissues, hplan.imp_right fun ⟨b, hb, hP⟩ => ⟨b, hb, hPQ ss b hP⟩⟩

theorem plans_createThing (type : String) (data : Json) (given : Option String) (g : Graph) :
    Plans (createThing type data given) g fun ss t =>
      t = g.firstThing type data given ∧ t.id ≠ "" ∧
        ∃ (a : Action) (filed logged : Int64), a.toActionEntry = .about "created" t.id ∧
          ss = [thingCollection.filing t filed, actionCollection.filing a logged] := by
  have hwrite {id : String} (hid : id ≠ "") (k : Graph) : Plans (do
      let t := Thing.first id type (membersOf data) (← now)
      onStore (thingCollection.putRecord t)
      let _ ← log (.about "created" t.id)
      return t) k fun ss t =>
        t = Thing.first id type (membersOf data) k.store.clock.now ∧ t.id ≠ "" ∧
          ∃ (a : Action) (filed logged : Int64), a.toActionEntry = .about "created" t.id ∧
            ss = [thingCollection.filing t filed, actionCollection.filing a logged] := by
    obtain ⟨l, hnow⟩ := issues_now k
    let t := Thing.first id type (membersOf data) k.store.clock.now
    obtain ⟨a, filed, logged, h, ha, hput⟩ :=
      issues_putLogged thingCollection (r := t) hid (.about "created" t.id) t l
    exact .before hnow ⟨_, _, h, hput, .inr ⟨t, rfl, rfl, hid, a, filed, logged, ha, rfl⟩⟩
  refine .check (rejects_validDocument data) fun _ _ => .check ?_ fun _ _ => ?_
  · split
    · exact .error rfl
    · exact .ok ()
  · cases given with
    | some id =>
      exact .check (rejects_validId id) fun _ hvalid => hwrite (validId_eq_ok.mp hvalid) g
    | none =>
      obtain ⟨k, hclock, hid⟩ := issues_newId (Unicode.lowercase type) g
      refine (Plans.before hid (hwrite (make_ne_empty _ _) k)).mono fun ss t ht => ?_
      rw [firstThing, ← hclock]
      exact ht

theorem isOwn_of_recordAt {c : Collection} {id : String} {es : Entries} :
    ∀ e, (c.recordAt id es : Except StoreError (Option ρ)) = .error e → e.IsOwn := by
  intro e he
  unfold Collection.recordAt Collection.fetched at he
  cases hfetch : es.fetch c.name id with
  | none =>
    rw [hfetch] at he
    cases he
  | some entry =>
    rw [hfetch] at he
    simp only [Collection.decode] at he
    split at he
    · simp only [bind, Except.bind, Collection.decodeRecord] at he
      split at he
      · cases he
      · cases he
        rintro d ⟨⟩
    · cases he
      rintro d ⟨⟩

theorem issues_updateThing (id : String) (changes : Json) (g : Graph) :
    ∃ ss r k, Issues (updateThing id changes) g ss r k ∧ (∀ e, r = .error e → e.IsOwn) ∧
      GraphCall.Plan g (.updateThing id changes) ss := by
  cases hdata : validDocument changes with
  | error e =>
    have hown : e.IsOwn := StoreError.isOwn_of_isRejection (rejects_validDocument changes e hdata)
    exact ⟨[], .error e, g, (issues_check hdata g).bind_error, hown.only, .nothing _⟩
  | ok u =>
    obtain ⟨t, hget⟩ := thingCollection.issues_getRecord (α := Thing) g.store id
    have hthing := issues_onStore hget
    cases hfound : thingCollection.recordAt (α := Thing) id g.store.entries with
    | error e =>
      rw [hfound] at hthing
      have hown : e.IsOwn := isOwn_of_recordAt e hfound
      exact ⟨_, .error e, _, (issues_check hdata g).before hthing.bind_error, hown.only, .fetched⟩
    | ok found =>
      rw [hfound] at hthing
      cases found with
      | none =>
        exact ⟨_, .ok none, _, (issues_check hdata g).before (hthing.silently (issues_pure none _)),
          nofun, .fetched⟩
      | some old =>
        obtain ⟨l, hnow⟩ := issues_now { g with store := t }
        let changed := old.changed (membersOf changes) t.clock.now
        by_cases hid : old.id = ""
        · have hrejected : Issues (onStore (thingCollection.putRecord changed)) l []
              (.error (.invalidId .emptyId)) l :=
            issues_onStore (Store.issues_check (by rw [show Record.key changed = "" from hid]; rfl)
              l.store).bind_error
          have hown : StoreError.IsOwn (.invalidId .emptyId) := nofun
          exact ⟨_, .error (.invalidId .emptyId), l, (issues_check hdata g).before
            (hthing.silently (hnow.before hrejected.bind_error)), hown.only, .fetched⟩
        · obtain ⟨a, filed, logged, h, ha, hput⟩ := issues_putLogged thingCollection (r := changed) hid
            { ActionEntry.about "updated" id with data := some changes } (some changed) l
          exact ⟨_, .ok (some changed), h, (issues_check hdata g).before
            (hthing.bind (hnow.before hput)), nofun, .changed hfound ha⟩

theorem issues_deleteThing (id : String) (g : Graph) :
    ∃ ss b k, Issues (deleteThing id) g ss (.ok b) k ∧ GraphCall.Plan g (.deleteThing id) ss := by
  obtain ⟨t, hdelete⟩ := thingCollection.issues_delete g.store id
  have hthing := issues_onStore hdelete
  cases hthere : (g.store.entries.fetch thingCollection.name id).isSome with
  | false =>
    rw [hthere] at hthing
    exact ⟨_, false, _, hthing.silently (issues_pure false _), .absent hthere⟩
  | true =>
    rw [hthere] at hthing
    obtain ⟨p, hp, hsel⟩ :=
      Filter.compile_of_valid (rfl : (Relationship.touching id).validated = .ok ())
    obtain ⟨n, u, hedges⟩ := relationshipCollection.issues_deleteWhere t hp
    obtain ⟨a, logged, h, ha, hlog⟩ :=
      issues_log (.about "deleted" id) { g with store := u }
    have hremoved := issues_onStore (g := { g with store := t }) hedges
    exact ⟨_, true, h, hthing.bind (hremoved.bind (hlog.silently (issues_pure true h))),
      .deleted hsel ha⟩

theorem plans_relate (source verb target : String) (cascade : Cascade) (data : Option Json)
    (g : Graph) : Plans (relate source verb target cascade data) g fun ss r =>
      r = ⟨r.id, source, verb, target, cascade, data, r.createdAt⟩ ∧
        ∃ (a : Action) (filed logged : Int64),
          a.toActionEntry = .relating source verb target data ∧
            ss = [relationshipCollection.filing r filed, actionCollection.filing a logged] := by
  refine .check (rejects_validId source) fun _ _ => .check (rejects_validId verb) fun _ _ =>
    .check (rejects_validId target) fun _ _ => ?_
  obtain ⟨k, -, hid⟩ := issues_newId "rel" g
  obtain ⟨l, hnow⟩ := issues_now k
  let r : Relationship :=
    ⟨g.nextId "rel", source, verb, target, cascade, data, k.store.clock.now⟩
  obtain ⟨a, filed, logged, h, ha, hput⟩ := issues_putLogged relationshipCollection (r := r)
    (make_ne_empty _ _) (.relating source verb target data) r l
  exact .before hid (.before hnow
    ⟨_, _, h, hput, .inr ⟨r, rfl, rfl, a, filed, logged, ha, rfl⟩⟩)

theorem issues_unrelate (source verb target : String) (g : Graph) :
    ∃ ss b k, Issues (unrelate source verb target) g ss (.ok b) k ∧
      GraphCall.Plan g (.unrelate source verb target) ss := by
  obtain ⟨p, hp, hsel⟩ :=
    Filter.compile_of_valid (rfl : (Relationship.between source verb target).validated = .ok ())
  obtain ⟨n, t, hedges⟩ := relationshipCollection.issues_deleteWhere g.store hp
  obtain ⟨a, logged, h, ha, hlog⟩ :=
    issues_log (.relating source ("un" ++ verb) target none) { g with store := t }
  exact ⟨_, _, h, (issues_onStore hedges).bind (hlog.silently (issues_pure _ h)), .unrelated hsel ha⟩

theorem issues_createRelated (source verb type : String) (data : Json) (g : Graph) :
    ∃ ss r k, Issues (createRelated source verb type data) g ss r k ∧
      (∀ e, r = .error e → e.IsOwn) ∧ (ss = [] ∨
        ∃ (t : Thing) (a : Action) (filed logged : Int64), t = g.firstThing type data none ∧
          a.toActionEntry = .about "created" t.id ∧
            (ss = [thingCollection.filing t filed, actionCollection.filing a logged] ∨
              ∃ (r : Relationship) (b : Action) (filed' logged' : Int64),
                r = ⟨r.id, source, verb, t.id, .fuzzy, none, r.createdAt⟩ ∧
                  b.toActionEntry = .relating source verb t.id none ∧
                    ss = [thingCollection.filing t filed, actionCollection.filing a logged,
                      relationshipCollection.filing r filed', actionCollection.filing b logged'])) := by
  obtain ⟨ss, made, k, hcreate, ⟨rfl, e, rfl, he⟩ | ⟨t, rfl, ht, -, a, filed, logged, ha, rfl⟩⟩ :=
    plans_createThing type data none g
  · exact ⟨[], .error e, k, hcreate.bind_error, he.only, .inl rfl⟩
  · obtain ⟨rest, related, l, hrelate, ⟨rfl, e, rfl, he⟩ | ⟨r, rfl, hr, b, filed', logged', hb, rfl⟩⟩ :=
      plans_relate source verb t.id .fuzzy none k
    · exact ⟨_, .error e, l, hcreate.bind hrelate.bind_error, he.only,
        .inr ⟨t, a, filed, logged, ht, ha, .inl rfl⟩⟩
    · exact ⟨_, _, l, hcreate.bind hrelate.map, nofun, .inr ⟨t, a, filed, logged, ht, ha,
        .inr ⟨r, b, filed', logged', hr, hb, rfl⟩⟩⟩

/-- What is done once the matcher has answered. -/
def relateBest (source verb type text : String) (data : Option Json) :
    Option Candidate → GraphM FuzzyRelation
  | some c => do
    let relationship ← relate source verb c.thing.id .fuzzy none
    return ⟨false, c.thing, relationship⟩
  | none => createRelated source verb type (dataOf text data)

theorem fuzzyRelate_eq (source verb type text : String) (data : Option Json)
    (threshold : Option Binary64) :
    fuzzyRelate source verb type text data threshold = (do
      let asked ← ask type text threshold
      relateBest source verb type text data (Candidate.best asked.1 asked.2)) := by
  unfold fuzzyRelate
  congr 1

theorem issues_fuzzyRelate (source verb type text : String) (data : Option Json)
    (threshold : Option Binary64) (g : Graph) :
    ∃ ss r k, Issues (fuzzyRelate source verb type text data threshold) g ss r k ∧
      (∀ e, r = .error e → e.IsOwn) ∧
        GraphCall.Plan g (.fuzzyRelate source verb type text data threshold) ss := by
  have hask := issues_ask type text threshold g
  obtain ⟨asked, k, hasked⟩ : ∃ asked k, ask type text threshold g = (asked, k) := ⟨_, _, rfl⟩
  rw [hasked] at hask
  rw [fuzzyRelate_eq]
  cases asked with
  | error e =>
    have hown : e.IsOwn := isOwn_of_ask hasked
    exact ⟨[], .error e, k, hask.bind_error, hown.only, .nothing _⟩
  | ok asked =>
    cases hbest : Candidate.best asked.1 asked.2 with
    | some c =>
      obtain ⟨ss, related, l, hrelate, hplan⟩ := plans_relate source verb c.thing.id .fuzzy none k
      refine ⟨ss, _, l, hask.before (by rw [hbest]; exact hrelate.map), ?_⟩
      rcases hplan with ⟨rfl, e, rfl, he⟩ | ⟨r, rfl, hr, a, filed, logged, ha, rfl⟩
      · exact ⟨he.only, .nothing _⟩
      · have htarget : r.target = c.thing.id := congrArg Relationship.target hr
        exact ⟨nofun, .found (htarget.symm ▸ hr) (htarget.symm ▸ ha)⟩
    | none =>
      obtain ⟨ss, r, l, hcreate, hown, hplan⟩ :=
        issues_createRelated source verb type (dataOf text data) k
      refine ⟨ss, r, l, hask.before (by rw [hbest]; exact hcreate), hown, ?_⟩
      obtain ⟨hstore, hids⟩ := ask_spares hasked
      rcases hplan with rfl | ⟨t, a, filed, logged, ht, ha, hplan⟩
      · exact .nothing _
      · rw [firstThing_congr hstore hids] at ht
        rcases hplan with rfl | ⟨r, b, filed', logged', hr, hb, rfl⟩
        · exact .alone ht ha
        · exact .joined ht ha hr hb

end Graph

def GraphCall.mutates : GraphCall → Bool
  | createThing _ _ _ | updateThing _ _ | deleteThing _ | relate _ _ _ _ _ | unrelate _ _ _
  | fuzzyRelate _ _ _ _ _ _ => true
  | _ => false

/-- A call that changes the graph issues the statements of its plan, and any error is its own unless
the engine refuses one of them. -/
theorem GraphCall.run_issues {call : GraphCall} (hcall : call.mutates = true) (g : Graph) :
    ∃ ss r k, Issues call.run g ss r k ∧ (∀ e, r = .error e → e.IsOwn) ∧ call.Plan g ss := by
  have hreply {α : Type} {m : GraphM α} {ss : List Statement} {r : Except StoreError α} {k : Graph}
      (f : α → GraphReply) (hm : Issues m g ss r k) (hown : ∀ e, r = .error e → e.IsOwn)
      (hplan : call.Plan g ss) :
      ∃ ss q k, Issues (m >>= fun a => pure (f a)) g ss q k ∧ (∀ e, q = .error e → e.IsOwn) ∧
        call.Plan g ss := by
    refine ⟨ss, _, k, hm.map, fun e he => ?_, hplan⟩
    cases r with
    | error x =>
      cases he
      exact hown e rfl
    | ok a => cases he
  cases call with
  | createThing type data id =>
    obtain ⟨ss, r, k, hm, ⟨rfl, e, rfl, he⟩ | ⟨t, rfl, ht, -, a, filed, logged, ha, rfl⟩⟩ :=
      plans_createThing type data id g
    · exact hreply _ hm he.only (.nothing _)
    · exact hreply _ hm nofun (.created ht ha)
  | updateThing id changes =>
    obtain ⟨ss, r, k, hm, hown, hplan⟩ := issues_updateThing id changes g
    exact hreply _ hm hown hplan
  | deleteThing id =>
    obtain ⟨ss, b, k, hm, hplan⟩ := issues_deleteThing id g
    exact hreply _ hm nofun hplan
  | relate source v target cascade data =>
    obtain ⟨ss, r, k, hm, ⟨rfl, e, rfl, he⟩ | ⟨t, rfl, hr, a, filed, logged, ha, rfl⟩⟩ :=
      plans_relate source v target cascade data g
    · exact hreply _ hm he.only (.nothing _)
    · exact hreply _ hm nofun (.related hr ha)
  | unrelate source v target =>
    obtain ⟨ss, b, k, hm, hplan⟩ := issues_unrelate source v target g
    exact hreply _ hm nofun hplan
  | fuzzyRelate source v type text data threshold =>
    obtain ⟨ss, r, k, hm, hown, hplan⟩ := issues_fuzzyRelate source v type text data threshold g
    exact hreply _ hm hown hplan
  | _ => cases hcall

end DocumentGraph
