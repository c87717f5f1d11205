import DocumentGraph.Proofs.Graph.AuditLog
import DocumentGraph.Proofs.Store.Rejection
set_option autoImplicit false

/-!
# Rejected calls on graphs

The operations on things, edges, nouns and verbs check all arguments before they write, and what they
log after it has an id that is never empty, so one that fails has written nothing unless the engine
refused a statement. Relating by similarity is made of two of them and is treated apart.
-/

namespace DocumentGraph

open Identifier Operation DocumentGraph.Graph

namespace Graph

variable {α β : Type} {m : GraphM α} {f : α → GraphM β} {g h : Graph}

theorem Reads.cautious (hm : Reads m) : Cautious entries m :=
  Steps.cautious fun g r h hx => (hm g r h hx).2

theorem cautious_onStore {x : StoreM α} (hx : Cautious Store.entries x) :
    Cautious entries (onStore x) := by
  intro g e h hg he
  obtain ⟨t, hs, rfl⟩ := onStore_eq hg
  exact hx _ e t hs he

/-- Unless the engine refuses it, the operation ends well with a value as told. -/
def Assured (m : GraphM α) (P : α → Prop) : Prop :=
  ∀ g r h, m g = (r, h) → g.store.Keeps h.store ∧
    ((∃ a, r = .ok a ∧ P a) ∨ ¬ g.store.Ready ∧ ∃ d, r = .error (.storage d))

variable {P : α → Prop} {Q : β → Prop}

theorem Assured.storage_of_error {e : StoreError} (hm : Assured m P) (hx : m g = (.error e, h)) :
    ∃ d, e = .storage d := by
  obtain ⟨-, ⟨a, ha, -⟩ | ⟨-, d, hd⟩⟩ := hm g _ h hx
  · cases ha
  · cases hd
    exact ⟨d, rfl⟩

theorem Assured.sure (hm : Assured m P) : Sure m := by
  intro g e h hx
  obtain ⟨d, rfl⟩ := hm.storage_of_error hx
  rfl

theorem Assured.of_ok {a : α} (hm : Assured m P) (hx : m g = (.ok a, h)) : P a := by
  obtain ⟨-, ⟨b, hb, hP⟩ | ⟨-, d, hd⟩⟩ := hm g _ h hx
  · cases hb
    exact hP
  · cases hd

theorem Assured.of_ready (hm : Assured m P) (hg : g.store.Ready) :
    ∃ a h, m g = (.ok a, h) ∧ h.store.Ready ∧ P a := by
  obtain ⟨r, h, hx⟩ : ∃ r h, m g = (r, h) := ⟨_, _, rfl⟩
  obtain ⟨hk, ⟨a, rfl, ha⟩ | ⟨hnot, -⟩⟩ := hm g r h hx
  · exact ⟨a, h, hx, hk.ready hg, ha⟩
  · exact absurd hg hnot

theorem Assured.bind (hm : Assured m P) (hf : ∀ a, P a → Assured (f a) Q) :
    Assured (m >>= f) Q := by
  intro g r k hx
  -- The first operation is run once, and its outcome decides whether the second is run.
  obtain ⟨q, h, hmg⟩ : ∃ q h, m g = (q, h) := ⟨_, _, rfl⟩
  obtain ⟨hk, ⟨a, rfl, ha⟩ | ⟨hnot, d, rfl⟩⟩ := hm g q h hmg
  · rw [bind_of_ok hmg] at hx
    obtain ⟨hk', hr⟩ := hf a ha h r k hx
    exact ⟨hk.trans hk', hr.imp id fun hr => ⟨fun hg => hr.1 (hk.ready hg), hr.2⟩⟩
  · rw [bind_of_error hmg] at hx
    cases hx
    exact ⟨hk, .inr ⟨hnot, d, rfl⟩⟩

theorem assured_pure {a : α} (h : P a) : Assured (pure a) P := by
  intro g r k hx
  cases hx
  exact ⟨.refl _, .inl ⟨a, rfl, h⟩⟩

theorem assured_check {r : Except StoreError α} {a : α} (hr : r = .ok a) :
    Assured (check r) fun _ => True := by
  intro g q k hx
  cases hx
  exact ⟨.refl _, .inl ⟨a, hr, trivial⟩⟩

theorem assured_onStore {x : StoreM α} (hm : Store.Assured x) :
    Assured (onStore x) fun _ => True := by
  intro g r h hg
  obtain ⟨t, hs, rfl⟩ := onStore_eq hg
  obtain ⟨a, es, hy⟩ := hm g.store
  rcases hy with ⟨u, hu, hk, -⟩ | ⟨hnot, d, u, hu, hk, -⟩
  · rw [hs] at hu
    cases hu
    exact ⟨hk, .inl ⟨a, rfl, trivial⟩⟩
  · rw [hs] at hu
    cases hu
    exact ⟨hk, .inr ⟨hnot, d, rfl⟩⟩

theorem assured_modify {f : Graph → Graph} (hstore : ∀ g, (f g).store = g.store) :
    Assured (modify f) fun _ => True := by
  intro g r h hx
  cases hx
  exact ⟨(hstore g).symm ▸ .refl _, .inl ⟨(), rfl, trivial⟩⟩

theorem assured_rememberNoun (n : Noun) : Assured (rememberNoun n) fun _ => True :=
  assured_modify fun _ => rfl

theorem assured_rememberVerb (v : Verb) : Assured (rememberVerb v) fun _ => True :=
  assured_modify fun _ => rfl

theorem assured_now : Assured now fun _ => True :=
  assured_onStore fun s => ⟨_, _, .inl (Store.ends_readClock s)⟩

theorem assured_newId (name : String) : Assured (newId name) (· ≠ "") := by
  intro g r h hx
  have hk := (reads_newId name g r h hx).1.keeps
  rw [newId_apply] at hx
  cases hx
  exact ⟨hk, .inl ⟨_, rfl, make_ne_empty _ _⟩⟩

theorem assured_putRecord (c : Collection) {ρ : Type} [Record ρ] {r : ρ} (h : Record.key r ≠ "") :
    Assured (onStore (c.putRecord r)) fun _ => True :=
  assured_onStore (c.assured_putRecord h)

theorem assured_log (entry : ActionEntry) : Assured (log entry) fun _ => True :=
  (assured_newId "act").bind fun id hid => assured_now.bind fun time _ =>
    (assured_putRecord actionCollection (r := (⟨entry, id, time⟩ : Action)) hid).bind fun _ _ =>
      assured_pure trivial

theorem assured_createThing {type : String} {data : Json} (htype : type ≠ "")
    (hdata : data.isObject = true) (given : Option String) (hgiven : ∀ id, given = some id → id ≠ "") :
    Assured (createThing type data given) fun _ => True := by
  have hempty : ¬ type.isEmpty = true := by simpa using htype
  have hwrite (id : String) (hid : id ≠ "") : Assured (do
      let t := Thing.first id type (membersOf data) (← now)
      onStore (thingCollection.putRecord t)
      let _ ← log (.about "created" t.id)
      return t) fun _ => True :=
    assured_now.bind fun time _ => (assured_putRecord thingCollection
      (r := Thing.first id type (membersOf data) time) hid).bind fun _ _ =>
        (assured_log _).bind fun _ _ => assured_pure trivial
  refine (assured_check (validDocument_eq_ok.mpr hdata)).bind fun _ _ =>
    (assured_check (if_neg hempty)).bind fun _ _ => ?_
  cases given with
  | some id =>
    have hid := hgiven id rfl
    exact (assured_check (validId_eq_ok.mpr hid)).bind fun _ _ => hwrite id hid
  | none => exact (assured_newId _).bind hwrite

theorem assured_deleteThing (id : String) : Assured (deleteThing id) fun _ => True := by
  refine (assured_onStore (Collection.assured_delete _ id)).bind fun there _ => ?_
  cases there with
  | true =>
    have hedges := relationshipCollection.assured_deleteWhere
      (show (Relationship.touching id).validated = .ok () from rfl)
    exact (assured_onStore hedges).bind fun _ _ => (assured_log _).bind fun _ _ =>
      assured_pure trivial
  | false => exact assured_pure trivial

theorem assured_relate {source verb target : String} (hs : source ≠ "") (hv : verb ≠ "")
    (ht : target ≠ "") (cascade : Cascade) (data : Option Json) :
    Assured (relate source verb target cascade data) fun _ => True := by
  refine (assured_check (validId_eq_ok.mpr hs)).bind fun _ _ =>
    (assured_check (validId_eq_ok.mpr hv)).bind fun _ _ =>
      (assured_check (validId_eq_ok.mpr ht)).bind fun _ _ => ?_
  refine (assured_newId _).bind fun id hid => assured_now.bind fun time _ => ?_
  exact (assured_putRecord relationshipCollection
    (r := (⟨id, source, verb, target, cascade, data, time⟩ : Relationship)) hid).bind fun _ _ =>
      (assured_log _).bind fun _ _ => assured_pure trivial

theorem assured_unrelate (source verb target : String) :
    Assured (unrelate source verb target) fun _ => True := by
  have hedges := relationshipCollection.assured_deleteWhere
    (show (Relationship.between source verb target).validated = .ok () from rfl)
  exact (assured_onStore hedges).bind fun _ _ => (assured_log _).bind fun _ _ =>
    assured_pure trivial

/-- If it fails, the operation has changed no entry, unless the engine refuses a statement. -/
def Atomic (m : GraphM α) : Prop :=
  ∀ g e h, m g = (.error e, h) → (∀ d, e ≠ .storage d) → h.entries = g.entries

theorem Atomic.cautious (hm : Atomic m) : Cautious entries m := by
  intro g e h hx he
  refine hm g e h hx ?_
  rintro d rfl
  cases he

theorem Assured.atomic (hm : Assured m P) : Atomic m := by
  intro g e h hx hcalm
  obtain ⟨d, rfl⟩ := hm.storage_of_error hx
  exact absurd rfl (hcalm d)

theorem Reads.atomic (hm : Reads m) : Atomic m := fun g _ h hx _ => (hm g _ h hx).2

theorem Reads.bind_atomic (hm : Reads m) (hf : ∀ a, Atomic (f a)) : Atomic (m >>= f) := by
  intro g e h hx hcalm
  rcases error_of_bind hx with hx | ⟨a, k, hk, hx⟩
  · exact (hm g _ h hx).2
  · exact (hf a k e h hx hcalm).trans (hm g _ k hk).2

theorem Atomic.bind_assured (hm : Atomic m) (hf : ∀ a, Assured (f a) Q) : Atomic (m >>= f) := by
  intro g e h hx hcalm
  rcases error_of_bind hx with hx | ⟨a, k, -, hx⟩
  · exact hm g e h hx hcalm
  · obtain ⟨d, rfl⟩ := (hf a).storage_of_error hx
    exact absurd rfl (hcalm d)

theorem Atomic.map (hm : Atomic m) (f : α → β) : Atomic (m >>= fun a => pure (f a)) :=
  hm.bind_assured fun _ => assured_pure (P := fun _ => True) trivial

theorem entries_of_putRecord_error {c : Collection} {ρ : Type} [Record ρ] {r : ρ} {e : StoreError}
    (hx : onStore (c.putRecord r) g = (.error e, h)) : h.entries = g.entries := by
  obtain ⟨t, hput, rfl⟩ := onStore_eq hx
  cases hw : writable (Record.key r) (Record.document r) with
  | error d =>
    rw [Collection.putRecord, c.put_rejected g.store hw] at hput
    cases hput
    rfl
  | ok u =>
    obtain ⟨-, ⟨hr, -⟩ | ⟨-, he⟩⟩ := (c.put_yields g.store hw).of_error hput
    · cases hr
    · exact he

theorem atomic_putRecord (c : Collection) {ρ : Type} [Record ρ] (r : ρ) :
    Atomic (onStore (c.putRecord r)) :=
  fun _ _ _ hx _ => entries_of_putRecord_error hx

theorem atomic_putLogged {c : Collection} {ρ : Type} [Record ρ] (r : ρ) (entry : ActionEntry)
    (a : α) : Atomic (do
      onStore (c.putRecord r)
      let _ ← log entry
      return a) := by
  have hrest : Assured (do
      let _ ← log entry
      return a) fun _ => True :=
    (assured_log entry).bind fun _ _ => assured_pure trivial
  exact (atomic_putRecord c r).bind_assured fun _ => hrest

theorem atomic_createThing (type : String) (data : Json) (id : Option String) :
    Atomic (createThing type data id) := by
  have hwrite (id : String) : Atomic (do
      let t := Thing.first id type (membersOf data) (← now)
      onStore (thingCollection.putRecord t)
      let _ ← log (.about "created" t.id)
      return t) :=
    reads_now.bind_atomic fun _ => atomic_putLogged _ _ _
  refine (reads_check _).bind_atomic fun _ => (reads_check _).bind_atomic fun _ => ?_
  cases id with
  | some id => exact (reads_check _).bind_atomic fun _ => hwrite id
  | none => exact (reads_newId _).bind_atomic fun id => hwrite id

theorem atomic_updateThing (id : String) (changes : Json) : Atomic (updateThing id changes) := by
  refine (reads_check _).bind_atomic fun _ => (reads_thing id).bind_atomic fun found => ?_
  cases found with
  | none => exact (reads_pure _).atomic
  | some old => exact reads_now.bind_atomic fun _ => atomic_putLogged _ _ _

theorem atomic_relate (source verb target : String) (cascade : Cascade) (data : Option Json) :
    Atomic (relate source verb target cascade data) := by
  refine (reads_check _).bind_atomic fun _ => (reads_check _).bind_atomic fun _ =>
    (reads_check _).bind_atomic fun _ => ?_
  exact (reads_newId _).bind_atomic fun _ => reads_now.bind_atomic fun _ => atomic_putLogged _ _ _

theorem atomic_defineNoun (key : String) (d : NounDefinition) : Atomic (defineNoun key d) := by
  have hwrite (n : Noun) : Atomic (do
      onStore (nounCollection.putRecord n)
      rememberNoun n
      return n) :=
    (atomic_putRecord nounCollection n).bind_assured fun _ =>
      (assured_rememberNoun n).bind fun _ _ => assured_pure (P := fun _ => True) trivial
  refine (reads_check _).bind_atomic fun _ => (reads_noun key).bind_atomic fun old => ?_
  cases old with
  | some n => exact hwrite _
  | none => exact reads_now.bind_atomic fun _ => hwrite _

theorem atomic_defineVerb (key : String) (d : VerbDefinition) : Atomic (defineVerb key d) :=
  (reads_check _).bind_atomic fun _ => (atomic_putRecord verbCollection _).bind_assured fun _ =>
    (assured_rememberVerb _).bind fun _ _ => assured_pure (P := fun _ => True) trivial

end Graph

/-- A call that fails has changed no entry, if the engine has refused no statement, unless the call
relates by similarity or is on another collection. -/
theorem GraphCall.run_atomic {call : GraphCall} (hfuzzy : call.isFuzzy = false)
    (hown : call.isElsewhere = false) : Atomic call.run := by
  cases call with
  | createThing type data id => exact (atomic_createThing type data id).map _
  | updateThing id changes => exact (atomic_updateThing id changes).map _
  | deleteThing id => exact (assured_deleteThing id).atomic.map _
  | log entry => exact (assured_log entry).atomic.map _
  | relate source v target cascade data =>
    exact (atomic_relate source v target cascade data).map _
  | unrelate source v target => exact (assured_unrelate source v target).atomic.map _
  | fuzzyRelate source v type text data threshold => cases hfuzzy
  | defineNoun key d => exact (atomic_defineNoun key d).map _
  | defineVerb key d => exact (atomic_defineVerb key d).map _
  | elsewhere name outside call => cases hown
  | _ => exact (run_reads rfl).atomic

theorem GraphCall.rows_of_error {name : String} {call : GraphCall} {g h : Graph} {e : StoreError}
    (hname : name ∈ collectionNames) (hfuzzy : call.isFuzzy = false)
    (hx : call.run g = (.error e, h)) (hcalm : ∀ d, e ≠ .storage d) :
    h.rows name = g.rows name := by
  cases call with
  | elsewhere other outside call => exact (run_spares (not_mem_writes_elsewhere hname) g _ h hx).2
  | _ => exact congrArg (Entries.rows name) (run_atomic hfuzzy rfl g e h hx hcalm)

theorem GraphCall.run_cautious {call : GraphCall} (hfuzzy : call.isFuzzy = false) :
    Cautious Graph.entries call.run := by
  cases call with
  | elsewhere name outside call =>
    exact (cautious_onStore (call.run_cautious ⟨name⟩)).before fun _ => sure_pure _
  | _ => exact (run_atomic hfuzzy rfl).cautious

end DocumentGraph
