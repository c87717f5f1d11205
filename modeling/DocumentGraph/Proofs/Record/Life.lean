import DocumentGraph.Proofs.Record.Thing
import Mathlib.Data.List.Induction
set_option autoImplicit false

/-!
# The lives of things

Under one id things are created, updated and deleted. The life of a thing begins with the event that
created it, even if it replaced another one, and goes on as long as all events of its id are
updates. The thing is what these make of it, one after the other.
-/

namespace DocumentGraph

/-- The members that are put over the data of a thing, and what the clock says then. -/
structure ThingChange where
  members : List (String × Json)
  time : Int64

inductive ThingEvent where
  | created (t : Thing)
  | updated (id : String) (change : ThingChange)
  | deleted (id : String)

namespace ThingEvent

def id : ThingEvent → String
  | created t => t.id
  | updated id _ => id
  | deleted id => id

def change? (id : String) : ThingEvent → Option ThingChange
  | updated k c => if k = id then some c else none
  | _ => none

theorem change?_of_ne {id : String} (e : ThingEvent) (h : e.id ≠ id) : e.change? id = none := by
  cases e with
  | updated k c => exact if_neg h
  | _ => rfl

end ThingEvent

/-- A thing as it was created, and its changes since then. -/
structure Life where
  first : Thing
  changes : List ThingChange

namespace Life

def thing (l : Life) : Thing := l.changes.foldl (fun t c => t.changed c.members c.time) l.first

def extended (l : Life) (c : ThingChange) : Life := { l with changes := l.changes ++ [c] }

theorem thing_extended (l : Life) (c : ThingChange) :
    (l.extended c).thing = l.thing.changed c.members c.time := by
  simp only [thing, extended, List.foldl_append, List.foldl_cons, List.foldl_nil]

/-- What has become of the first thing: its id, its type and the time of its creation are kept, the
changes are merged over its data in order, and the version counts them. -/
structure Makes (l : Life) (t : Thing) : Prop where
  id : t.id = l.first.id
  type : t.type = l.first.type
  data : t.data = l.changes.foldl (fun data c => Json.mergeMembers data c.members) l.first.data
  version : l.changes.length < UInt64.size - 1 → t.version.toNat = 1 + l.changes.length
  createdAt : t.createdAt = l.first.createdAt
  ordered : t.createdAt ≤ t.updatedAt

theorem makes_thing {l : Life} (hversion : l.first.version = 1)
    (hordered : l.first.createdAt ≤ l.first.updatedAt) : l.Makes l.thing := by
  obtain ⟨first, changes⟩ := l
  induction changes using List.reverseRecOn with
  | nil => exact ⟨rfl, rfl, rfl, fun _ => congrArg UInt64.toNat hversion, rfl, hordered⟩
  | append_singleton changes c ih =>
    have hext := thing_extended ⟨first, changes⟩ c
    have ih := ih hversion hordered
    rw [extended] at hext
    rw [hext]
    refine ⟨ih.id, ih.type, ?_, fun hlt => ?_, ih.createdAt, ?_⟩
    · rw [List.foldl_append, ← ih.data]
      rfl
    · rw [List.length_append, List.length_singleton] at hlt ⊢
      have hcount : (⟨first, changes⟩ : Life).thing.version.toNat = 1 + changes.length :=
        ih.version (Nat.lt_of_succ_lt hlt)
      rw [Thing.version_changed _ (by omega), hcount, Nat.add_assoc]
    · exact Int64.le_trans ih.ordered (Thing.updatedAt_le_changed _ _ _)

end Life

/-- The life began with the last event of the id that is no update, and its changes are those of the
updates after it. -/
def Lives (id : String) (events : List ThingEvent) (l : Life) : Prop :=
  ∃ before after, events = before ++ .created l.first :: after ∧ l.first.id = id ∧
    (∀ e ∈ after, e.id = id → ∃ c, e = .updated id c) ∧
      l.changes = after.filterMap (·.change? id)

namespace ThingEvent

def after (id : String) : ThingEvent → Option Life → Option Life
  | created t, l => if t.id = id then some ⟨t, []⟩ else l
  | updated k c, l => if k = id then l.map (·.extended c) else l
  | deleted k, l => if k = id then none else l

theorem after_of_ne {id : String} {e : ThingEvent} (h : e.id ≠ id) (l : Option Life) :
    e.after id l = l := by
  cases e <;> exact if_neg h

end ThingEvent

def lifeOf (id : String) (events : List ThingEvent) : Option Life :=
  events.foldl (fun l e => e.after id l) none

variable {id : String} {events : List ThingEvent} {e : ThingEvent} {l : Life}

theorem lifeOf_snoc (id : String) (events : List ThingEvent) (e : ThingEvent) :
    lifeOf id (events ++ [e]) = e.after id (lifeOf id events) := by
  rw [lifeOf, List.foldl_append]
  rfl

theorem Lives.snoc (h : Lives id events l) (he : e.id = id → ∃ c, e = .updated id c) :
    Lives id (events ++ [e]) { l with changes := l.changes ++ (e.change? id).toList } := by
  obtain ⟨before, after, rfl, hid, hafter, hchanges⟩ := h
  refine ⟨before, after ++ [e], by simp, hid, ?_, ?_⟩
  · exact List.forall_mem_append.mpr ⟨hafter, List.forall_mem_singleton.mpr he⟩
  · rw [List.filterMap_append, ← hchanges]
    cases h : e.change? id <;> simp [h]

theorem Lives.snoc_of_ne (h : Lives id events l) (he : e.id ≠ id) : Lives id (events ++ [e]) l := by
  have hsnoc := h.snoc (e := e) fun heq => absurd heq he
  rw [e.change?_of_ne he, Option.toList_none, List.append_nil] at hsnoc
  exact hsnoc

theorem foldl_after {after : List ThingEvent} (h : ∀ e ∈ after, e.id = id → ∃ c, e = .updated id c)
    (l : Life) :
    after.foldl (fun l e => e.after id l) (some l) =
      some { l with changes := l.changes ++ after.filterMap (·.change? id) } := by
  induction after generalizing l with
  | nil => simp
  | cons e rest ih =>
    obtain ⟨he, hrest⟩ := List.forall_mem_cons.mp h
    rw [List.foldl_cons]
    by_cases hid : e.id = id
    · obtain ⟨c, rfl⟩ := he hid
      have hafter : (ThingEvent.updated id c).after id (some l) = some (l.extended c) := if_pos rfl
      rw [hafter, ih hrest]
      simp [Life.extended, ThingEvent.change?]
    · rw [ThingEvent.after_of_ne hid, ih hrest, List.filterMap_cons_none (e.change?_of_ne hid)]

theorem lifeOf_eq_some : lifeOf id events = some l ↔ Lives id events l := by
  constructor
  · intro h
    induction events using List.reverseRecOn generalizing l with
    | nil => cases h
    | append_singleton events e ih =>
      rw [lifeOf_snoc] at h
      by_cases hid : e.id = id
      · cases e with
        | created t =>
          rw [ThingEvent.after, if_pos (show t.id = id from hid)] at h
          cases h
          exact ⟨events, [], rfl, hid, List.forall_mem_nil _, rfl⟩
        | updated k c =>
          obtain rfl : k = id := hid
          rw [ThingEvent.after, if_pos rfl] at h
          obtain ⟨earlier, hearlier, rfl⟩ := Option.map_eq_some_iff.mp h
          have hsnoc := (ih hearlier).snoc (e := .updated k c) fun _ => ⟨c, rfl⟩
          rw [ThingEvent.change?, if_pos rfl] at hsnoc
          exact hsnoc
        | deleted k =>
          rw [ThingEvent.after, if_pos (show k = id from hid)] at h
          cases h
      · rw [ThingEvent.after_of_ne hid] at h
        exact (ih h).snoc_of_ne hid
  · rintro ⟨before, after, rfl, hid, hafter, hchanges⟩
    have hfirst (x : Option Life) :
        (ThingEvent.created l.first).after id x = some ⟨l.first, []⟩ := if_pos hid
    rw [lifeOf, List.foldl_append, List.foldl_cons, hfirst, foldl_after hafter, List.nil_append,
      ← hchanges]

theorem lifeOf_eq_none : lifeOf id events = none ↔ ∀ l, ¬ Lives id events l := by
  simp only [← lifeOf_eq_some, Option.eq_none_iff_forall_not_mem, Option.mem_def]

end DocumentGraph
