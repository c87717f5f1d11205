import DocumentGraph.Proofs.Graph.Calls
import DocumentGraph.Proofs.Store.Course
set_option autoImplicit false

/-!
# What operations on a graph are made of

An operation on a graph makes ids and calls the collections of its store; else it only looks at the
clock and changes what the graph itself remembers. However it ends, what it did is a trail of such
deeds from the graph before it to the graph after it.
-/

namespace DocumentGraph

open Operation

inductive Deed where
  | makes (id : String)
  | calls (step : CollectionStep)

namespace Deed

def Happens (g : Graph) (deed : Deed) (h : Graph) : Prop :=
  match deed with
  | makes id => ∃ name, Graph.newId name g = (.ok id, h)
  | calls step => step.Happens g.store h.store ∧ h.ids = g.ids

def id? : Deed → Option String
  | makes id => some id
  | calls _ => none

def step? : Deed → Option CollectionStep
  | makes _ => none
  | calls step => some step

def ids (deeds : List Deed) : List String := deeds.filterMap id?

def steps (deeds : List Deed) : List CollectionStep := deeds.filterMap step?

theorem ids_append (deeds more : List Deed) : ids (deeds ++ more) = ids deeds ++ ids more :=
  List.filterMap_append

theorem steps_append (deeds more : List Deed) :
    steps (deeds ++ more) = steps deeds ++ steps more :=
  List.filterMap_append

end Deed

def Store.Ticks (s t : Store) : Prop := t = { s with clock := t.clock }

namespace Graph

structure Idles (g h : Graph) : Prop where
  store : g.store.Ticks h.store
  reading : h.store.clock.reading = g.store.clock.reading
  ids : h.ids = g.ids

theorem Idles.of_eq {g h : Graph} (hstore : h.store = g.store) (hids : h.ids = g.ids) : g.Idles h :=
  ⟨by rw [Store.Ticks, hstore], by rw [hstore], hids⟩

theorem Idles.refl (g : Graph) : g.Idles g := .of_eq rfl rfl

abbrev Does (g : Graph) (deeds : List Deed) (h : Graph) : Prop := Trail Deed.Happens Idles g deeds h

variable {α β : Type} {g h k : Graph} {deeds : List Deed}

theorem Does.course (hdoes : g.Does deeds h) :
    g.store.Course Store.Ticks (Deed.steps deeds) h.store := by
  induction hdoes with
  | nil => exact .nil
  | @event deeds deed g₁ h init step ih =>
    rw [Deed.steps_append]
    cases deed with
    | makes id =>
      obtain ⟨name, hnew⟩ := step
      rw [newId_apply] at hnew
      cases hnew
      rw [show Deed.steps [.makes _] = [] from rfl, List.append_nil]
      exact .amid ih rfl
    | calls step' => exact .event ih step.1
  | amid _ move ih => exact .amid ih move.store

variable {m : GraphM α} {f : α → GraphM β}

abbrev Idle (m : GraphM α) : Prop := Steps Idles m

theorem idle_of_same (hstore : ∀ g, (m g).2.store = g.store) (hids : ∀ g, (m g).2.ids = g.ids) :
    Idle m := by
  intro g r h hx
  obtain rfl : (m g).2 = h := congrArg Prod.snd hx
  exact .of_eq (hstore g) (hids g)

theorem idle_check (r : Except StoreError α) : Idle (check r) :=
  idle_of_same (fun _ => rfl) fun _ => rfl

theorem idle_now : Idle now := by
  intro g r h hx
  cases hx
  exact ⟨rfl, rfl, rfl⟩

theorem idle_parsed (filter : Json) : Idle (parsed filter) :=
  idle_of_same (fun _ => rfl) fun _ => rfl

theorem idle_ask (type text : String) (threshold : Option Binary64) :
    Idle (ask type text threshold) := by
  intro g r h hx
  unfold ask at hx
  split at hx
  · cases hx
    exact .refl g
  · dsimp only at hx
    split at hx <;>
    · cases hx
      exact .of_eq rfl rfl

/-- However the operation ends, it has done deeds as told. -/
def Undertakes (m : GraphM α) (g : Graph) (P : Except StoreError α → List Deed → Prop) : Prop :=
  ∀ r h, m g = (r, h) → ∃ deeds, g.Does deeds h ∧ P r deeds

variable {P : Except StoreError α → List Deed → Prop} {R : Except StoreError β → List Deed → Prop}

theorem Undertakes.mono {Q : Except StoreError α → List Deed → Prop} (hm : Undertakes m g P)
    (hQ : ∀ r deeds, P r deeds → Q r deeds) : Undertakes m g Q := by
  intro r h hx
  obtain ⟨deeds, hdoes, hP⟩ := hm r h hx
  exact ⟨deeds, hdoes, hQ r deeds hP⟩

theorem undertakes_pure {a : α} (h : P (.ok a) []) : Undertakes (pure a) g P := by
  intro r k hx
  cases hx
  exact ⟨[], .nil, h⟩

theorem Undertakes.bind (hm : Undertakes m g P)
    (herror : ∀ e deeds, P (.error e) deeds → R (.error e) deeds)
    (hok : ∀ a k deeds, m g = (.ok a, k) → P (.ok a) deeds →
      Undertakes (f a) k fun r more => R r (deeds ++ more)) : Undertakes (m >>= f) g R := by
  intro r h hx
  rw [bind_apply] at hx
  rcases hm' : m g with ⟨e | a, k⟩
  · rw [hm'] at hx
    cases hx
    obtain ⟨deeds, hdoes, hP⟩ := hm _ _ hm'
    exact ⟨deeds, hdoes, herror e deeds hP⟩
  · rw [hm'] at hx
    obtain ⟨deeds, hdoes, hP⟩ := hm _ _ hm'
    obtain ⟨more, hmore, hR⟩ := hok a k deeds hm' hP r h hx
    exact ⟨deeds ++ more, hdoes.trans hmore, hR⟩

theorem Undertakes.after (hm : Idle m) (herror : ∀ e, R (.error e) [])
    (hok : ∀ a k, m g = (.ok a, k) → Undertakes (f a) k R) : Undertakes (m >>= f) g R := by
  have hidle : Undertakes m g fun _ deeds => deeds = [] := fun r h hx =>
    ⟨[], .idle (hm g r h hx), rfl⟩
  refine hidle.bind ?_ ?_
  · rintro e deeds rfl
    exact herror e
  · rintro a k deeds hx rfl
    exact hok a k hx

theorem undertakes_newId (name : String) (g : Graph) :
    Undertakes (newId name) g fun r deeds => ∃ id, r = .ok id ∧ deeds = [.makes id] := by
  intro r h hx
  have hnew := hx
  rw [newId_apply] at hx
  cases hx
  have hdeed : Deed.Happens g (.makes _) _ := ⟨name, hnew⟩
  exact ⟨_, .single hdeed, _, rfl, rfl⟩

/-- What a call gives something made of is that one call. -/
theorem undertakes_call {c : Collection} {call : CollectionCall} {x : StoreM α} {made : α → Reply}
    (hrun : call.run c = x >>= fun a => pure (made a)) (g : Graph) :
    Undertakes (onStore x) g fun r deeds =>
      deeds = [.calls ⟨g.store, c, call, r.map made⟩] := by
  intro r h hx
  obtain ⟨t, hstore, rfl⟩ := onStore_eq hx
  have hcall : call.run c g.store = (r.map made, t) := by
    rw [hrun, bind_apply, hstore]
    cases r <;> rfl
  have hdeed : Deed.Happens g (.calls ⟨g.store, c, call, r.map made⟩) { g with store := t } :=
    ⟨⟨rfl, hcall⟩, rfl⟩
  exact ⟨_, .single hdeed, rfl⟩

theorem onStore_bind (x : StoreM α) (f : α → StoreM β) :
    onStore (x >>= f) = onStore x >>= fun a => onStore (f a) := by
  funext g
  rw [bind_apply, onStore, onStore, bind_apply]
  rcases x g.store with ⟨e | a, t⟩ <;> rfl

abbrev Task := Collection × CollectionCall.Kind

/-- After a call that failed there is none. If the operation ends well then all calls did, and they
are for tasks as told. -/
def Meets (T : α → List Task → Prop) : Except StoreError α → List CollectionStep → Prop
  | .ok a, steps => (∀ step ∈ steps, step.isFailed = false) ∧
    T a (steps.map fun step => (step.collection, step.call.kind))
  | .error _, steps => steps.Pairwise fun step _ => step.isFailed = false

def Performs (m : GraphM α) (g : Graph) (T : α → List Task → Prop) : Prop :=
  Undertakes m g fun r deeds => Meets T r (Deed.steps deeds)

variable {T : α → List Task → Prop} {U : β → List Task → Prop} {tasks : List Task}

theorem Performs.mono {S : α → List Task → Prop} (hm : Performs m g T)
    (hS : ∀ a tasks, T a tasks → S a tasks) : Performs m g S := by
  refine Undertakes.mono hm fun r deeds h => ?_
  cases r with
  | ok a => exact ⟨h.1, hS a _ h.2⟩
  | error e => exact h

theorem performs_pure {a : α} (h : T a []) : Performs (pure a) g T :=
  undertakes_pure ⟨List.forall_mem_nil _, h⟩

theorem Performs.after (hm : Idle m) (hok : ∀ a k, m g = (.ok a, k) → Performs (f a) k U) :
    Performs (m >>= f) g U :=
  Undertakes.after hm (fun _ => .nil) hok

theorem Performs.bind (hm : Performs m g fun _ done => done = tasks)
    (hok : ∀ a k, m g = (.ok a, k) → Performs (f a) k fun b more => U b (tasks ++ more)) :
    Performs (m >>= f) g U := by
  refine Undertakes.bind hm (fun _ _ h => h) fun a k deeds hx hdone => ?_
  refine Undertakes.mono (hok a k hx) fun r more hmore => ?_
  rw [Deed.steps_append]
  cases r with
  | ok b =>
    refine ⟨List.forall_mem_append.mpr ⟨hdone.1, hmore.1⟩, ?_⟩
    rw [List.map_append, hdone.2]
    exact hmore.2
  | error e =>
    have hdeeds : (Deed.steps deeds).Pairwise fun step _ => step.isFailed = false :=
      List.pairwise_of_forall_mem_list fun step hmem _ _ => hdone.1 step hmem
    exact List.pairwise_append.mpr ⟨hdeeds, hmore, fun step hmem _ _ => hdone.1 step hmem⟩

theorem Performs.map {made : α → β} (hm : Performs m g T) (hU : ∀ a tasks, T a tasks → U (made a) tasks) :
    Performs (m >>= fun a => pure (made a)) g U := by
  refine Undertakes.bind hm (fun _ _ h => h) fun a k deeds _ hdone => undertakes_pure ?_
  rw [List.append_nil]
  exact ⟨hdone.1, hU a _ hdone.2⟩

theorem performs_newId (name : String) (g : Graph) :
    Performs (newId name) g fun _ done => done = [] := by
  refine (undertakes_newId name g).mono ?_
  rintro r deeds ⟨id, rfl, rfl⟩
  exact ⟨List.forall_mem_nil _, rfl⟩

theorem performs_call {c : Collection} {call : CollectionCall} {x : StoreM α} {made : α → Reply}
    (hrun : call.run c = x >>= fun a => pure (made a)) (g : Graph) :
    Performs (onStore x) g fun _ done => done = [(c, call.kind)] := by
  refine (undertakes_call hrun g).mono ?_
  rintro r deeds rfl
  cases r with
  | ok a => exact ⟨List.forall_mem_singleton.mpr rfl, rfl⟩
  | error e => exact List.pairwise_singleton _ _

end Graph

end DocumentGraph
