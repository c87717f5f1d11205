import DocumentGraph.Proofs.Store.Rejection
set_option autoImplicit false

/-!
# Courses of calls

A trail is a list of events one after the other, each a step of the state; between two events the
state may move on its own. A course is a trail of calls on the collections of one store, each with
the store before it and with its outcome. A call is of one of four kinds.
-/

namespace DocumentGraph

/-- Events one after the other, with what may happen amid them. -/
inductive Trail {σ ε : Type*} (Step : σ → ε → σ → Prop) (Amid : σ → σ → Prop) (start : σ) :
    List ε → σ → Prop where
  | nil : Trail Step Amid start [] start
  | event {events : List ε} {e : ε} {s t : σ} (init : Trail Step Amid start events s)
      (step : Step s e t) : Trail Step Amid start (events ++ [e]) t
  | amid {events : List ε} {s t : σ} (init : Trail Step Amid start events s) (move : Amid s t) :
      Trail Step Amid start events t

namespace Trail

variable {σ ε : Type*} {Step : σ → ε → σ → Prop} {Amid Among : σ → σ → Prop} {s t u : σ} {e : ε}
  {events more : List ε}

theorem single (h : Step s e t) : Trail Step Amid s [e] t := .event .nil h

theorem idle (h : Amid s t) : Trail Step Amid s [] t := .amid .nil h

theorem trans (h : Trail Step Amid s events t) (k : Trail Step Amid t more u) :
    Trail Step Amid s (events ++ more) u := by
  induction k with
  | nil => rwa [List.append_nil]
  | event _ step ih =>
    rw [← List.append_assoc]
    exact .event ih step
  | amid _ move ih => exact .amid ih move

theorem mono (h : Trail Step Amid s events t) (hmove : ∀ {s t}, Amid s t → Among s t) :
    Trail Step Among s events t := by
  induction h with
  | nil => exact .nil
  | event _ step ih => exact .event ih step
  | amid _ move ih => exact .amid ih (hmove move)

theorem split {before after : List ε} (h : Trail Step Amid s events t)
    (heq : events = before ++ e :: after) :
    ∃ u v, Trail Step Amid s before u ∧ Step u e v ∧ Trail Step Amid v after t := by
  induction h generalizing after with
  | nil => simp at heq
  | event init step ih =>
    rcases List.eq_nil_or_concat' after with rfl | ⟨rest, last, rfl⟩
    · obtain ⟨rfl, hlast⟩ := List.append_inj' heq rfl
      obtain ⟨rfl, -⟩ := List.cons.inj hlast
      exact ⟨_, _, init, step, .nil⟩
    · rw [← List.cons_append, ← List.append_assoc] at heq
      obtain ⟨rfl, hlast⟩ := List.append_inj' heq rfl
      obtain ⟨rfl, -⟩ := List.cons.inj hlast
      obtain ⟨u, v, hbefore, hstep, hafter⟩ := ih rfl
      exact ⟨u, v, hbefore, hstep, .event hafter step⟩
  | amid _ move ih =>
    obtain ⟨u, v, hbefore, hstep, hafter⟩ := ih heq
    exact ⟨u, v, hbefore, hstep, .amid hafter move⟩

end Trail

def StoreError.isRefusal : StoreError → Bool
  | .storage _ => true
  | _ => false

theorem StoreError.isRefusal_of_isRejection {e : StoreError} (h : e.isRejection = true) :
    e.isRefusal = false := by
  cases e with
  | storage d => cases h
  | _ => rfl

namespace CollectionCall

inductive Kind where
  | reading
  | writing
  | deleting
  | querying
deriving DecidableEq

def kind : CollectionCall → Kind
  | put _ _ => .writing
  | get _ => .reading
  | getDocument _ => .reading
  | has _ => .reading
  | delete _ => .deleting
  | findDocuments _ _ => .querying
  | findWhere _ _ => .querying
  | find _ _ => .querying
  | list _ => .querying
  | countWhere _ => .querying
  | count _ => .querying
  | keys => .querying
  | deleteWhere _ => .deleting
  | clear => .deleting

/-- How many documents or ids the reply hands out. A flag that says a document is there counts as
one. -/
def handedOut : CollectionCall → Reply → Nat
  | get _, .value found => found.toList.length
  | getDocument _, .document found => found.toList.length
  | has _, .flag found => found.toNat
  | findDocuments _ _, .documents ds => ds.length
  | findWhere _ _, .values ds => ds.length
  | find _ _, .values ds => ds.length
  | list _, .values ds => ds.length
  | keys, .names ids => ids.length
  | _, _ => 0

end CollectionCall

structure CollectionStep where
  before : Store
  collection : Collection
  call : CollectionCall
  outcome : Except StoreError Reply

namespace CollectionStep

def Happens (s : Store) (step : CollectionStep) (t : Store) : Prop :=
  step.before = s ∧ step.call.run step.collection s = (step.outcome, t)

def of (s : Store) (c : Collection) (call : CollectionCall) : CollectionStep :=
  ⟨s, c, call, (call.run c s).1⟩

theorem happens_of (s : Store) (c : Collection) (call : CollectionCall) :
    (of s c call).Happens s (call.run c s).2 := ⟨rfl, rfl⟩

def did (kind : CollectionCall.Kind) (step : CollectionStep) : Bool :=
  step.outcome.isOk && decide (step.call.kind = kind)

def handedOut (step : CollectionStep) : Nat :=
  match step.outcome with
  | .ok reply => step.call.handedOut reply
  | .error _ => 0

def isFailed (step : CollectionStep) : Bool := !step.outcome.isOk

def isRefused (step : CollectionStep) : Bool :=
  match step.outcome with
  | .ok _ => false
  | .error e => e.isRefusal

end CollectionStep

abbrev Store.Course (Amid : Store → Store → Prop) (s : Store) (steps : List CollectionStep)
    (t : Store) : Prop :=
  Trail CollectionStep.Happens Amid s steps t

theorem Store.Course.upto {Amid : Store → Store → Prop} {s t : Store} {steps : List CollectionStep}
    (h : s.Course Amid steps t) {step : CollectionStep} (hmem : step ∈ steps) :
    ∃ earlier later after, steps = earlier ++ step :: later ∧
      s.Course Amid earlier step.before ∧ step.Happens step.before after := by
  obtain ⟨earlier, later, rfl⟩ := List.append_of_mem hmem
  obtain ⟨u, v, hearlier, hstep, -⟩ := h.split rfl
  obtain rfl := hstep.1
  exact ⟨earlier, later, v, rfl, hearlier, hstep⟩

end DocumentGraph
