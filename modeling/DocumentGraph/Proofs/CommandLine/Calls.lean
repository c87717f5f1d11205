import DocumentGraph.CommandLine.Run
import DocumentGraph.Proofs.Store.Agreement
set_option autoImplicit false

/-!
# Commands as calls

Most commands are calls of the library: they read their text of JSON, if they have one, make one call on
the graph in the store and print what it answers. Wherever a store can be opened such a command ends as its
call does on any graph whose store agrees with the one that was opened, and the databases agree afterwards.
-/

namespace DocumentGraph.CommandLine

open Operation DocumentGraph.Graph

inductive Answer where
  | nothing
  | names (list : List String)
  | document (collection id : String) (found : Option Json)
  | deleted (collection id : String) (found : Bool)
  | documents (list : List Json)
  | things (list : List Thing)
  | actions (list : List Action)

/-- What is printed of an answer; it is a failure that there was no document. -/
def Answer.report (format : Format) : Answer → Except Failure String
  | .nothing => .ok ""
  | .names list => .ok (namesReport format list)
  | .document _ _ (some doc) => .ok (documentReport format doc)
  | .document collection id none => .error (.noDocument collection id)
  | .deleted collection id found => if found then .ok "" else .error (.noDocument collection id)
  | .documents list => .ok (documentsReport format list)
  | .things list => .ok (thingsReport format list)
  | .actions list => .ok (actionsReport format list)

def told (format : Format) : Except StoreError Answer → Except Failure String
  | .ok a => a.report format
  | .error e => .error (.store e)

namespace Command

/-- All but the commands that report on the file and on the program. -/
def isCall : Command → Bool
  | .stats => false
  | .version => false
  | _ => true

def isWrite : Command → Bool
  | .put _ _ _ => true
  | .delete _ _ => true
  | _ => false

/-- The call that a command makes, unless its text of JSON cannot be read. -/
def call : Command → Except Failure (GraphM Answer)
  | .collections => .ok do return .names (← onStore Store.collections)
  | .keys c => .ok do return .names (← onStore (Collection.keys ⟨c⟩))
  | .get c id => .ok do return .document c id (← onStore (Collection.get ⟨c⟩ id))
  | .put c id json =>
    match Json.read readingLimit json with
    | .ok doc => .ok do
      onStore (Collection.put ⟨c⟩ id doc)
      return .nothing
    | .error e => .error (.badDocument e)
  | .delete c id => .ok do return .deleted c id (← onStore (Collection.delete ⟨c⟩ id))
  | .find c filter sort limit offset =>
    match readFilter filter with
    | .ok j => .ok do return .documents (← onStore (Collection.find ⟨c⟩ j ⟨sort, limit, offset⟩))
    | .error f => .error f
  | .things type limit => .ok do return .things (← findThings type .null ⟨none, limit, none⟩)
  | .traverse id verb back =>
    let step := if back then Graph.traverseBack id verb else Graph.traverse id verb
    .ok do return .things (← step)
  | .history id => .ok do return .actions (← actionsOf id)
  | .stats => .ok (return .nothing)
  | .version => .ok (return .nothing)

theorem ok_of_call_put {c id json : String} {x : GraphM Answer} (h : (put c id json).call = .ok x) :
    ∃ doc, Json.read readingLimit json = .ok doc ∧ x = do
      onStore (Collection.put ⟨c⟩ id doc)
      return .nothing := by
  simp only [call] at h
  split at h
  · next doc hread =>
    cases h
    exact ⟨doc, hread, rfl⟩
  · cases h

theorem ok_of_call_find {c : String} {filter sort : Option String} {limit offset : Option UInt64}
    {x : GraphM Answer} (h : (find c filter sort limit offset).call = .ok x) :
    ∃ j, readFilter filter = .ok j ∧
      x = do return .documents (← onStore (Collection.find ⟨c⟩ j ⟨sort, limit, offset⟩)) := by
  simp only [call] at h
  split at h
  · next j hread =>
    cases h
    exact ⟨j, hread, rfl⟩
  · cases h

/-- What a command may execute: documents that it was able to read, and queries unless it writes. -/
def Allows (command : Command) (s : Statement) : Prop :=
  s.Fits readingLimit ∧ (command.isWrite = false → s.isQuery = true)

theorem allows_of_isQuery {command : Command} {s : Statement} (h : s.isQuery = true) :
    command.Allows s := by
  refine ⟨?_, fun _ => h⟩
  cases s with
  | put collection id data now => cases h
  | _ => trivial

section Running

variable {α : Type} {command : Command} {x : GraphM Answer} {f : Failure} {Q : Statement → Prop}
  {format : Format} {path : String} {place : Location} {clock : Clock} {s : Store} {size : Nat}
  {g : Graph}

/-- What was run on a store that was opened ended as the call does on a graph. -/
def Mirrors (Q : Statement → Prop) (format : Format) (s : Store) (size : Nat)
    (ran : Except Failure String × Location) (x : GraphM Answer) (g : Graph) : Prop :=
  ∃ (r : Except StoreError Answer) (t : Store) (h : Graph), x g = (r, h) ∧
    ran = (told format r, .file t.database size) ∧ t.Agrees h.store ∧
    h.store.config = g.store.config ∧ Database.Executed Q s.config.tableName s.database t.database

theorem mirrors_withStore {m : StoreM α} (hm : Uniform Q m)
    (hopen : openStore path place clock = .ok (s, size)) (hs : s.Agrees g.store) {f : α → Answer}
    {report : α → Except Failure String} (hreport : ∀ a, report a = (f a).report format) :
    Mirrors Q format s size (withStore path place clock m report) (do return f (← onStore m)) g := by
  obtain ⟨r, t, u, hx, hy, hagree, hconfig, hdone⟩ := hm s g.store hs
  have hcall : onStore m g = (r, { g with store := u }) := by rw [onStore, hy]
  have hkept : u.config = g.store.config := hagree.config.trans (hconfig.trans hs.config.symm)
  unfold withStore
  rw [hopen]
  dsimp only
  rw [hx]
  cases r with
  | ok a =>
    exact ⟨.ok (f a), t, _, bind_of_ok hcall, Prod.ext (hreport a) rfl, hagree, hkept, hdone⟩
  | error e => exact ⟨.error e, t, _, bind_of_error hcall, rfl, hagree, hkept, hdone⟩

theorem mirrors_withGraph {m : GraphM α} (hm : Uniform Q m)
    (hopen : openStore path place clock = .ok (s, size)) (hs : s.Agrees g.store) {f : α → Answer}
    {ran : Except Failure String × Location}
    (hok : ∀ a left, withGraph path place clock m = (.ok (a, size), left) →
      ran = ((f a).report format, left))
    (herror : ∀ e left, withGraph path place clock m = (.error e, left) → ran = (.error e, left)) :
    Mirrors Q format s size ran (do return f (← m)) g := by
  have hgraph : (ofStore s noTails).store.Agrees g.store :=
    ⟨hs.ready, hs.alsoReady, hs.config, hs.clock, hs.entries⟩
  obtain ⟨r, h, k, hx, hy, hagree, hconfig, hdone⟩ := hm (ofStore s noTails) g hgraph
  have hkept : k.store.config = g.store.config :=
    hagree.config.trans (hconfig.trans hs.config.symm)
  cases r with
  | ok a =>
    have hrun : withGraph path place clock m = (.ok (a, size), .file h.store.database size) := by
      rw [withGraph, hopen]
      dsimp only
      rw [hx]
    exact ⟨.ok (f a), h.store, k, bind_of_ok hy, hok a _ hrun, hagree, hkept, hdone⟩
  | error e =>
    have hrun : withGraph path place clock m =
        (.error (.store e), .file h.store.database size) := by
      rw [withGraph, hopen]
      dsimp only
      rw [hx]
    exact ⟨.error e, h.store, k, bind_of_error hy, herror _ _ hrun, hagree, hkept, hdone⟩

theorem mirrors_run (format : Format) (hc : command.isCall = true) (hcall : command.call = .ok x)
    (hopen : openStore path place clock = .ok (s, size)) (hs : s.Agrees g.store) :
    Mirrors command.Allows format s size (command.run clock format path place) x g := by
  have hquery {σ α : Type} [Storing σ] {m : Operation σ α} (hm : Uniform Queries m) :
      Uniform command.Allows m := hm.mono fun _ => allows_of_isQuery
  cases command with
  | collections =>
    cases hcall
    exact mirrors_withStore (hquery Store.uniform_collections) hopen hs fun _ => rfl
  | keys c =>
    cases hcall
    exact mirrors_withStore (hquery (Collection.uniform_keys ⟨c⟩)) hopen hs fun _ => rfl
  | get c id =>
    cases hcall
    refine mirrors_withStore (hquery (Collection.uniform_get ⟨c⟩ id)) hopen hs fun found => ?_
    cases found <;> rfl
  | put c id json =>
    obtain ⟨doc, hread, rfl⟩ := ok_of_call_put hcall
    simp only [run, hread]
    refine mirrors_withStore (f := fun _ => .nothing) (Collection.uniform_put ⟨c⟩ fun now => ?_) hopen
      hs fun _ => rfl
    exact ⟨Json.fits_of_read hread, nofun⟩
  | delete c id =>
    cases hcall
    exact mirrors_withStore (Collection.uniform_delete ⟨c⟩ ⟨trivial, nofun⟩) hopen hs fun _ => rfl
  | find c filter sort limit offset =>
    obtain ⟨j, hread, rfl⟩ := ok_of_call_find hcall
    simp only [run, hopen, hread]
    exact mirrors_withStore (hquery (Collection.uniform_find ⟨c⟩ j _)) hopen hs fun _ => rfl
  | things type limit =>
    cases hcall
    refine mirrors_withGraph (hquery (uniform_findThings _ _ _)) hopen hs (fun _ _ h => ?_)
      fun _ _ h => ?_ <;>
    simp only [run, h, Answer.report]
  | traverse id verb back =>
    cases hcall
    have hstep : Uniform Queries
        (if back then Graph.traverseBack id verb else Graph.traverse id verb) := by
      split
      · exact uniform_traverseBack id verb
      · exact uniform_traverse id verb
    refine mirrors_withGraph (hquery hstep) hopen hs (fun _ _ h => ?_) fun _ _ h => ?_ <;>
    simp only [run, h, Answer.report]
  | history id =>
    cases hcall
    refine mirrors_withGraph (hquery (uniform_actionsOf id)) hopen hs (fun _ _ h => ?_)
      fun _ _ h => ?_ <;>
    simp only [run, h, Answer.report]
  | stats => cases hc
  | version => cases hc

theorem run_of_unread (hcall : command.call = .error f)
    (hopen : openStore path place clock = .ok (s, size)) :
    command.run clock format path place = (.error f, place) := by
  cases command with
  | put c id json =>
    simp only [call] at hcall
    split at hcall
    · cases hcall
    · next e hread =>
      cases hcall
      simp only [run, hread]
  | find c filter sort limit offset =>
    simp only [call] at hcall
    split at hcall
    · cases hcall
    · next e hread =>
      cases hcall
      simp only [run, hopen, hread]
  | _ => cases hcall

end Running

end Command

end DocumentGraph.CommandLine
