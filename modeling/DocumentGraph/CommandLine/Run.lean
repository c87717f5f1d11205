import DocumentGraph.CommandLine.Report
set_option autoImplicit false

/-!
# Running commands

Each command opens the store file anew, does one thing with the collections or the graph in it and
prints the outcome. A command without a path, on a path where nothing is or with JSON that cannot
be read does not touch the file.
-/

namespace DocumentGraph.CommandLine

inductive Location where
  | absent
  /-- Something that is no file. -/
  | unusable
  | file (database : Database) (size : Nat)

/-- What a command leaves: its exit code, what it printed and the error that it reports. -/
structure Outcome where
  exit : Nat
  stdout : String
  error : Option String
deriving DecidableEq

namespace Outcome

def printed (text : String) : Outcome := ⟨0, text, none⟩

def failed (f : Failure) : Outcome := ⟨1, "", some f.shown⟩

def ofStop : Stop → Outcome
  | .usage => ⟨2, "", none⟩
  | .help => .printed "Usage: graphdoc [OPTIONS] <COMMAND>\n"
  | .version => .printed ("graphdoc " ++ versionNumber ++ "\n")

def ofResult : Except Failure String → Outcome
  | .ok text => .printed text
  | .error f => .failed f

end Outcome

/-- Opens the store at a path; no file is ever made. -/
def openStore (path : String) (place : Location) (clock : Clock) :
    Except Failure (Store × Nat) :=
  match place with
  | .absent => .error (.noStore path)
  | .unusable => .error (.store (.storage (.cannotOpen path)))
  | .file db size =>
    match Store.openOn .initial { db with isOpen := true, refusal := none } clock with
    | .ok s => .ok (s, size)
    | .error e => .error (.store e)

/-- The commands make no ids. -/
def noTails : Nat → Nat := fun _ => 0

def withGraph {α : Type} (path : String) (place : Location) (clock : Clock)
    (x : GraphM α) : Except Failure (α × Nat) × Location :=
  match openStore path place clock with
  | .error f => (.error f, place)
  | .ok (s, size) =>
    match x (Graph.ofStore s noTails) with
    | (.ok a, g) => (.ok (a, size), .file g.store.database size)
    | (.error e, g) => (.error (.store e), .file g.store.database size)

def withStore {α : Type} (path : String) (place : Location) (clock : Clock)
    (x : StoreM α) (report : α → Except Failure String) : Except Failure String × Location :=
  match openStore path place clock with
  | .error f => (.error f, place)
  | .ok (s, size) =>
    match x s with
    | (.ok a, s) => (report a, .file s.database size)
    | (.error e, s) => (.error (.store e), .file s.database size)

def collectionCounts : List String → StoreM (List (String × Nat))
  | [] => return []
  | name :: rest => do
    let n ← Collection.countWhere ⟨name⟩ .all
    let counts ← collectionCounts rest
    return (name, n) :: counts

def inspect : GraphM (Graph.Stats × List (String × Nat)) := do
  let stats ← Graph.stats
  let counts ← Graph.onStore do collectionCounts (← Store.collections)
  return (stats, counts)

def readFilter : Option String → Except Failure Json
  | none => .ok .null
  | some text =>
    match Json.read readingLimit text with
    | .ok j => .ok j
    | .error e => .error (.badFilter e)

def Command.run (clock : Clock) (format : Format) (path : String) (place : Location) :
    Command → Except Failure String × Location
  | .stats =>
    match withGraph path place clock inspect with
    | (.ok ((found, counts), size), place) =>
      (.ok (Inspection.report format ⟨path, size, found, counts⟩), place)
    | (.error f, place) => (.error f, place)
  | .collections =>
    withStore path place clock Store.collections fun names => .ok (namesReport format names)
  | .keys c =>
    withStore path place clock (Collection.keys ⟨c⟩) fun ids => .ok (namesReport format ids)
  | .get c id =>
    withStore path place clock (Collection.get ⟨c⟩ id) fun
      | some doc => .ok (documentReport format doc)
      | none => .error (.noDocument c id)
  | .put c id json =>
    match Json.read readingLimit json with
    | .ok doc => withStore path place clock (Collection.put ⟨c⟩ id doc) fun _ => .ok ""
    | .error e => (.error (.badDocument e), place)
  | .delete c id =>
    withStore path place clock (Collection.delete ⟨c⟩ id) fun found =>
      if found then .ok "" else .error (.noDocument c id)
  | .find c filter sort limit offset =>
    match openStore path place clock with
    | .error f => (.error f, place)
    | .ok _ =>
      match readFilter filter with
      | .error f => (.error f, place)
      | .ok j =>
        withStore path place clock (Collection.find ⟨c⟩ j ⟨sort, limit, offset⟩) fun docs =>
          .ok (documentsReport format docs)
  | .things type limit =>
    match withGraph path place clock (Graph.findThings type .null ⟨none, limit, none⟩) with
    | (.ok (ts, _), place) => (.ok (thingsReport format ts), place)
    | (.error f, place) => (.error f, place)
  | .traverse id verb back =>
    let step := if back then Graph.traverseBack id verb else Graph.traverse id verb
    match withGraph path place clock step with
    | (.ok (ts, _), place) => (.ok (thingsReport format ts), place)
    | (.error f, place) => (.error f, place)
  | .history id =>
    match withGraph path place clock (Graph.actionsOf id) with
    | (.ok (as, _), place) => (.ok (actionsReport format as), place)
    | (.error f, place) => (.error f, place)
  | .version => (.ok versionReport, place)

def Invocation.run (clock : Clock) (place : Location) (inv : Invocation) :
    Outcome × Location :=
  match inv.command, inv.path with
  | .version, _ => (.printed versionReport, place)
  | _, none => (.failed .noPath, place)
  | command, some path =>
    let (r, place) := command.run clock inv.format path place
    (.ofResult r, place)

end DocumentGraph.CommandLine
