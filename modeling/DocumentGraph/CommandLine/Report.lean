import DocumentGraph.CommandLine.Command
import DocumentGraph.Graph.Traversal
set_option autoImplicit false

namespace DocumentGraph

def fieldsText (name : String) (fields : List (String × String)) : String :=
  name ++ " \x7b " ++ String.intercalate ", " (fields.map fun f => f.1 ++ ": " ++ quoted f.2) ++
    " \x7d"

def StorageError.shown : StorageError → String
  | .closed => "Storage(Closed)"
  | .refused m => "Storage(Sqlite(" ++ quoted m ++ "))"
  | .cannotOpen path =>
    "Storage(Sqlite(SqliteFailure(Error \x7b code: CannotOpen, extended_code: 14 \x7d, Some(" ++
      quoted ("unable to open database file: " ++ path) ++ "))))"

def StoreError.shown : StoreError → String
  | .storage e => e.shown
  | .invalidFieldName name => fieldsText "InvalidFieldName" [("name", name)]
  | .invalidDocument kind =>
    fieldsText "InvalidDocument" [("reason", StoreError.documentReason kind)]
  | .invalidId fault => fieldsText "InvalidId" [("reason", fault.reason)]
  | .invalidQuery fault => fieldsText "InvalidQueryOptions" [("message", fault.message)]
  | .configuration fault => fieldsText "Configuration" [("message", fault.message)]
  | .unknownOperator name => fieldsText "UnknownOperator" [("operator", name)]
  | .matcher m => fieldsText "Matcher" [("message", m)]
  | .corrupted collection id cause =>
    fieldsText "Corrupted" [("collection", collection), ("id", id), ("message", cause.message)]

namespace CommandLine

inductive Failure where
  | noPath
  | noStore (path : String)
  | noDocument (collection id : String)
  | badDocument (e : Json.ReadError)
  | badFilter (e : Json.ReadError)
  | store (e : StoreError)

def Failure.shown : Failure → String
  | .noPath => quoted "Store path required (--path)"
  | .noStore path => quoted ("No store found at " ++ path)
  | .noDocument collection id =>
    quoted ("No document " ++ quoted id ++ " in " ++ quoted collection)
  | .badDocument e => quoted ("Invalid document JSON: " ++ e.message)
  | .badFilter e => quoted ("Invalid --filter JSON: " ++ e.message)
  | .store e => e.shown

def lines (texts : List String) : String := String.join (texts.map (· ++ "\n"))

def emit (format : Format) (json : Json) (text : String) : String :=
  match format with
  | .json => json.indented ++ "\n"
  | .text => text

def padded (width : Nat) (text : String) : String :=
  text ++ String.ofList (List.replicate (width - text.length) ' ')

def recordJson {α : Type} [Record α] (r : α) : Json := .object (Record.members r)

def thingLine (t : Thing) : String :=
  padded 32 t.id ++ " " ++ padded 16 t.type ++ " v" ++ padded 4 (toString t.version.toNat) ++ " " ++
    (Json.object t.data).compact

def actionLine (a : Action) : String :=
  let part (label : String) (text : Option String) : String :=
    (text.map fun t => " " ++ label ++ "=" ++ t).getD ""
  SqlValue.intText a.time ++ " " ++ a.verb ++ part "from" a.source ++ part "to" a.target ++
    part "by" a.actor ++ ((a.data.map fun j => " " ++ j.compact).getD "")

def namesReport (format : Format) (names : List String) : String :=
  emit format (textsJson names) (lines names)

def documentReport (format : Format) (doc : Json) : String := emit format doc (lines [doc.compact])

def documentsReport (format : Format) (docs : List Json) : String :=
  emit format (.array docs)
    (lines (docs.map Json.compact ++ ["(" ++ toString docs.length ++ " documents)"]))

def thingsReport (format : Format) (ts : List Thing) : String :=
  emit format (.array (ts.map recordJson)) (lines (ts.map thingLine))

def actionsReport (format : Format) (as : List Action) : String :=
  emit format (.array (as.map recordJson)) (lines (as.map actionLine))

/-- A quotient in hundredths, a half going to the even neighbour. -/
def hundredths (n d : Nat) : String :=
  let q := Binary64.roundedQuotient (100 * n) d
  toString (q / 100) ++ "." ++ String.ofList ((Positional.padded 10 2 (q % 100)).map Layout.digitChar)

def sizeText (bytes : Nat) : String :=
  let kilo := 1024
  let mega := kilo * 1024
  let giga := mega * 1024
  if giga ≤ bytes then hundredths bytes giga ++ " GB"
  else if mega ≤ bytes then hundredths bytes mega ++ " MB"
  else if kilo ≤ bytes then hundredths bytes kilo ++ " KB"
  else toString bytes ++ " bytes"

structure Inspection where
  path : String
  size : Nat
  graph : Graph.Stats
  collections : List (String × Nat)

def countJson (n : Nat) : Json := .number (.ofUInt64 (UInt64.ofNat n))

namespace Inspection

def json (i : Inspection) : Json :=
  .object
    [("path", .string i.path), ("file_size", countJson i.size),
      ("graph", .object
        [("nouns", countJson i.graph.nouns), ("verbs", countJson i.graph.verbs),
          ("things", countJson i.graph.things), ("actions", countJson i.graph.actions),
          ("relationships", countJson i.graph.relationships)]),
      ("collections", .array (i.collections.map fun c =>
        .object [("name", .string c.1), ("documents", countJson c.2)]))]

def collectionLines (i : Inspection) : List String :=
  if i.collections.isEmpty then []
  else "" :: "Collections:" ::
    i.collections.map fun c => "  " ++ padded 24 c.1 ++ " " ++ toString c.2 ++ " documents"

def text (i : Inspection) : String :=
  lines (["GraphDoc Store: " ++ i.path, "================", "", "File size: " ++ sizeText i.size, "",
    "Graph:",
    "  Nouns:         " ++ toString i.graph.nouns,
    "  Verbs:         " ++ toString i.graph.verbs,
    "  Things:        " ++ toString i.graph.things,
    "  Actions:       " ++ toString i.graph.actions,
    "  Relationships: " ++ toString i.graph.relationships] ++ i.collectionLines)

def report (format : Format) (i : Inspection) : String := emit format i.json i.text

end Inspection

def versionNumber : String := "0.3.0"

def versionReport : String :=
  lines ["GraphDoc CLI v" ++ versionNumber, "GraphDoc Core v" ++ versionNumber]

end CommandLine

end DocumentGraph
