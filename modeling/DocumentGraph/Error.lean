import DocumentGraph.Field
import DocumentGraph.Json.Decode
set_option autoImplicit false

/-!
# Errors

Each error is its cause. The wording is made in one place, `StoreError.message`. Errors of
validation are those that an argument of the call itself brings about before any statement runs.
-/

namespace DocumentGraph

inductive StorageError where
  | closed
  | refused (message : String)
  | cannotOpen (path : String)
deriving DecidableEq

def StorageError.message : StorageError → String
  | .closed => "storage engine is closed"
  | .refused m => "sqlite error: " ++ m
  | .cannotOpen path => "sqlite error: unable to open database file: " ++ path

inductive IdFault where
  | emptyId
  | emptyType
deriving DecidableEq

def IdFault.reason : IdFault → String
  | .emptyId => "id must be a non-empty string"
  | .emptyType => "thing type must not be empty"

inductive QueryFault where
  | notAFilter (kind : String)
  | notAList (key : String)
  | offsetWithoutLimit
deriving DecidableEq

def QueryFault.message : QueryFault → String
  | .notAFilter kind => "filter must be an object, got " ++ kind
  | .notAList key => key ++ " expects an array of filters"
  | .offsetWithoutLimit => "offset requires limit"

inductive ConfigurationFault where
  | tableName (name : String)
  | cascadeKind (text : String)
  | noMatcher
deriving DecidableEq

def ConfigurationFault.message : ConfigurationFault → String
  | .tableName name => "invalid table name " ++ quoted name
  | .cascadeKind text => "unknown cascade kind " ++ quoted text
  | .noMatcher => "fuzzy relate requires a semantic matcher"

inductive Corruption where
  | unreadable (e : Json.ReadError)
  | undecodable (e : DecodeError)

def Corruption.message : Corruption → String
  | .unreadable e => e.message
  | .undecodable e => e.message

inductive StoreError where
  | storage (e : StorageError)
  | invalidFieldName (name : String)
  | invalidDocument (kind : String)
  | invalidId (fault : IdFault)
  | invalidQuery (fault : QueryFault)
  | configuration (fault : ConfigurationFault)
  | unknownOperator (name : String)
  | matcher (message : String)
  | corrupted (collection id : String) (cause : Corruption)

namespace StoreError

def documentReason (kind : String) : String := "expected a JSON object, got " ++ kind

def message : StoreError → String
  | .storage e => "storage error: " ++ e.message
  | .invalidFieldName name => "invalid field name: " ++ quoted name
  | .invalidDocument kind => "invalid document: " ++ documentReason kind
  | .invalidId fault => "invalid id: " ++ fault.reason
  | .invalidQuery fault => "invalid query options: " ++ fault.message
  | .configuration fault => "configuration error: " ++ fault.message
  | .unknownOperator name => "unknown filter operator: " ++ name
  | .matcher m => "matcher failed: " ++ m
  | .corrupted collection id cause =>
    "corrupted record " ++ quoted id ++ " in collection " ++ collection ++ ": " ++ cause.message

def isValidation : StoreError → Bool
  | .invalidFieldName _ => true
  | .invalidDocument _ => true
  | .invalidId _ => true
  | .invalidQuery _ => true
  | .unknownOperator _ => true
  | _ => false

end StoreError

def validField (name : String) : Except StoreError Field :=
  match Field.ofName? name with
  | some f => .ok f
  | none => .error (.invalidFieldName name)

def validSortToken (token : String) : Except StoreError SortKey :=
  match SortKey.ofToken? token with
  | some k => .ok k
  | none => .error (.invalidFieldName token)

end DocumentGraph
