import DocumentGraph.Field
set_option autoImplicit false

/-!
# Table names

A table name is a word of ASCII letters, digits and underscores. The text that creates the table
names it without quotes, so a word that begins like a number, a reserved word and a name that the
engine keeps for itself are refused by the engine; its message points at the word in the text.
-/

namespace DocumentGraph.TableName

def isWord (name : String) : Bool := !name.isEmpty && name.toList.all Field.isSegmentChar

def creation : String := "CREATE TABLE IF NOT EXISTS "

def columns : List String :=
  ["collection TEXT NOT NULL", "id TEXT NOT NULL", "data TEXT NOT NULL",
    "created_at INTEGER NOT NULL", "updated_at INTEGER NOT NULL", "PRIMARY KEY (collection, id)"]

def indented (width : Nat) (line : String) : String :=
  "\n" ++ String.ofList (List.replicate width ' ') ++ line

def schemaText (name : String) : String :=
  creation ++ name ++ " (" ++ String.intercalate "," (columns.map (indented 16)) ++
    indented 12 ");" ++
    indented 12 ("CREATE INDEX IF NOT EXISTS " ++ name ++ "_updated_idx ON " ++ name ++
      " (collection, updated_at);")

/-- Words that cannot name a table without quotes. -/
def reserved : List String :=
  ["add", "all", "alter", "and", "as", "autoincrement", "between", "case", "check", "collate",
    "commit", "constraint", "create", "default", "deferrable", "delete", "distinct", "drop",
    "else", "escape", "except", "exists", "foreign", "from", "group", "having", "in", "index",
    "insert", "intersect", "into", "is", "isnull", "join", "limit", "not", "nothing", "notnull",
    "null", "on", "or", "order", "primary", "references", "returning", "select", "set", "table",
    "then", "to", "transaction", "union", "unique", "update", "using", "values", "when", "where"]

def isDigitOrGap (c : Char) : Bool := c.isDigit || c = '_'

def isHexDigitOrGap (c : Char) : Bool :=
  isDigitOrGap c || ('a' ≤ c.toLower && c.toLower ≤ 'f')

def isNumber (cs : List Char) : Bool :=
  match cs.dropWhile isDigitOrGap with
  | [] => true
  | e :: d :: rest => e.toLower = 'e' && d.isDigit && rest.all isDigitOrGap || isHex cs
  | _ => isHex cs
where
  isHex : List Char → Bool
    | '0' :: x :: d :: rest =>
      x.toLower = 'x' && (isHexDigitOrGap d && d ≠ '_') && rest.all isHexDigitOrGap
    | _ => false

def beginsWithDigit (name : String) : Bool := (name.toList.head?.map Char.isDigit).getD false

def isInternal (name : String) : Bool := (name.toList.take 7).map Char.toLower = "sqlite_".toList

def pointed (message name : String) : String :=
  message ++ " in " ++ schemaText name ++ " at offset " ++ toString creation.length

/-- Why the engine refuses to create a table of this name. -/
def refusal? (name : String) : Option String :=
  let unexpected := pointed ("near \"" ++ name ++ "\": syntax error") name
  if beginsWithDigit name then
    if isNumber name.toList then some unexpected
    else some (pointed ("unrecognized token: \"" ++ name ++ "\"") name)
  else if reserved.contains (name.map Char.toLower) then some unexpected
  else if isInternal name then some ("object name reserved for internal use: " ++ name)
  else none

end DocumentGraph.TableName
