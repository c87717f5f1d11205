import DocumentGraph.Sql.Extract
import DocumentGraph.Sql.Truth
set_option autoImplicit false

/-!
# Conditions on a JSON column

A condition is the part of a statement that selects rows by the document in one column. It names
fields of the document and leaves literals to placeholders, so its text depends on no literal.
Conditions are evaluated in three-valued logic against a document and the values of the
placeholders, which are taken from left to right.
-/

namespace DocumentGraph

/-- Where a literal stands: as it is, or as JSON text brought into compact form. -/
inductive Placeholder where
  | plain
  | json
deriving DecidableEq, Repr

namespace Placeholder

def text : Placeholder → String
  | .plain => "?"
  | .json => "json(?)"

/-- Blanks outside of strings go, everything else stays. The flag says whether a string is open. -/
def minified : Bool → List Char → List Char
  | _, [] => []
  | false, c :: cs =>
    if c = '"' then c :: minified true cs
    else if c = ' ' ∨ c = '\n' ∨ c = '\t' ∨ c = '\r' then minified false cs
    else c :: minified false cs
  | true, '\\' :: c :: cs => '\\' :: c :: minified true cs
  | true, c :: cs => if c = '"' then c :: minified false cs else c :: minified true cs

def value : Placeholder → SqlValue → SqlValue
  | .json, .text s => .text (String.ofList (minified false s.toList))
  | _, v => v

end Placeholder

inductive Condition where
  | constant (b : Bool)
  | isNull (f : Field)
  | isNotNull (f : Field)
  | kindIs (f : Field) (kind : JsonKind)
  | kindIsAnyOf (f : Field) (kinds : List JsonKind)
  | equals (f : Field) (p : Placeholder)
  | compares (f : Field) (op : Comparison) (p : Placeholder)
  | matching (f : Field)
  | both (c d : Condition)
  | allOf (cs : List Condition)
  | anyOf (cs : List Condition)
  /-- The condition is false or unknown. -/
  | fails (c : Condition)

instance : Inhabited Condition := ⟨.constant true⟩

namespace Condition

def call (function column : String) (f : Field) : String :=
  function ++ "(" ++ column ++ ", '" ++ f.jsonPath ++ "')"

def extractText (column : String) (f : Field) : String := call "json_extract" column f

def kindText (column : String) (f : Field) : String := call "json_type" column f

def kindName (k : JsonKind) : String := "'" ++ k.name ++ "'"

def parenthesized (text : String) : String := "(" ++ text ++ ")"

mutual

def text (column : String) : Condition → String
  | .constant b => if b then "1" else "0"
  | .isNull f => extractText column f ++ " IS NULL"
  | .isNotNull f => extractText column f ++ " IS NOT NULL"
  | .kindIs f k => kindText column f ++ " = " ++ kindName k
  | .kindIsAnyOf f ks =>
    kindText column f ++ " IN " ++ parenthesized (String.intercalate ", " (ks.map kindName))
  | .equals f p => extractText column f ++ " = " ++ p.text
  | .compares f op p => extractText column f ++ " " ++ op.symbol ++ " " ++ p.text
  | .matching f => extractText column f ++ " REGEXP ?"
  | .both c d => text column c ++ " AND " ++ text column d
  | .allOf cs => String.intercalate " AND " (texts column cs)
  | .anyOf cs => String.intercalate " OR " (texts column cs)
  | .fails c => "NOT COALESCE(" ++ text column c ++ ", 0)"

def texts (column : String) : List Condition → List String
  | [] => []
  | c :: rest => parenthesized (text column c) :: texts column rest

end

mutual

def placeholders : Condition → Nat
  | .equals _ _ => 1
  | .compares _ _ _ => 1
  | .matching _ => 1
  | .both c d => placeholders c + placeholders d
  | .allOf cs => placeholdersOfAll cs
  | .anyOf cs => placeholdersOfAll cs
  | .fails c => placeholders c
  | _ => 0

def placeholdersOfAll : List Condition → Nat
  | [] => 0
  | c :: rest => placeholders c + placeholdersOfAll rest

end

/-- Takes the value of the next placeholder; one without a value is null. -/
def next : List SqlValue → SqlValue × List SqlValue
  | [] => (.null, [])
  | v :: rest => (v, rest)

mutual

/-- The truth of the condition for a document, and the placeholder values that are left. -/
def eval (doc : Json) : Condition → List SqlValue → Truth × List SqlValue
  | .constant b, ps => (some b, ps)
  | .isNull f, ps => (some (doc.extract f).isNull, ps)
  | .isNotNull f, ps => (some (!(doc.extract f).isNull), ps)
  | .kindIs f k, ps => ((doc.kindAt f).map fun x => x = k, ps)
  | .kindIsAnyOf f ks, ps => ((doc.kindAt f).map fun x => ks.contains x, ps)
  | .equals f p, ps =>
    ((doc.extract f).compared (· = .eq) (p.value (next ps).1), (next ps).2)
  | .compares f op p, ps =>
    ((doc.extract f).compared op.holds (p.value (next ps).1), (next ps).2)
  | .matching f, ps => (some ((next ps).1.contains (doc.extract f)), (next ps).2)
  | .both c d, ps =>
    let (a, ps) := eval doc c ps
    let (b, ps) := eval doc d ps
    (a.and b, ps)
  | .allOf cs, ps => evalAllOf doc cs ps
  | .anyOf cs, ps => evalAnyOf doc cs ps
  | .fails c, ps =>
    let (a, ps) := eval doc c ps
    (some (!a.isTrue), ps)

def evalAllOf (doc : Json) : List Condition → List SqlValue → Truth × List SqlValue
  | [], ps => (some true, ps)
  | c :: rest, ps =>
    let (a, ps) := eval doc c ps
    let (b, ps) := evalAllOf doc rest ps
    (a.and b, ps)

def evalAnyOf (doc : Json) : List Condition → List SqlValue → Truth × List SqlValue
  | [], ps => (some false, ps)
  | c :: rest, ps =>
    let (a, ps) := eval doc c ps
    let (b, ps) := evalAnyOf doc rest ps
    (a.or b, ps)

end

def selects (c : Condition) (params : List SqlValue) (doc : Json) : Bool :=
  (eval doc c params).1.isTrue

end Condition

end DocumentGraph
