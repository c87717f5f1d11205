import DocumentGraph.Error
import DocumentGraph.Filter.Basic
set_option autoImplicit false

/-!
# Filters written in JSON

Null is the filter that matches everything. An object is the conjunction of its members in key
order, a single member standing for itself. A member is a conjunction or disjunction of filters, or
a field with a literal or with operators: an object is read as operators if it is not empty and
every key of it is an operator, otherwise it is a literal. Strict reading refuses a literal object
that has a key which looks like an operator and is none.
-/

namespace DocumentGraph.Filter

def operators : List String :=
  ["$eq", "$ne", "$gt", "$gte", "$lt", "$lte", "$in", "$nin", "$exists", "$regex"]

def isOperator (key : String) : Bool := operators.contains key

/-- Whether a key starts like an operator without being one. -/
def isStrangeOperator (key : String) : Bool := key.toList.head? = some '$' && !isOperator key

def truthy : Json → Bool
  | .null => false
  | .bool b => b
  | .number n => !n.isZero
  | .string s => !s.isEmpty
  | .array _ => true
  | .object _ => true

/-- The candidates of a membership test; a literal that is no list is the only one. -/
def candidates : Json → List Json
  | .array items => items
  | j => [j]

/-- The text of a pattern; a literal that is no text stands for its JSON text. -/
def patternText : Json → String
  | .string s => s
  | j => j.compact

def operatorClause (field key : String) (operand : Json) : Filter :=
  if key = "$eq" then .equality field operand false
  else if key = "$ne" then .equality field operand true
  else if key = "$gt" then .comparison field .gt operand
  else if key = "$gte" then .comparison field .gte operand
  else if key = "$lt" then .comparison field .lt operand
  else if key = "$lte" then .comparison field .lte operand
  else if key = "$in" then .membership field (candidates operand) false
  else if key = "$nin" then .membership field (candidates operand) true
  else if key = "$exists" then .existence field (truthy operand)
  else .pattern field (patternText operand)

def conjunction : List Filter → Filter
  | [f] => f
  | fs => .and fs

def fieldClause (strict : Bool) (field : String) (value : Json) : Except StoreError Filter :=
  match value with
  | .object members =>
    if !members.isEmpty && members.all fun m => isOperator m.1 then
      .ok (conjunction (members.map fun m => operatorClause field m.1 m.2))
    else if strict then
      match members.find? fun m => isStrangeOperator m.1 with
      | some m => .error (.unknownOperator m.1)
      | none => .ok (.implicit field value)
    else .ok (.implicit field value)
  | _ => .ok (.implicit field value)

def plainClause (strict : Bool) (key : String) (value : Json) : Except StoreError Filter := do
  let _ ← validField key
  fieldClause strict key value

mutual

def ofJson (strict : Bool) : Json → Except StoreError Filter
  | .null => .ok all
  | .object members => (clauses strict members).map conjunction
  | j => .error (.invalidQuery (.notAFilter j.kindName))

def clauses (strict : Bool) : List (String × Json) → Except StoreError (List Filter)
  | [] => .ok []
  | (key, value) :: rest => do
    let f ← clause strict key value
    let fs ← clauses strict rest
    .ok (f :: fs)

def clause (strict : Bool) (key : String) : Json → Except StoreError Filter
  | .array items =>
    if key = "$and" then (children strict items).map .and
    else if key = "$or" then (children strict items).map .or
    else plainClause strict key (.array items)
  | value =>
    if key = "$and" ∨ key = "$or" then .error (.invalidQuery (.notAList key))
    else plainClause strict key value

def children (strict : Bool) : List Json → Except StoreError (List Filter)
  | [] => .ok []
  | j :: rest => do
    let f ← ofJson strict j
    let fs ← children strict rest
    .ok (f :: fs)

end

end DocumentGraph.Filter
