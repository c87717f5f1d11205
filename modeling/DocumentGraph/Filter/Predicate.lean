import DocumentGraph.Error
import DocumentGraph.Sql.Condition
set_option autoImplicit false

/-!
# Predicates

A predicate is a condition with the values of its placeholders in the order in which they stand,
and every filter on valid fields becomes one. Equality is typed: next to the value the condition
asks for the kind of the field. What must also hold where a field is absent is written as the
failure of a condition. An invalid field name is the only error, and the leftmost one is reported.
-/

namespace DocumentGraph

/-- A condition with the values of its placeholders. -/
structure Predicate where
  condition : Condition
  params : List SqlValue

namespace Predicate

def sql (column : String) (p : Predicate) : String := p.condition.text column

def selects (p : Predicate) (doc : Json) : Bool := p.condition.selects p.params doc

def constant (b : Bool) : Predicate := ⟨.constant b, []⟩

def isNull (f : Field) : Predicate := ⟨.isNull f, []⟩

def isNotNull (f : Field) : Predicate := ⟨.isNotNull f, []⟩

def placeholder : Json → Placeholder
  | .array _ => .json
  | .object _ => .json
  | _ => .plain

/-- The kind test next to a literal, and whether the value is tested as well. -/
def typedMatch (f : Field) (value : Json) : Predicate :=
  let kindAndValue (kind : Condition) : Predicate :=
    ⟨.both kind (.equals f (placeholder value)), [value.sqlValue]⟩
  match value with
  | .null => isNull f
  | .bool true => ⟨.kindIs f .yes, []⟩
  | .bool false => ⟨.kindIs f .no, []⟩
  | .number _ => kindAndValue (.kindIsAnyOf f [.integer, .real])
  | .string _ => kindAndValue (.kindIs f .text)
  | .array _ => kindAndValue (.kindIs f .array)
  | .object _ => kindAndValue (.kindIs f .object)

def failure (p : Predicate) : Predicate := ⟨.fails p.condition, p.params⟩

def equality (f : Field) (value : Json) (negated : Bool) : Predicate :=
  if value.isNull then if negated then isNotNull f else isNull f
  else if negated then (typedMatch f value).failure
  else typedMatch f value

def comparison (f : Field) (op : Comparison) (value : Json) : Predicate :=
  ⟨.compares f op (placeholder value), [value.sqlValue]⟩

def allOf : List Predicate → Predicate
  | [] => constant true
  | ps => ⟨.allOf (ps.map condition), ps.flatMap params⟩

/-- The disjunction; an empty one is satisfied as well. -/
def anyOf : List Predicate → Predicate
  | [] => constant true
  | ps => ⟨.anyOf (ps.map condition), ps.flatMap params⟩

/-- Equality with one of the values; a single value needs no disjunction. -/
def membership (f : Field) (values : List Json) (negated : Bool) : Predicate :=
  match values.map (typedMatch f) with
  | [] => constant negated
  | [p] => if negated then p.failure else p
  | ps => if negated then (anyOf ps).failure else anyOf ps

end Predicate

namespace Filter

mutual

def compile : Filter → Except StoreError Predicate
  | .implicit field value => (validField field).map fun f => .equality f value false
  | .equality field value negated => (validField field).map fun f => .equality f value negated
  | .comparison field op value => (validField field).map fun f => .comparison f op value
  | .membership field values negated =>
    (validField field).map fun f => .membership f values negated
  | .existence field present =>
    (validField field).map fun f => if present then .isNotNull f else .isNull f
  | .pattern field text => (validField field).map fun f => ⟨.matching f, [.text text]⟩
  | .and children => (compileAll children).map .allOf
  | .or children => (compileAll children).map .anyOf

def compileAll : List Filter → Except StoreError (List Predicate)
  | [] => .ok []
  | f :: rest => do
    let p ← compile f
    let ps ← compileAll rest
    .ok (p :: ps)

end

end Filter

end DocumentGraph
