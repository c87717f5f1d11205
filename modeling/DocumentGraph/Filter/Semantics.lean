import DocumentGraph.Sql.Extract
import DocumentGraph.Sql.Truth
set_option autoImplicit false

/-!
# What filters mean

The meaning of a filter is given here directly on documents, without statements and placeholders.
Equality is typed: a literal equals only a value of its own kind, numbers by their value, arrays and
objects by their compact text. A null literal equals null and what is absent. Comparisons with null
or with what is absent do not hold.
-/

namespace DocumentGraph

namespace Json

def equalsAt (literal : Json) : Option Json → Bool
  | none => literal.isNull
  | some value =>
    match literal, value with
    | .null, .null => true
    | .bool a, .bool b => a = b
    | .number m, .number n => n.sqlValue.order m.sqlValue = .eq
    | .string s, .string t => s = t
    | .array xs, .array ys => compact (.array xs) = compact (.array ys)
    | .object ms, .object ns => compact (.object ms) = compact (.object ns)
    | _, _ => false

def comparesTo (op : Comparison) (value : SqlValue) (literal : Json) : Bool :=
  !value.isNull && !literal.isNull && op.holds (value.order literal.sqlValue)

end Json

namespace Filter

/-- A test of a field by its name; what is no field name passes no test. -/
def onField (name : String) (test : Field → Bool) : Bool :=
  match Field.ofName? name with
  | some f => test f
  | none => false

mutual

def holds (doc : Json) : Filter → Bool
  | .implicit field value => onField field fun f => value.equalsAt (doc.at? f)
  | .equality field value negated =>
    onField field fun f => value.equalsAt (doc.at? f) != negated
  | .comparison field op value => onField field fun f => Json.comparesTo op (doc.extract f) value
  | .membership field values negated =>
    onField field fun f => (values.any fun v => v.equalsAt (doc.at? f)) != negated
  | .existence field present => onField field fun f => (doc.extract f).isNull != present
  | .pattern field text =>
    onField field fun f => (SqlValue.text text).contains (doc.extract f)
  | .and children => holdsForAll doc children
  | .or children => children.isEmpty || holdsForAny doc children

def holdsForAll (doc : Json) : List Filter → Bool
  | [] => true
  | f :: rest => holds doc f && holdsForAll doc rest

def holdsForAny (doc : Json) : List Filter → Bool
  | [] => false
  | f :: rest => holds doc f || holdsForAny doc rest

end

theorem holdsForAll_eq_all (doc : Json) (fs : List Filter) :
    holdsForAll doc fs = fs.all (holds doc) := by
  induction fs with
  | nil => rfl
  | cons f rest ih => rw [holdsForAll, ih, List.all_cons]

theorem holdsForAny_eq_any (doc : Json) (fs : List Filter) :
    holdsForAny doc fs = fs.any (holds doc) := by
  induction fs with
  | nil => rfl
  | cons f rest ih => rw [holdsForAny, ih, List.any_cons]

theorem holds_all (doc : Json) : holds doc all = true := by simp [all, holds, holdsForAll]

end Filter

end DocumentGraph
