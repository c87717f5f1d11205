import DocumentGraph.Json.Basic
set_option autoImplicit false

/-!
# Filters

A filter is a tree of tests on fields under conjunctions and disjunctions. An empty conjunction
and an empty disjunction match every document. Field names are plain texts here: a filter may be
built by hand, and only compilation decides whether its names are field paths.
-/

namespace DocumentGraph

inductive Comparison where
  | gt
  | gte
  | lt
  | lte
deriving DecidableEq, Repr

def Comparison.symbol : Comparison → String
  | .gt => ">"
  | .gte => ">="
  | .lt => "<"
  | .lte => "<="

inductive Filter where
  | implicit (field : String) (value : Json)
  | equality (field : String) (value : Json) (negated : Bool)
  | comparison (field : String) (op : Comparison) (value : Json)
  | membership (field : String) (values : List Json) (negated : Bool)
  | existence (field : String) (present : Bool)
  | pattern (field : String) (text : String)
  | and (children : List Filter)
  | or (children : List Filter)

instance : Inhabited Filter := ⟨.and []⟩

namespace Filter

def all : Filter := .and []

def equals (field text : String) : Filter := .implicit field (.string text)

mutual

/-- Every field of the filter taken inside the member `scope`. -/
def within (scope : String) : Filter → Filter
  | .implicit field value => .implicit (scope ++ "." ++ field) value
  | .equality field value negated => .equality (scope ++ "." ++ field) value negated
  | .comparison field op value => .comparison (scope ++ "." ++ field) op value
  | .membership field values negated => .membership (scope ++ "." ++ field) values negated
  | .existence field present => .existence (scope ++ "." ++ field) present
  | .pattern field text => .pattern (scope ++ "." ++ field) text
  | .and children => .and (withinAll scope children)
  | .or children => .or (withinAll scope children)

def withinAll (scope : String) : List Filter → List Filter
  | [] => []
  | f :: rest => within scope f :: withinAll scope rest

end

mutual

def fields : Filter → List String
  | .implicit field _ => [field]
  | .equality field _ _ => [field]
  | .comparison field _ _ => [field]
  | .membership field _ _ => [field]
  | .existence field _ => [field]
  | .pattern field _ => [field]
  | .and children => fieldsAll children
  | .or children => fieldsAll children

def fieldsAll : List Filter → List String
  | [] => []
  | f :: rest => fields f ++ fieldsAll rest

end

theorem withinAll_eq_map (scope : String) (fs : List Filter) :
    withinAll scope fs = fs.map (within scope) := by
  induction fs with
  | nil => rfl
  | cons f rest ih => rw [withinAll, ih, List.map_cons]

theorem fieldsAll_eq_flatMap (fs : List Filter) : fieldsAll fs = fs.flatMap fields := by
  induction fs with
  | nil => rfl
  | cons f rest ih => rw [fieldsAll, ih, List.flatMap_cons]

end Filter

end DocumentGraph
