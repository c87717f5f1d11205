import DocumentGraph.Filter.Basic
import DocumentGraph.Pattern.Notation
import DocumentGraph.Sql.Value
set_option autoImplicit false

namespace DocumentGraph

abbrev Truth := Option Bool

namespace Truth

def and : Truth → Truth → Truth
  | some false, _ => some false
  | _, some false => some false
  | some true, some true => some true
  | _, _ => none

def or : Truth → Truth → Truth
  | some true, _ => some true
  | _, some true => some true
  | some false, some false => some false
  | _, _ => none

def isTrue (t : Truth) : Bool := t = some true

theorem isTrue_and (s t : Truth) : (s.and t).isTrue = (s.isTrue && t.isTrue) := by
  rcases s with _ | _ | _ <;> rcases t with _ | _ | _ <;> rfl

theorem isTrue_or (s t : Truth) : (s.or t).isTrue = (s.isTrue || t.isTrue) := by
  rcases s with _ | _ | _ <;> rcases t with _ | _ | _ <;> rfl

end Truth

def Comparison.holds : Comparison → Ordering → Bool
  | .gt, o => o = .gt
  | .gte, o => o ≠ .lt
  | .lt, o => o = .lt
  | .lte, o => o ≠ .gt

namespace SqlValue

/-- A comparison of two values is unknown when one of them is null. -/
def compared (holds : Ordering → Bool) (a b : SqlValue) : Truth :=
  if a.isNull || b.isNull then none else some (holds (a.order b))

/-- Whether a value contains a match of a pattern text; numbers are searched in plain text. -/
def contains (pattern : SqlValue) : SqlValue → Bool
  | .null => false
  | .integer i => search (intText i)
  | .real x => search x.plainText
  | .text s => search s
where
  search (text : String) : Bool :=
    match pattern with
    | .text p => Pattern.matchesText p text
    | _ => false

end SqlValue

end DocumentGraph
