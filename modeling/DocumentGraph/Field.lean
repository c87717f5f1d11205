set_option autoImplicit false

/-!
# Field paths and sort tokens

A field path is one or more non-empty segments of ASCII letters, digits and underscores joined by
dots. Only field paths are ever written into statement text, so a `Field` carries the proof that
its name is one. A sort token is a field path with an optional minus sign in front.
-/

namespace DocumentGraph

namespace Field

def isSegmentChar (c : Char) : Bool := c.isAlphanum || c = '_'

/-- The parts of a text between its dots; a text without dots has one part. -/
def splitDots : List Char → List (List Char)
  | [] => [[]]
  | c :: cs =>
    if c = '.' then [] :: splitDots cs
    else
      match splitDots cs with
      | [] => [[c]]
      | s :: rest => (c :: s) :: rest

def isPathChars (cs : List Char) : Bool :=
  (splitDots cs).all fun s => !s.isEmpty && s.all isSegmentChar

def isPath (name : String) : Bool := isPathChars name.toList

end Field

structure Field where
  name : String
  valid : Field.isPath name = true
deriving DecidableEq

namespace Field

def ofName? (name : String) : Option Field :=
  if h : isPath name = true then some ⟨name, h⟩ else none

def segments (f : Field) : List String := (splitDots f.name.toList).map String.ofList

def jsonPath (f : Field) : String := "$." ++ f.name

theorem splitDots_ne_nil (cs : List Char) : splitDots cs ≠ [] := by
  cases cs with
  | nil => simp [splitDots]
  | cons c cs =>
    by_cases h : c = '.'
    · simp [splitDots, h]
    · rw [splitDots, if_neg h]
      split <;> simp

theorem splitDots_append_dot (p s : List Char) :
    splitDots (p ++ '.' :: s) = splitDots p ++ splitDots s := by
  induction p with
  | nil => simp [splitDots]
  | cons c p ih =>
    by_cases h : c = '.'
    · simp [splitDots, h, ih]
    · rw [List.cons_append, splitDots, if_neg h, ih, splitDots, if_neg h]
      cases hp : splitDots p with
      | nil => exact absurd hp (splitDots_ne_nil p)
      | cons a rest => rfl

theorem isPathChars_append_dot (p s : List Char) :
    isPathChars (p ++ '.' :: s) = (isPathChars p && isPathChars s) := by
  rw [isPathChars, splitDots_append_dot, List.all_append]
  rfl

theorem ofName?_eq_some_iff {name : String} {f : Field} :
    ofName? name = some f ↔ f.name = name := by
  obtain ⟨n, h⟩ := f
  unfold ofName?
  constructor
  · intro e
    split at e
    · cases e; rfl
    · cases e
  · intro e
    simp only at e
    subst e
    simp [h]

theorem ofName?_eq_none_iff {name : String} : ofName? name = none ↔ isPath name = false := by
  unfold ofName?
  by_cases h : isPath name = true <;> simp [h]

end Field

structure SortKey where
  field : Field
  descending : Bool
deriving DecidableEq

/-- The sort key that a token denotes: a leading minus sign means descending. -/
def SortKey.ofToken? (token : String) : Option SortKey :=
  match token.toList with
  | '-' :: rest => (Field.ofName? (String.ofList rest)).map fun f => ⟨f, true⟩
  | _ => (Field.ofName? token).map fun f => ⟨f, false⟩

end DocumentGraph
