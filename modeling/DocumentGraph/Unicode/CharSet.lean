set_option autoImplicit false

/-!
# Sets of characters

A set of code points is the ascending list of its boundaries: the points where membership changes,
starting outside. A point belongs to the set when an odd number of boundaries is at most the point.
All set algebra is one merge of two boundary lists under a connective. Tables of standard
properties are texts of hexadecimal gaps between boundaries.
-/

namespace DocumentGraph

/-- A set of code points by its ascending boundaries. -/
structure CharSet where
  bounds : List Nat
deriving DecidableEq, Repr

namespace CharSet

/-- Membership in the set with boundaries `bs`, from a side that is `inside` before the first. -/
def memberFrom (inside : Bool) (n : Nat) : List Nat → Bool
  | [] => inside
  | b :: bs => if b ≤ n then memberFrom (!inside) n bs else inside

def contains (s : CharSet) (c : Char) : Bool := memberFrom false c.toNat s.bounds

def empty : CharSet := ⟨[]⟩

def all : CharSet := ⟨[0]⟩

def range (first last : Nat) : CharSet := if first ≤ last then ⟨[first, last + 1]⟩ else empty

def single (c : Char) : CharSet := range c.toNat c.toNat

def compl (s : CharSet) : CharSet :=
  match s.bounds with
  | 0 :: bs => ⟨bs⟩
  | bs => ⟨0 :: bs⟩

/-- Walks two boundary lists together and keeps the points where the connective changes. -/
def mergeBounds (f : Bool → Bool → Bool) :
    Nat → Bool → Bool → List Nat → List Nat → List Nat
  | 0, _, _, _, _ => []
  | _ + 1, _, _, [], [] => []
  | fuel + 1, a, b, x :: xs, [] =>
    let rest := mergeBounds f fuel (!a) b xs []
    if f (!a) b = f a b then rest else x :: rest
  | fuel + 1, a, b, [], y :: ys =>
    let rest := mergeBounds f fuel a (!b) [] ys
    if f a (!b) = f a b then rest else y :: rest
  | fuel + 1, a, b, x :: xs, y :: ys =>
    if x < y then
      let rest := mergeBounds f fuel (!a) b xs (y :: ys)
      if f (!a) b = f a b then rest else x :: rest
    else if y < x then
      let rest := mergeBounds f fuel a (!b) (x :: xs) ys
      if f a (!b) = f a b then rest else y :: rest
    else
      let rest := mergeBounds f fuel (!a) (!b) xs ys
      if f (!a) (!b) = f a b then rest else x :: rest

def combine (f : Bool → Bool → Bool) (s t : CharSet) : CharSet :=
  ⟨mergeBounds f (s.bounds.length + t.bounds.length) false false s.bounds t.bounds⟩

def union (s t : CharSet) : CharSet := combine (· || ·) s t

def inter (s t : CharSet) : CharSet := combine (· && ·) s t

def diff (s t : CharSet) : CharSet := combine (fun a b => a && !b) s t

def symmDiff (s t : CharSet) : CharSet := combine (fun a b => a != b) s t

def unionAll (sets : List CharSet) : CharSet := sets.foldl union empty

def isAscii (s : CharSet) : Bool := (inter s ⟨[128]⟩).bounds.isEmpty

/-- State of the reader of a table: the gap read so far, if any, the last boundary, the
    boundaries. -/
structure GapReader where
  gap : Option Nat
  last : Nat
  found : List Nat

def isTableBlank (c : Char) : Bool := c = ' ' || c = '\n'

def hexDigitValue (c : Char) : Nat := if c.isDigit then c.toNat - 48 else c.toNat - 87

def GapReader.step (r : GapReader) (c : Char) : GapReader :=
  if isTableBlank c then
    match r.gap with
    | some gap => ⟨none, r.last + gap, (r.last + gap) :: r.found⟩
    | none => r
  else { r with gap := some (r.gap.getD 0 * 16 + hexDigitValue c) }

/-- The set whose boundary gaps are written in lower case hexadecimal, blanks behind each. -/
def ofGaps (table : String) : CharSet :=
  ⟨(table.foldl GapReader.step ⟨none, 0, []⟩).found.reverse⟩

structure RowReader where
  number : Option Nat
  row : List Nat
  rows : List (List Nat)

def RowReader.step (r : RowReader) (c : Char) : RowReader :=
  if isTableBlank c then
    match r.number with
    | some n => ⟨none, [], (n :: r.row).reverse :: r.rows⟩
    | none => r
  else if c = ',' then ⟨none, r.number.getD 0 :: r.row, r.rows⟩
  else { r with number := some (r.number.getD 0 * 16 + hexDigitValue c) }

/-- Rows of lower case hexadecimal numbers: commas inside a row, blanks behind each row. -/
def rowsOfTable (table : String) : List (List Nat) :=
  (table.foldl RowReader.step ⟨none, [], []⟩).rows.reverse

theorem contains_compl (s : CharSet) (c : Char) : s.compl.contains c = !s.contains c := by
  have flip : ∀ (bs : List Nat) (b : Bool), memberFrom (!b) c.toNat bs = !memberFrom b c.toNat bs := by
    intro bs
    induction bs with
    | nil => intro b; rfl
    | cons x xs ih =>
      intro b
      by_cases h : x ≤ c.toNat <;> simp [memberFrom, h, ih]
  obtain ⟨bs⟩ := s
  unfold compl contains
  split
  · rename_i rest h
    simp only at h
    subst h
    simpa [memberFrom] using flip rest true
  · simp only [memberFrom, Nat.zero_le, if_true]
    exact flip bs false

end CharSet

end DocumentGraph
