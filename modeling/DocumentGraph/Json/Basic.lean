import DocumentGraph.Number.Rounding
set_option autoImplicit false

/-!
# JSON values

A number is an integer between `-2 ^ 63` and `2 ^ 64 - 1` or a finite binary64 datum, and the two
kinds are never confused: `1` and `1.0` are different values. An object is a list of members; in a
well formed value the keys of every object are strictly ascending, which is the order of their
UTF-8 bytes. Objects are built by `insertMember`, where a later value of a key replaces an earlier
one.
-/

namespace DocumentGraph

/-- A JSON number: an integer in the range of 64-bit words, or a finite binary64 datum. -/
inductive Number where
  | int (i : Int) (low : -9223372036854775808 ≤ i) (high : i < 18446744073709551616)
  | float (x : Binary64) (finite : x.isFinite = true)
deriving DecidableEq

inductive Json where
  | null
  | bool (b : Bool)
  | number (n : Number)
  | string (s : String)
  | array (items : List Json)
  | object (members : List (String × Json))

instance : Inhabited Json := ⟨.null⟩

namespace Number

def ofInt64 (i : Int64) : Number :=
  .int i.toInt (Int64.le_toInt i) (by have := Int64.toInt_lt i; omega)

def ofUInt64 (n : UInt64) : Number :=
  .int n.toNat (by omega) (by have := UInt64.toNat_lt n; omega)

def ofUInt32 (n : UInt32) : Number :=
  .int n.toNat (by omega) (by have := UInt32.toNat_lt n; omega)

/-- The integer if it is in range, else the nearest binary64 datum if that is finite. -/
def ofInt? (i : Int) : Option Number :=
  if h : -9223372036854775808 ≤ i ∧ i < 18446744073709551616 then some (.int i h.1 h.2)
  else if h : (Binary64.ofInt i).isFinite = true then some (.float (Binary64.ofInt i) h)
  else none

def toBinary64 : Number → Binary64
  | .int i _ _ => Binary64.ofInt i
  | .float x _ => x

def isZero : Number → Bool
  | .int i _ _ => i = 0
  | .float x _ => x.code = 0

end Number

namespace Json

def kindName : Json → String
  | .null => "null"
  | .bool _ => "boolean"
  | .number _ => "number"
  | .string _ => "string"
  | .array _ => "array"
  | .object _ => "object"

def isNull : Json → Bool
  | .null => true
  | _ => false

def isObject : Json → Bool
  | .object _ => true
  | _ => false

/-- Puts a member into its place in ascending key order; an equal key loses its old value. -/
def insertMember (key : String) (value : Json) : List (String × Json) → List (String × Json)
  | [] => [(key, value)]
  | (k, v) :: rest =>
    if key = k then (key, value) :: rest
    else if key < k then (key, value) :: (k, v) :: rest
    else (k, v) :: insertMember key value rest

/-- The members of an object with every member of `changes` put over them, in order. -/
def mergeMembers (members changes : List (String × Json)) : List (String × Json) :=
  changes.foldl (fun acc m => insertMember m.1 m.2 acc) members

/-- The object with these members, whatever their order; the last value of a key counts. -/
def ofMembers (members : List (String × Json)) : Json := .object (mergeMembers [] members)

def lookup (key : String) : List (String × Json) → Option Json
  | [] => none
  | (k, v) :: rest => if key = k then some v else lookup key rest

def get? (key : String) : Json → Option Json
  | .object members => lookup key members
  | _ => none

/-- Walks member names from a value inwards; nothing but objects is entered. -/
def walk : List String → Json → Option Json
  | [], j => some j
  | key :: path, j => (j.get? key).bind (walk path)

mutual

def depth : Json → Nat
  | .array items => itemsDepth items + 1
  | .object members => membersDepth members + 1
  | _ => 0

def itemsDepth : List Json → Nat
  | [] => 0
  | j :: rest => max (depth j) (itemsDepth rest)

def membersDepth : List (String × Json) → Nat
  | [] => 0
  | (_, j) :: rest => max (depth j) (membersDepth rest)

end

/-- Keys stand in strictly ascending order, hence without repeats. -/
def Ascending (members : List (String × Json)) : Prop := (members.map (·.1)).Pairwise (· < ·)

mutual

def WellFormed : Json → Prop
  | .array items => ItemsWellFormed items
  | .object members => Ascending members ∧ MembersWellFormed members
  | _ => True

def ItemsWellFormed : List Json → Prop
  | [] => True
  | j :: rest => WellFormed j ∧ ItemsWellFormed rest

def MembersWellFormed : List (String × Json) → Prop
  | [] => True
  | (_, j) :: rest => WellFormed j ∧ MembersWellFormed rest

end

theorem lookup_nil (key : String) : lookup key [] = none := rfl

theorem lookup_insertMember_self (key : String) (value : Json) (members : List (String × Json)) :
    lookup key (insertMember key value members) = some value := by
  induction members with
  | nil => simp [insertMember, lookup]
  | cons m rest ih =>
    obtain ⟨k, v⟩ := m
    by_cases h : key = k
    · simp [insertMember, lookup, h]
    · by_cases hlt : key < k <;> simp [insertMember, lookup, h, hlt, ih]

theorem lookup_insertMember_of_ne {key other : String} (h : other ≠ key) (value : Json)
    (members : List (String × Json)) :
    lookup other (insertMember key value members) = lookup other members := by
  induction members with
  | nil => simp [insertMember, lookup, h]
  | cons m rest ih =>
    obtain ⟨k, v⟩ := m
    by_cases hk : key = k
    · subst hk; simp [insertMember, lookup, h]
    · by_cases hlt : key < k
      · simp [insertMember, lookup, h, hk, hlt]
      · simp [insertMember, lookup, hk, hlt, ih]

theorem walk_append (p q : List String) (j : Json) :
    walk (p ++ q) j = (walk p j).bind (walk q) := by
  induction p generalizing j with
  | nil => rfl
  | cons key p ih =>
    simp only [List.cons_append, walk]
    cases j.get? key with
    | none => rfl
    | some v => simp [ih]

end Json

end DocumentGraph
