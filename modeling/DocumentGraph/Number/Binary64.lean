set_option autoImplicit false

/-!
# Binary64 data

A binary64 datum is a sign and a 63-bit code: the exponent field above the 52 fraction bits. Codes
below `infinityCode` are the finite magnitudes in increasing order, `infinityCode` is infinity and
the codes above it are not numbers. The magnitude of a code is counted in units of `2 ^ (-1074)`,
the least positive datum, so every magnitude is a natural number and the order of data is the
order of integers. Nothing here computes with rounded arithmetic.
-/

namespace DocumentGraph

/-- A sign and the 63 bits below it. -/
structure Binary64 where
  negative : Bool
  code : Nat
  code_lt : code < 9223372036854775808
deriving DecidableEq

namespace Binary64

/-- One, counted in units of the least positive datum. -/
def unitScale : Nat := Nat.pow 2 1074

def fractionUnit : Nat := 4503599627370496

def infinityCode : Nat := 2047 * fractionUnit

/-- The magnitude of a code in units of `2 ^ (-1074)`. -/
def magnitude (code : Nat) : Nat :=
  if code < fractionUnit then code
  else (fractionUnit + code % fractionUnit) * Nat.pow 2 (code / fractionUnit - 1)

def isFinite (x : Binary64) : Bool := x.code < infinityCode

def isNaN (x : Binary64) : Bool := infinityCode < x.code

/-- The value in units of `2 ^ (-1074)`; infinity lies beyond every finite value. -/
def scaled (x : Binary64) : Int :=
  if x.negative then -(magnitude x.code : Int) else (magnitude x.code : Int)

def less (x y : Binary64) : Bool := !x.isNaN && !y.isNaN && decide (x.scaled < y.scaled)

def atMost (x y : Binary64) : Bool := !x.isNaN && !y.isNaN && decide (x.scaled ≤ y.scaled)

def signedZero (negative : Bool) : Binary64 := ⟨negative, 0, by decide⟩

def signedInfinity (negative : Bool) : Binary64 := ⟨negative, infinityCode, by decide⟩

def zero : Binary64 := signedZero false

def infinity : Binary64 := signedInfinity false

def negativeInfinity : Binary64 := signedInfinity true

def notANumber : Binary64 := ⟨false, infinityCode + fractionUnit / 2, by decide⟩

/-- The scale as a power whose exponent stays a variable, so that it is not computed. -/
theorem exists_unitScale : ∃ n, n = 1074 ∧ unitScale = Nat.pow 2 n := by
  refine ⟨1074, rfl, ?_⟩
  delta unitScale
  with_reducible rfl

theorem scaled_zero : zero.scaled = 0 := by decide

theorem atMost_of_less {x y : Binary64} (h : x.less y = true) : x.atMost y = true := by
  simp only [less, atMost, Bool.and_eq_true, decide_eq_true_eq] at h ⊢
  exact ⟨h.1, by omega⟩

theorem isNaN_of_atMost {x y : Binary64} (h : x.atMost y = true) :
    x.isNaN = false ∧ y.isNaN = false := by
  simp only [atMost, Bool.and_eq_true, Bool.not_eq_true'] at h
  exact h.1

theorem atMost_refl {x : Binary64} (h : x.isNaN = false) : x.atMost x = true := by
  simp [atMost, h]

theorem less_of_atMost_of_less {x y z : Binary64} (hxy : x.atMost y = true)
    (hyz : y.less z = true) : x.less z = true := by
  simp only [less, atMost, Bool.and_eq_true, decide_eq_true_eq] at hxy hyz ⊢
  exact ⟨⟨hxy.1.1, hyz.1.2⟩, Int.lt_of_le_of_lt hxy.2 hyz.2⟩

theorem atMost_of_not_less {x y : Binary64} (hx : x.isNaN = false) (hy : y.isNaN = false)
    (h : ¬ x.less y = true) : y.atMost x = true := by
  simp only [less, atMost, hx, hy, Bool.not_false, Bool.true_and, decide_eq_true_eq] at h ⊢
  exact Int.not_lt.mp h

theorem less_irrefl (x : Binary64) : x.less x = false := by simp [less]

end Binary64

end DocumentGraph
