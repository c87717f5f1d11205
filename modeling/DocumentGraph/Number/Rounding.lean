import DocumentGraph.Number.Binary64
set_option autoImplicit false

/-!
# Rounding to binary64

`roundedQuotient` divides to the nearest natural number, a half going to the even neighbour, and
`codeOfRatio` is the code of the binary64 magnitude nearest to a ratio, ties to even, infinity
beyond the last finite one. Integers and decimals are rounded through it. A decimal is a
coefficient and a power of ten.
-/

namespace DocumentGraph

namespace Binary64

/-- `n / d` to the nearest natural number, a half to the even neighbour. -/
def roundedQuotient (n d : Nat) : Nat :=
  let q := n / d
  let r := n % d
  if 2 * r < d then q
  else if d < 2 * r then q + 1
  else if q % 2 = 0 then q else q + 1

/-- The binary exponent above the least one at which a magnitude with integer part `v` is cut. -/
def cutExponent (v : Nat) : Nat := v.log2 - 52

/-- The code nearest to the magnitude `n / d`. A carry out of the fraction moves into the
    exponent field by itself. -/
def codeOfRatio (n d : Nat) : Nat :=
  let v := n * unitScale
  let k := cutExponent (v / d)
  min (k * fractionUnit + roundedQuotient v (d * Nat.pow 2 k)) infinityCode

theorem codeOfRatio_le (n d : Nat) : codeOfRatio n d ≤ infinityCode := Nat.min_le_right _ _

def ofRatio (negative : Bool) (n d : Nat) : Binary64 :=
  ⟨negative, codeOfRatio n d, Nat.lt_of_le_of_lt (codeOfRatio_le n d) (by decide)⟩

def ofInt (i : Int) : Binary64 := ofRatio (i < 0) i.natAbs 1

end Binary64

structure Decimal where
  coefficient : Nat
  exponent : Int
deriving DecidableEq, Repr

namespace Decimal

def width (n : Nat) : Nat :=
  if 0 < n then width (n / 10) + 1 else 0

/-- The binary64 datum nearest to a decimal with a sign. Decimals above `10 ^ 310` are beyond every
    finite datum and those below `10 ^ (-330)` are nearer to zero than to any other, so no larger
    power of ten is ever computed. -/
def toBinary64 (negative : Bool) (d : Decimal) : Binary64 :=
  let top := Int.ofNat (width d.coefficient) + d.exponent
  if d.coefficient = 0 ∨ top < -330 then Binary64.signedZero negative
  else if 310 < top then Binary64.signedInfinity negative
  else if 0 ≤ d.exponent then Binary64.ofRatio negative (d.coefficient * Nat.pow 10 d.exponent.toNat) 1
  else Binary64.ofRatio negative d.coefficient (Nat.pow 10 (-d.exponent).toNat)

end Decimal

end DocumentGraph
