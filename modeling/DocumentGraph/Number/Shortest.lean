import DocumentGraph.Number.Rounding
set_option autoImplicit false

/-!
# Shortest decimals

The decimal written for a finite binary64 datum has the fewest digits, one to seventeen, that read
back as the datum; of two such decimals the nearer one is taken, and a `Tie` says which of two
equally near ones. Each candidate is tested by reading it back, and the exact expansion of the
datum stands behind the search, so what is written always reads back.
-/

namespace DocumentGraph

inductive Tie where
  | even
  | up
deriving DecidableEq, Repr

namespace Decimal

/-- Moves trailing zeros of the coefficient into the exponent, at most `fuel` of them. -/
def strip : Nat → Decimal → Decimal
  | 0, d => d
  | fuel + 1, d =>
    if d.coefficient ≠ 0 ∧ d.coefficient % 10 = 0 then
      strip fuel ⟨d.coefficient / 10, d.exponent + 1⟩
    else d

/-- The exponent of the leading digit of a magnitude: `10 ^ e ≤ magnitude < 10 ^ (e + 1)`. -/
def leadingExponent (magnitude : Nat) : Int :=
  (width (magnitude * Nat.pow 10 330 / Binary64.unitScale) : Int) - 331

/-- The neighbours of a magnitude among the multiples of `10 ^ exponent`, the nearer one first. -/
def neighbours (tie : Tie) (magnitude : Nat) (exponent : Int) : List Decimal :=
  let n := if 0 ≤ exponent then magnitude else magnitude * Nat.pow 10 (-exponent).toNat
  let d := if 0 ≤ exponent then Binary64.unitScale * Nat.pow 10 exponent.toNat
    else Binary64.unitScale
  let q := n / d
  let r := n % d
  let low : Decimal := ⟨q, exponent⟩
  let high : Decimal := ⟨q + 1, exponent⟩
  if r = 0 then [low]
  else if 2 * r < d then [low, high]
  else if d < 2 * r then [high, low]
  else match tie with
    | .up => [high, low]
    | .even => if q % 2 = 0 then [low, high] else [high, low]

def candidates (tie : Tie) (magnitude : Nat) : List Decimal :=
  let top := leadingExponent magnitude
  (List.range 17).flatMap fun (k : Nat) => (neighbours tie magnitude (top - k)).map (strip 20)

def exact (magnitude : Nat) : Decimal :=
  strip 1100 ⟨magnitude * Nat.pow 5 1074, -1074⟩

def shortest (tie : Tie) (x : Binary64) : Decimal :=
  let m := Binary64.magnitude x.code
  if m = 0 then ⟨0, 0⟩
  else ((candidates tie m).find? fun d => d.toBinary64 x.negative = x).getD (exact m)

end Decimal

end DocumentGraph
