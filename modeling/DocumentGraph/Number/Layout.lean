import DocumentGraph.Number.Positional
import DocumentGraph.Number.Shortest
set_option autoImplicit false

/-!
# Layout of decimals

A layout says which exponents are written positionally, whether a whole number keeps a fraction
and which of two equally near decimals is chosen. JSON text and plain text differ in nothing else.
-/

namespace DocumentGraph

/-- Choices of a decimal text. The exponent is that of the leading digit. -/
structure Layout where
  positional : Int → Bool
  keepsFraction : Bool
  tie : Tie

namespace Layout

/-- JSON text is positional from `1e-5` up to below `1e16` and a whole number ends in `.0`. -/
def json : Layout := ⟨fun e => decide (-5 ≤ e) && decide (e < 16), true, .even⟩

/-- Plain text is always positional and writes a whole number without a fraction. -/
def plain : Layout := ⟨fun _ => true, false, .up⟩

def digitChar (d : Nat) : Char := Char.ofNat (48 + d)

def digitChars (n : Nat) : List Char := (Positional.digits 10 n).map digitChar

def natChars (n : Nat) : List Char := if n = 0 then ['0'] else digitChars n

def intChars (i : Int) : List Char :=
  if i < 0 then '-' :: natChars i.natAbs else natChars i.natAbs

def zeros (n : Nat) : List Char := List.replicate n '0'

def positionalChars (keepsFraction : Bool) (ds : List Char) (e : Int) : List Char :=
  if e < 0 then '0' :: '.' :: (zeros (-e - 1).toNat ++ ds)
  else
    let whole := (e + 1).toNat
    if ds.length ≤ whole then
      ds ++ zeros (whole - ds.length) ++ (if keepsFraction then ['.', '0'] else [])
    else ds.take whole ++ '.' :: ds.drop whole

def scientificChars (ds : List Char) (e : Int) : List Char :=
  let mantissa := match ds with
    | [] => ['0']
    | [d] => [d]
    | d :: rest => d :: '.' :: rest
  mantissa ++ 'e' :: (if e < 0 then '-' else '+') :: natChars e.natAbs

def decimalChars (l : Layout) (d : Decimal) : List Char :=
  if d.coefficient = 0 then if l.keepsFraction then ['0', '.', '0'] else ['0']
  else
    let ds := digitChars d.coefficient
    let e : Int := ds.length - 1 + d.exponent
    if l.positional e then positionalChars l.keepsFraction ds e else scientificChars ds e

def finiteChars (l : Layout) (x : Binary64) : List Char :=
  let text := decimalChars l (Decimal.shortest l.tie x)
  if x.negative then '-' :: text else text

end Layout

namespace Binary64

def plainText (x : Binary64) : String :=
  if x.isNaN then "NaN"
  else if x.isFinite then String.ofList (Layout.plain.finiteChars x)
  else if x.negative then "-inf" else "inf"

end Binary64

end DocumentGraph
