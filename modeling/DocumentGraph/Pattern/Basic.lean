import DocumentGraph.Unicode.Property
set_option autoImplicit false

/-!
# Search patterns and their matches

A pattern is built from character sets, assertions about the neighbourhood of a position,
concatenation, choice and repetition. It is read as a map on sets of positions of a text: from the
positions where a match may start to all positions where one may end. A set of positions is a
natural number, position `i` being bit `i`, so taking a character is a shift and an assertion is a
mask. A text contains a match when the map carries the set of all positions to a non-empty set.

Patterns whose automaton is too large are refused. The size is estimated from the pattern, so it is
assumed that no pattern comes near `greatestWeight` without exceeding it by far.
-/

namespace DocumentGraph

inductive WordEdge where
  | boundary
  | inside
  | start
  | stop
  | halfStart
  | halfStop
deriving DecidableEq, Repr

inductive Assertion where
  | textStart
  | textEnd
  | lineStart (carriageReturns : Bool)
  | lineEnd (carriageReturns : Bool)
  | word (edge : WordEdge) (unicode : Bool)
deriving DecidableEq, Repr

inductive Pattern where
  | empty
  | chars (set : CharSet)
  | assert (a : Assertion)
  | seq (p q : Pattern)
  | either (p q : Pattern)
  | repeated (p : Pattern) (least : Nat) (most : Option Nat)
deriving Repr

namespace Pattern

def asciiDigit : CharSet := .range 48 57

def asciiSpace : CharSet := ⟨[9, 14, 32, 33]⟩

def asciiWord : CharSet := ⟨[48, 58, 65, 91, 95, 96, 97, 123]⟩

def unicodeDigit : CharSet := (Unicode.category? "nd").getD .empty

/-- Letters, marks, digits, connectors and joiners. -/
def unicodeWord : CharSet :=
  CharSet.unionAll (Unicode.alphabetic :: CharSet.ofGaps Unicode.joinControlGaps ::
    ["m", "nd", "pc"].filterMap Unicode.category?)

def isWordChar (unicode : Bool) (c : Option Char) : Bool :=
  match c with
  | none => false
  | some c =>
    if c.toNat < 128 then asciiWord.contains c else unicode && unicodeWord.contains c

end Pattern

/-- Whether the assertion holds between two characters; `none` is an end of the text. -/
def Assertion.holds (before behind : Option Char) : Assertion → Bool
  | .textStart => before.isNone
  | .textEnd => behind.isNone
  | .lineStart false => before.isNone || before = some '\n'
  | .lineStart true =>
    before.isNone || before = some '\n' || (before = some '\r' && behind ≠ some '\n')
  | .lineEnd false => behind.isNone || behind = some '\n'
  | .lineEnd true =>
    behind.isNone || behind = some '\r' || (behind = some '\n' && before ≠ some '\r')
  | .word edge unicode =>
    let b := Pattern.isWordChar unicode before
    let a := Pattern.isWordChar unicode behind
    match edge with
    | .boundary => b != a
    | .inside => b == a
    | .start => !b && a
    | .stop => b && !a
    | .halfStart => !b
    | .halfStop => !a

namespace Pattern

/-- The positions whose character satisfies `f`. -/
def charMask (f : Char → Bool) : List Char → Nat
  | [] => 0
  | c :: cs => (if f c then 1 else 0) + 2 * charMask f cs

/-- The positions, the end of the text included, whose neighbours satisfy `f`. -/
def edgeMask (f : Option Char → Option Char → Bool) : Option Char → List Char → Nat
  | before, [] => if f before none then 1 else 0
  | before, c :: cs => (if f before (some c) then 1 else 0) + 2 * edgeMask f (some c) cs

/-- A pattern prepared for one text: its sets and assertions are sets of positions. -/
inductive Walk where
  | stay
  | step (mask : Nat)
  | keep (mask : Nat)
  | seq (p q : Walk)
  | either (p q : Walk)
  | repeated (p : Walk) (least : Nat) (most : Option Nat)

def prepare (text : List Char) : Pattern → Walk
  | .empty => .stay
  | .chars set => .step (charMask set.contains text)
  | .assert a => .keep (edgeMask (fun before behind => a.holds before behind) none text)
  | .seq p q => .seq (prepare text p) (prepare text q)
  | .either p q => .either (prepare text p) (prepare text q)
  | .repeated p least most => .repeated (prepare text p) least most

def iterate (f : Nat → Nat) : Nat → Nat → Nat
  | 0, s => s
  | n + 1, s =>
    let t := f s
    if t = s then s else iterate f n t

def gather (f : Nat → Nat) : Nat → Nat → Nat
  | 0, s => s
  | n + 1, s =>
    let t := s ||| f s
    if t = s then s else gather f n t

/-- The positions where a match that starts in `s` may end; `size` is the length of the text. -/
def Walk.reach (size : Nat) : Walk → Nat → Nat
  | .stay, s => s
  | .step mask, s => (s &&& mask) <<< 1
  | .keep mask, s => s &&& mask
  | .seq p q, s => q.reach size (p.reach size s)
  | .either p q, s => p.reach size s ||| q.reach size s
  | .repeated p least most, s =>
    gather (p.reach size) ((most.map (· - least)).getD (size + 1)) (iterate (p.reach size) least s)

def isMatch (p : Pattern) (text : String) : Bool :=
  let cs := text.toList
  (prepare cs p).reach cs.length (Nat.pow 2 (cs.length + 1) - 1) ≠ 0

/-- Approximate size in bytes of the automaton of a pattern. -/
def weight : Pattern → Nat
  | .empty => 32
  | .chars set => if set.isAscii then 32 + 4 * set.bounds.length else 200 + 32 * set.bounds.length
  | .assert _ => 32
  | .seq p q => weight p + weight q
  | .either p q => weight p + weight q + 40
  | .repeated p least most =>
    match most with
    | none => max least 1 * weight p + 40
    | some n => n * (weight p + 40)

def greatestWeight : Nat := 10485760

end Pattern

end DocumentGraph
