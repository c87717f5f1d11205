import DocumentGraph.Number.Positional
set_option autoImplicit false

/-!
# Generated identifiers

An identifier is a name, an underscore and a suffix that sorts by age: the clock in nine base-36
digits, a count within the millisecond in four and a random tail in six. The generator remembers
the last clock reading it used and never goes behind it, so a clock that stands still or steps
back only moves the count. A field that outgrows its width keeps all its digits. The count goes on
without a bound; one of 64 bits agrees with it for fewer than `2 ^ 64` identifiers.
-/

namespace DocumentGraph

namespace Base36

def digitChar (d : Nat) : Char :=
  if d < 10 then Char.ofNat (48 + d) else Char.ofNat (87 + d)

def digitValue (c : Char) : Nat :=
  if c.toNat < 58 then c.toNat - 48 else c.toNat - 87

def padded (width n : Nat) : List Char := (Positional.padded 36 width n).map digitChar

def read (cs : List Char) : Nat := Positional.value 36 (cs.map digitValue)

theorem digitValue_digitChar {d : Nat} (h : d < 36) : digitValue (digitChar d) = d := by
  have all : ∀ d < 36, digitValue (digitChar d) = d := by decide
  exact all d h

theorem read_padded (width n : Nat) : read (padded width n) = n := by
  have h : (Positional.padded 36 width n).map (digitValue ∘ digitChar) =
      Positional.padded 36 width n := by
    rw [List.map_congr_left (g := id), List.map_id]
    intro d hd
    rw [Positional.padded, List.mem_append] at hd
    rcases hd with hd | hd
    · rw [(List.mem_replicate.1 hd).2]; rfl
    · exact digitValue_digitChar (Positional.digits_lt (by decide) n d hd)
  rw [read, padded, List.map_map, h, Positional.value_padded (by decide)]

theorem length_padded (width n : Nat) :
    (padded width n).length = max width (Positional.digits 36 n).length := by
  rw [padded, List.length_map, Positional.length_padded]

end Base36

namespace Identifier

def timeWidth : Nat := 9

def countWidth : Nat := 4

def tailWidth : Nat := 6

/-- The last clock reading used and how many identifiers were made at it after the first. -/
structure Generator where
  millis : Int64
  count : Nat
deriving DecidableEq, Repr

def Generator.initial : Generator := ⟨0, 0⟩

def Generator.advance (g : Generator) (clock : Int64) : Generator :=
  if max clock g.millis = g.millis then { g with count := g.count + 1 }
  else ⟨max clock g.millis, 0⟩

def Generator.suffix (g : Generator) (tail : Nat) : List Char :=
  Base36.padded timeWidth g.millis.toInt.toNat ++ Base36.padded countWidth g.count ++
    Base36.padded tailWidth (tail % Nat.pow 36 tailWidth)

structure Source where
  generator : Generator
  tails : Nat → Nat
  drawn : Nat

def Source.next (s : Source) (clock : Int64) : List Char × Source :=
  let g := s.generator.advance clock
  (g.suffix (s.tails s.drawn), ⟨g, s.tails, s.drawn + 1⟩)

def make (name : String) (suffix : List Char) : String :=
  name ++ "_" ++ String.ofList suffix

end Identifier

end DocumentGraph
