import DocumentGraph.Proofs.Identifier.Suffix
import DocumentGraph.Proofs.Number.Digits
import DocumentGraph.Proofs.Text.Bytes
import Mathlib.Data.List.Chain
set_option autoImplicit false

/-!
# Identifiers sort by age

Identifiers are compared as byte strings. As long as every field fits into its width, comparing two
suffixes is comparing numbers, and those of a generator only grow. The count outgrows its four digits
if the clock stays where it is for too many identifiers; then the next one sorts before those that came
before it.
-/

namespace DocumentGraph

namespace Positional

variable {base : Nat}

theorem value_lt {ds : List Nat} (h : ∀ d ∈ ds, d < base) : value base ds < base ^ ds.length := by
  induction ds using List.reverseRecOn with
  | nil => exact Nat.one_pos
  | append_singleton ds d ih =>
    have hd : d < base := h d (List.mem_append_right _ List.mem_cons_self)
    have hds := ih fun e he => h e (List.mem_append_left _ he)
    rw [value_append_singleton, List.length_append, List.length_singleton, Nat.pow_succ]
    calc value base ds * base + d < value base ds * base + base := Nat.add_lt_add_left hd _
      _ = (value base ds + 1) * base := (Nat.succ_mul _ _).symm
      _ ≤ base ^ ds.length * base := Nat.mul_le_mul_right base hds

theorem value_cons (d : Nat) (ds : List Nat) :
    value base (d :: ds) = d * base ^ ds.length + value base ds := by
  have hd : value base [d] = d := by simp [value]
  rw [← List.singleton_append, value_append, hd]

theorem place_lt_iff {k x y u v : Nat} (hu : u < k) (hv : v < k) :
    x * k + u < y * k + v ↔ x < y ∨ x = y ∧ u < v := by
  constructor
  · intro h
    rcases Nat.lt_trichotomy x y with hlt | rfl | hgt
    · exact .inl hlt
    · exact .inr ⟨rfl, Nat.lt_of_add_lt_add_left h⟩
    · have hle : (y + 1) * k ≤ x * k := Nat.mul_le_mul_right k hgt
      rw [Nat.succ_mul] at hle
      omega
  · rintro (hlt | ⟨rfl, hlt⟩)
    · have hle : (x + 1) * k ≤ y * k := Nat.mul_le_mul_right k hlt
      rw [Nat.succ_mul] at hle
      omega
    · exact Nat.add_lt_add_left hlt _

theorem lt_iff_value_lt {ds es : List Nat} (hlen : ds.length = es.length)
    (hds : ∀ d ∈ ds, d < base) (hes : ∀ e ∈ es, e < base) :
    ds < es ↔ value base ds < value base es := by
  induction ds generalizing es with
  | nil =>
    obtain rfl := List.eq_nil_of_length_eq_zero hlen.symm
    simp [value_nil]
  | cons d ds ih =>
    cases es with
    | nil => cases hlen
    | cons e es =>
      obtain ⟨-, hds⟩ := List.forall_mem_cons.mp hds
      obtain ⟨-, hes⟩ := List.forall_mem_cons.mp hes
      have htail : ds.length = es.length := Nat.succ.inj hlen
      have hd : value base ds < base ^ es.length := htail ▸ value_lt hds
      rw [List.cons_lt_cons_iff, ih htail hds hes, value_cons, value_cons, htail,
        place_lt_iff hd (value_lt hes)]

end Positional

namespace Base36

def digitByte (d : Nat) : UInt8 := (digitChar d).val.toUInt8

theorem toNat_digitByte {d : Nat} (hd : d < 36) :
    (digitByte d).toNat = if d < 10 then 48 + d else 87 + d := by
  have hbyte : ∀ d < 36, (digitByte d).toNat = if d < 10 then 48 + d else 87 + d := by decide
  exact hbyte d hd

variable {d e : Nat}

theorem digitByte_lt_iff (hd : d < 36) (he : e < 36) : digitByte d < digitByte e ↔ d < e := by
  rw [UInt8.lt_iff_toNat_lt, toNat_digitByte hd, toNat_digitByte he]
  split <;> split <;> omega

theorem digitByte_inj (hd : d < 36) (he : e < 36) : digitByte d = digitByte e ↔ d = e := by
  rw [← UInt8.toNat_inj, toNat_digitByte hd, toNat_digitByte he]
  split <;> split <;> omega

theorem map_digitByte_lt_iff {ds es : List Nat} (hds : ∀ d ∈ ds, d < 36) (hes : ∀ e ∈ es, e < 36) :
    ds.map digitByte < es.map digitByte ↔ ds < es := by
  induction ds generalizing es with
  | nil => cases es <;> simp
  | cons d ds ih =>
    cases es with
    | nil => simp
    | cons e es =>
      obtain ⟨hd, hds⟩ := List.forall_mem_cons.mp hds
      obtain ⟨he, hes⟩ := List.forall_mem_cons.mp hes
      rw [List.map_cons, List.map_cons, List.cons_lt_cons_iff, List.cons_lt_cons_iff, ih hds hes,
        digitByte_lt_iff hd he, digitByte_inj hd he]

theorem bytes_map_digitChar {ds : List Nat} (h : ∀ d ∈ ds, d < 36) :
    bytes (String.ofList (ds.map digitChar)) = ds.map digitByte := by
  have hsize : ∀ d < 36, (digitChar d).utf8Size = 1 := by decide
  have hchars : ∀ c ∈ ds.map digitChar, c.utf8Size = 1 := by
    intro c hc
    obtain ⟨d, hd, rfl⟩ := List.mem_map.mp hc
    exact hsize d (h d hd)
  rw [bytes_ofList hchars, List.map_map]
  rfl

end Base36

namespace Identifier

namespace Generator

variable {g h : Generator} {t u : Nat} {clock : Int64}

def digits (g : Generator) (tail : Nat) : List Nat :=
  Positional.padded 36 timeWidth g.millis.toInt.toNat ++
    (Positional.padded 36 countWidth g.count ++
      Positional.padded 36 tailWidth (tail % Nat.pow 36 tailWidth))

theorem suffix_eq (g : Generator) (tail : Nat) :
    g.suffix tail = (g.digits tail).map Base36.digitChar := by
  simp [suffix, digits, Base36.padded]

theorem digits_lt (g : Generator) (tail : Nat) : ∀ d ∈ g.digits tail, d < 36 := by
  intro d hd
  have hpadded (width n : Nat) := Positional.padded_lt (show 1 < 36 by decide) width n
  rcases List.mem_append.mp hd with hd | hd
  · exact hpadded _ _ d hd
  · rcases List.mem_append.mp hd with hd | hd <;> exact hpadded _ _ d hd

theorem bytes_make_lt_iff (name : String) :
    bytes (make name (g.suffix t)) < bytes (make name (h.suffix u)) ↔ g.digits t < h.digits u := by
  have hbytes (g : Generator) (t : Nat) : bytes (String.ofList (g.suffix t)) =
      (g.digits t).map Base36.digitByte := by
    rw [suffix_eq, Base36.bytes_map_digitChar (g.digits_lt t)]
  rw [make, make, bytes_append (name ++ "_"), bytes_append (name ++ "_"), append_lt_append_iff, hbytes,
    hbytes, Base36.map_digitByte_lt_iff (g.digits_lt t) (h.digits_lt u)]

/-- Every field of the suffix fits into its width. -/
def Fits (g : Generator) : Prop := g.InRange ∧ g.count < 36 ^ countWidth

theorem length_digits (hg : g.Fits) (t : Nat) :
    (g.digits t).length = timeWidth + (countWidth + tailWidth) := by
  have hb : 1 < 36 := by decide
  have htail : t % Nat.pow 36 tailWidth < 36 ^ tailWidth := Nat.mod_lt _ (by decide)
  rw [digits, List.length_append, List.length_append, Positional.length_padded_of_lt hb hg.1.2,
    Positional.length_padded_of_lt hb hg.2, Positional.length_padded_of_lt hb htail]

theorem value_digits (hg : g.Fits) (t : Nat) : Positional.value 36 (g.digits t) =
    g.millis.toInt.toNat * 36 ^ (countWidth + tailWidth) +
      (g.count * 36 ^ tailWidth + t % 36 ^ tailWidth) := by
  have hb : 1 < 36 := by decide
  have htail : t % Nat.pow 36 tailWidth < 36 ^ tailWidth := Nat.mod_lt _ (by decide)
  rw [digits, Positional.value_append, Positional.value_append, List.length_append,
    Positional.length_padded_of_lt hb hg.2, Positional.length_padded_of_lt hb htail,
    Positional.value_padded hb, Positional.value_padded hb, Positional.value_padded hb]
  rfl

theorem digits_lt_of_later (hg : g.Fits) (hh : h.Fits) (hle : g.AtMost h) (hnot : ¬ h.AtMost g)
    (t u : Nat) : g.digits t < h.digits u := by
  have hlen : (g.digits t).length = (h.digits u).length := by rw [length_digits hg, length_digits hh]
  have htail (t : Nat) : t % 36 ^ tailWidth < 36 ^ tailWidth := Nat.mod_lt _ (by decide)
  have hlow {g : Generator} (hg : g.Fits) (t : Nat) :
      g.count * 36 ^ tailWidth + t % 36 ^ tailWidth < 36 ^ (countWidth + tailWidth) := by
    have hcount := hg.2
    have hrest := htail t
    simp only [countWidth, tailWidth] at hcount hrest ⊢
    omega
  rw [Positional.lt_iff_value_lt hlen (g.digits_lt t) (h.digits_lt u), value_digits hg,
    value_digits hh, Positional.place_lt_iff (hlow hg t) (hlow hh u),
    Positional.place_lt_iff (htail t) (htail u)]
  have hfrom := hg.1.1
  rcases hle with hlt | ⟨hmillis, hcount⟩
  · exact .inl (by omega)
  · have hne : h.count ≠ g.count := fun he => hnot (.inr ⟨hmillis.symm, he.le⟩)
    exact .inr ⟨by rw [hmillis], .inl (by omega)⟩

/-- When the count gets a fifth digit the digits become smaller. -/
theorem not_digits_lt_of_overflow (hmillis : h.millis = g.millis)
    (hg : g.count + 1 = 36 ^ countWidth) (hh : h.count = 36 ^ countWidth) (t u : Nat) :
    ¬ g.digits t < h.digits u := by
  have hlast : Positional.padded 36 countWidth g.count = [35, 35, 35, 35] := by
    rw [show g.count = 1679615 from Nat.succ.inj hg]
    simp [Positional.padded, Positional.digits, countWidth]
  have hnext : Positional.padded 36 countWidth h.count = [1, 0, 0, 0, 0] := by
    rw [hh]
    simp [Positional.padded, Positional.digits, countWidth]
  rw [digits, digits, hmillis, hlast, hnext, append_lt_append_iff]
  simp [List.cons_lt_cons_iff]

theorem advance_cases (g : Generator) (clock : Int64) :
    (g.advance clock).millis = g.millis ∧ (g.advance clock).count = g.count + 1 ∨
      (g.advance clock).count = 0 := by
  unfold advance
  split
  · exact .inl ⟨rfl, rfl⟩
  · exact .inr rfl

def states (g : Generator) : List Int64 → List Generator
  | [] => []
  | clock :: rest => g.advance clock :: (g.advance clock).states rest

theorem count_le (g : Generator) (clocks : List Int64) :
    ∀ h ∈ g.states clocks, h.count ≤ g.count + clocks.length := by
  induction clocks generalizing g with
  | nil => exact fun h hh => absurd hh List.not_mem_nil
  | cons c rest ih =>
    have hnext : (g.advance c).count ≤ g.count + 1 := by
      rcases g.advance_cases c with ⟨-, h⟩ | h <;> omega
    intro h hh
    rw [List.length_cons]
    rcases List.mem_cons.mp hh with rfl | hh
    · omega
    · have := ih _ h hh
      omega

theorem max_advance (g : Generator) (clock : Int64) :
    max clock (g.advance clock).millis = (g.advance clock).millis := by
  unfold advance
  split
  · next hmax => exact hmax
  · refine Int64.toInt_inj.mp ?_
    rw [toInt_max, toInt_max]
    omega

/-- The count grows with every identifier while the clock is not later than the last reading used. -/
theorem exists_count {g : Generator} (hclock : max clock g.millis = g.millis) (n : Nat) :
    ∃ h ∈ g :: g.states (List.replicate n clock), h.count = g.count + n := by
  induction n generalizing g with
  | zero => exact ⟨g, List.mem_cons_self, rfl⟩
  | succ n ih =>
    let k : Generator := { g with count := g.count + 1 }
    have hnext : g.advance clock = k := if_pos hclock
    obtain ⟨h, hmem, hcount⟩ := ih (g := k) hclock
    rw [List.replicate_succ, states, hnext]
    exact ⟨h, List.mem_cons_of_mem g hmem, hcount.trans (Nat.succ_add_eq_add_succ _ n)⟩

end Generator

def Source.ids (name : String) (s : Source) : List Int64 → List String
  | [] => []
  | clock :: rest => make name (s.next clock).1 :: (s.next clock).2.ids name rest

/-- The first text sorts before the second one, as byte strings. -/
def Before (a b : String) : Prop := bytes a < bytes b

instance : Trans Before Before Before := ⟨fun hab hbc => List.lt_trans hab hbc⟩

variable {name : String} {s : Source} {clocks : List Int64}

theorem before_iff (name : String) {g : Generator} {clock : Int64} (hg : g.Fits)
    (hclock : clock.toInt.toNat < 36 ^ timeWidth) (t u : Nat) :
    Before (make name (g.suffix t)) (make name ((g.advance clock).suffix u)) ↔
      (g.advance clock).count < 36 ^ countWidth := by
  have hrange := Generator.inRange_advance hg.1 hclock
  obtain ⟨hle, hnot⟩ := g.advance_later clock
  rw [Before, Generator.bytes_make_lt_iff]
  constructor
  · intro hlt
    by_contra hcount
    rcases g.advance_cases clock with ⟨hmillis, hnext⟩ | hzero
    · have hlast : g.count + 1 = 36 ^ countWidth := by
        have := hg.2
        omega
      exact Generator.not_digits_lt_of_overflow hmillis hlast (hnext.trans hlast) t u hlt
    · rw [hzero] at hcount
      exact hcount (by decide)
  · exact fun hcount => Generator.digits_lt_of_later hg ⟨hrange, hcount⟩ hle hnot t u

theorem isChain_ids_iff (hs : s.generator.Fits)
    (hclocks : ∀ c ∈ clocks, c.toInt.toNat < 36 ^ timeWidth) (tail : Nat) :
    (make name (s.generator.suffix tail) :: s.ids name clocks).IsChain Before ↔
      ∀ g ∈ s.generator.states clocks, g.count < 36 ^ countWidth := by
  induction clocks generalizing s tail with
  | nil => simp [Source.ids, Generator.states]
  | cons c rest ih =>
    obtain ⟨hc, hrest⟩ := List.forall_mem_cons.mp hclocks
    have hfirst := before_iff name hs hc tail (s.tails s.drawn)
    rw [Source.ids, Generator.states, List.isChain_cons_cons, List.forall_mem_cons]
    change Before _ (make name ((s.generator.advance c).suffix (s.tails s.drawn))) ∧
      (make name ((s.next c).2.generator.suffix (s.tails s.drawn)) ::
        (s.next c).2.ids name rest).IsChain Before ↔ _
    rw [hfirst]
    refine and_congr_right fun hcount => ih ⟨?_, hcount⟩ hrest _
    exact Generator.inRange_advance hs.1 hc

theorem pairwise_ids_iff (name : String) (tails : Nat → Nat)
    (hclocks : ∀ c ∈ clocks, c.toInt.toNat < 36 ^ timeWidth) :
    ((⟨.initial, tails, 0⟩ : Source).ids name clocks).Pairwise Before ↔
      ∀ g ∈ Generator.initial.states clocks, g.count < 36 ^ countWidth := by
  rw [← List.isChain_iff_pairwise]
  cases clocks with
  | nil => simp [Source.ids, Generator.states]
  | cons c rest =>
    obtain ⟨hc, hrest⟩ := List.forall_mem_cons.mp hclocks
    have hcount : (Generator.initial.advance c).count < 36 ^ countWidth := by
      rcases Generator.initial.advance_cases c with ⟨-, h⟩ | h
      · rw [h]
        decide
      · rw [h]
        decide
    have hrange := Generator.inRange_advance Generator.inRange_initial hc
    rw [Generator.states, List.forall_mem_cons, Source.ids]
    exact (isChain_ids_iff (s := ⟨Generator.initial.advance c, tails, 1⟩) ⟨hrange, hcount⟩ hrest
      (tails 0)).trans (and_iff_right hcount).symm

/-- The identifiers of a generator sort in the order in which they were made exactly if the count fits
into its digits every time. So they do if there are few of them, however the clock goes; and they do not
if the clock stands still for more of them than there are counts of that width. -/
theorem ids_ascend_iff (name : String) (tails : Nat → Nat) (clocks : List Int64)
    (hclocks : ∀ c ∈ clocks, c.toInt.toNat < 36 ^ timeWidth) :
    let ids := (⟨.initial, tails, 0⟩ : Source).ids name clocks
    (ids.Pairwise Before ↔ ∀ g ∈ Generator.initial.states clocks, g.count < 36 ^ countWidth) ∧
      (clocks.length < 36 ^ countWidth → ids.Pairwise Before) ∧
      ∀ clock n, clocks = List.replicate n clock → 36 ^ countWidth < n → ¬ ids.Pairwise Before := by
  have hiff := pairwise_ids_iff name tails hclocks
  refine ⟨hiff, fun hlength => hiff.mpr fun g hg => ?_, fun clock n hstuck hn hpairwise => ?_⟩
  · have hcount : g.count ≤ 0 + clocks.length := Generator.initial.count_le clocks g hg
    omega
  · subst hstuck
    cases n with
    | zero => exact Nat.not_lt_zero _ hn
    | succ m =>
      obtain ⟨g, hg, hcount⟩ := Generator.exists_count (Generator.initial.max_advance clock) m
      have hlt : g.count < 36 ^ countWidth := hiff.mp hpairwise g hg
      omega

/-- Three identifiers of one millisecond, the last one after the clock has stepped back. -/
theorem ids_ascend_of_stepping_back :
    ((⟨.initial, fun _ => 0, 0⟩ : Source).ids "user" [5, 5, 3]).Pairwise Before := by
  have hclocks : ∀ c ∈ ([5, 5, 3] : List Int64), c.toInt.toNat < 36 ^ timeWidth := by
    simp [timeWidth]
  exact (ids_ascend_iff "user" (fun _ => 0) [5, 5, 3] hclocks).2.1 (by decide)

end Identifier

end DocumentGraph
