import DocumentGraph.Json.Reader
import DocumentGraph.Proofs.Number.Rounding
import Mathlib.Data.List.Induction
set_option autoImplicit false

namespace DocumentGraph

namespace Positional

theorem value_append (base : Nat) (ds es : List Nat) :
    value base (ds ++ es) = value base ds * base ^ es.length + value base es := by
  induction es using List.reverseRecOn with
  | nil => simp [value_nil]
  | append_singleton es d ih =>
    rw [← List.append_assoc, value_append_singleton, ih, value_append_singleton,
      List.length_append, List.length_singleton, Nat.pow_succ]
    ring

theorem value_append_zeros (base k : Nat) (ds : List Nat) :
    value base (ds ++ List.replicate k 0) = value base ds * base ^ k := by
  have h : value base (List.replicate k 0) = 0 := by
    simpa [value_nil] using value_zeros_append base k []
  rw [value_append, h, List.length_replicate, Nat.add_zero]

theorem digits_ne_nil {base n : Nat} (hb : 1 < base) (hn : 0 < n) : digits base n ≠ [] := by
  rw [digits_pos hb hn]
  simp

theorem head_digits_ne_zero {base n d : Nat} {ds : List Nat} (hb : 1 < base)
    (h : digits base n = d :: ds) : d ≠ 0 := by
  induction n using Nat.strongRecOn generalizing d ds with
  | _ n ih =>
    have hn : 0 < n := Nat.pos_of_ne_zero fun hn => by simp [hn, digits_zero] at h
    rw [digits_pos hb hn] at h
    cases hq : digits base (n / base) with
    | nil =>
      have hz : n / base = 0 := by
        rw [← value_digits hb (n / base), hq, value_nil]
      have hd : n % base = d := by
        rw [hq] at h
        exact (List.cons.inj h).1
      have := Nat.div_add_mod n base
      rw [hz, Nat.mul_zero] at this
      omega
    | cons e es =>
      rw [hq, List.cons_append, List.cons.injEq] at h
      rw [← h.1]
      exact ih _ (Nat.div_lt_self hn hb) hq

end Positional

namespace Decimal

theorem length_digits (n : Nat) : (Positional.digits 10 n).length = width n := by
  induction n using Nat.strongRecOn with
  | _ n ih =>
    by_cases h : n = 0
    · subst h; rw [Positional.digits_zero, width_zero]; rfl
    · have hn := Nat.pos_of_ne_zero h
      rw [Positional.digits_pos (by decide) hn, List.length_append, List.length_singleton,
        ih _ (Nat.div_lt_self hn (by decide)), width_pos hn]

end Decimal

namespace Layout

theorem digitChar_facts {d : Nat} (h : d < 10) : (digitChar d).isDigit = true ∧
    Json.digitValue (digitChar d) = d ∧ (digitChar d = '0' ↔ d = 0) := by
  have all : ∀ d < 10, (digitChar d).isDigit = true ∧
    Json.digitValue (digitChar d) = d ∧ (digitChar d = '0' ↔ d = 0) := by decide
  exact all d h

def AreDigits (cs : List Char) : Prop := ∀ c ∈ cs, c.isDigit = true

theorem areDigits_digitChars (n : Nat) : AreDigits (digitChars n) := by
  intro c hc
  obtain ⟨d, hd, rfl⟩ := List.mem_map.1 hc
  exact (digitChar_facts (Positional.digits_lt (by decide) n d hd)).1

theorem areDigits_natChars (n : Nat) : AreDigits (natChars n) := by
  unfold natChars
  split
  · intro c hc
    rw [List.mem_singleton.1 hc]
    rfl
  · exact areDigits_digitChars n

theorem areDigits_zeros (n : Nat) : AreDigits (zeros n) := by
  intro c hc
  rw [List.eq_of_mem_replicate hc]
  rfl

theorem AreDigits.append {cs ds : List Char} (hc : AreDigits cs) (hd : AreDigits ds) :
    AreDigits (cs ++ ds) := by
  intro c h
  rcases List.mem_append.1 h with h | h
  · exact hc c h
  · exact hd c h

theorem length_digitChars (n : Nat) : (digitChars n).length = Decimal.width n := by
  rw [digitChars, List.length_map, Decimal.length_digits]

theorem map_digitValue_digitChars (n : Nat) :
    (digitChars n).map Json.digitValue = Positional.digits 10 n := by
  rw [digitChars, List.map_map]
  conv_rhs => rw [← List.map_id (Positional.digits 10 n)]
  refine List.map_congr_left fun d hd => ?_
  exact (digitChar_facts (Positional.digits_lt (by decide) n d hd)).2.1

theorem digitsValue_digitChars (n : Nat) : Json.digitsValue (digitChars n) = n := by
  rw [Json.digitsValue, map_digitValue_digitChars, Positional.value_digits (by decide)]

theorem digitsValue_natChars (n : Nat) : Json.digitsValue (natChars n) = n := by
  unfold natChars
  split
  · rename_i h
    subst h
    decide
  · exact digitsValue_digitChars n

theorem map_digitValue_zeros (n : Nat) :
    (zeros n).map Json.digitValue = List.replicate n 0 := by
  rw [zeros, List.map_replicate]
  rfl

theorem digitsValue_append_zeros (cs : List Char) (n : Nat) :
    Json.digitsValue (cs ++ zeros n) = Json.digitsValue cs * 10 ^ n := by
  rw [Json.digitsValue, List.map_append, map_digitValue_zeros, Positional.value_append_zeros]
  rfl

theorem digitsValue_zeros_append (n : Nat) (cs : List Char) :
    Json.digitsValue (zeros n ++ cs) = Json.digitsValue cs := by
  rw [Json.digitsValue, List.map_append, map_digitValue_zeros, Positional.value_zeros_append]
  rfl

end Layout

end DocumentGraph
