import DocumentGraph.Proofs.Identifier.Order
import Mathlib.Data.Nat.Digits.Lemmas
set_option autoImplicit false

namespace DocumentGraph

namespace Positional

variable {base : Nat}

theorem digits_eq_reverse (hb : 1 < base) (n : Nat) : digits base n = (Nat.digits base n).reverse := by
  induction n using Nat.strongRecOn with
  | _ n ih =>
    cases Nat.eq_zero_or_pos n with
    | inl h =>
      subst h
      rw [digits_zero, Nat.digits_zero, List.reverse_nil]
    | inr h =>
      rw [digits_pos hb h, ih _ (Nat.div_lt_self h hb), Nat.digits_def' hb h, List.reverse_cons]

theorem value_eq_ofDigits (ds : List Nat) : value base ds = Nat.ofDigits base ds.reverse := by
  induction ds using List.reverseRecOn with
  | nil => rfl
  | append_singleton ds d ih =>
    rw [value_append_singleton, ih, List.reverse_append, List.reverse_singleton, List.singleton_append,
      Nat.ofDigits_cons]
    ring

end Positional

namespace Base36

/-- The characters of the digits, from zero on. -/
def alphabet : List Char := "0123456789abcdefghijklmnopqrstuvwxyz".toList

theorem digitChar_alphabet {d : Nat} (h : d < 36) :
    digitChar d ∈ alphabet ∧ alphabet.idxOf (digitChar d) = d := by
  have all : ∀ d < 36, digitChar d ∈ alphabet ∧ alphabet.idxOf (digitChar d) = d := by decide
  exact all d h

variable {width m n : Nat}

theorem digits_lt (width n : Nat) : ∀ d ∈ Positional.padded 36 width n, d < 36 :=
  Positional.padded_lt (by decide) width n

theorem length_padded_eq_max (width n : Nat) :
    (padded width n).length = max width (Nat.digits 36 n).length := by
  rw [length_padded, Positional.digits_eq_reverse (by decide), List.length_reverse]

theorem mem_alphabet_of_mem_padded : ∀ c ∈ padded width n, c ∈ alphabet := by
  intro c hc
  obtain ⟨d, hd, rfl⟩ := List.mem_map.mp hc
  exact (digitChar_alphabet (digits_lt width n d hd)).1

theorem ofDigits_padded (width n : Nat) :
    Nat.ofDigits 36 ((padded width n).map alphabet.idxOf).reverse = n := by
  have hplaces : (padded width n).map alphabet.idxOf = Positional.padded 36 width n := by
    rw [padded, List.map_map]
    conv_rhs => rw [← List.map_id (Positional.padded 36 width n)]
    exact List.map_congr_left fun d hd => (digitChar_alphabet (digits_lt width n d hd)).2
  rw [hplaces, ← Positional.value_eq_ofDigits, Positional.value_padded (by decide)]

theorem bytes_padded_lt_iff (hm : m < 36 ^ width) (hn : n < 36 ^ width) :
    bytes (String.ofList (padded width m)) < bytes (String.ofList (padded width n)) ↔ m < n := by
  have hb : 1 < 36 := by decide
  have hlen : (Positional.padded 36 width m).length = (Positional.padded 36 width n).length := by
    rw [Positional.length_padded_of_lt hb hm, Positional.length_padded_of_lt hb hn]
  rw [padded, padded, bytes_map_digitChar (digits_lt width m), bytes_map_digitChar (digits_lt width n),
    map_digitByte_lt_iff (digits_lt width m) (digits_lt width n),
    Positional.lt_iff_value_lt hlen (digits_lt width m) (digits_lt width n), Positional.value_padded hb,
    Positional.value_padded hb]

/-- A padded number has as many characters as its width asks for or as it has digits, all of them in the
alphabet, and reads back as the number. Those that fit into the width have just as many characters and
are ordered as byte strings as they are ordered as numbers. No two numbers have the same text, whether
they fit or not. -/
theorem padded_embeds_order (width : Nat) :
    (∀ n, (padded width n).length = max width (Nat.digits 36 n).length ∧
      (∀ c ∈ padded width n, c ∈ alphabet) ∧
      Nat.ofDigits 36 ((padded width n).map alphabet.idxOf).reverse = n) ∧
    (∀ m n, m < 36 ^ width → n < 36 ^ width →
      (padded width m).length = width ∧ (padded width n).length = width ∧
      (bytes (String.ofList (padded width m)) < bytes (String.ofList (padded width n)) ↔ m < n)) ∧
    Function.Injective (padded width) :=
  ⟨fun n => ⟨length_padded_eq_max width n, mem_alphabet_of_mem_padded, ofDigits_padded width n⟩,
    fun _ _ hm hn => ⟨length_padded_of_lt hm, length_padded_of_lt hn, bytes_padded_lt_iff hm hn⟩,
    fun _ _ h => padded_injective h⟩

/-- The greatest number with one digit and the least with two, both in two characters. -/
theorem padded_embeds_order_carry : 35 < 36 ^ 2 ∧ 36 < 36 ^ 2 ∧
    padded 2 35 = ['0', 'z'] ∧ padded 2 36 = ['1', '0'] ∧
    bytes (String.ofList ['0', 'z']) < bytes (String.ofList ['1', '0']) := by
  have hfirst : padded 2 35 = ['0', 'z'] := by
    simp [padded, Positional.padded, Positional.digits, digitChar]
  have hnext : padded 2 36 = ['1', '0'] := by
    simp [padded, Positional.padded, Positional.digits, digitChar]
  have horder := ((padded_embeds_order 2).2.1 35 36 (by decide) (by decide)).2.2
  rw [hfirst, hnext] at horder
  exact ⟨by decide, by decide, hfirst, hnext, horder.mpr (by decide)⟩

end Base36

end DocumentGraph
