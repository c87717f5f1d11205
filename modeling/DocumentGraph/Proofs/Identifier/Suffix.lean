import DocumentGraph.Identifier
import Mathlib.Algebra.Ring.Nat
set_option autoImplicit false

/-!
# Suffixes tell generators apart

While the clock fits into its nine digits, a suffix shows the clock reading and the count that it
was made from. A generator never makes two suffixes in the same state, because each one is made in a
later state than the one before.
-/

namespace DocumentGraph

namespace Positional

theorem length_digits_le {base width n : Nat} (hb : 1 < base) (h : n < base ^ width) :
    (digits base n).length ≤ width := by
  induction width generalizing n with
  | zero =>
    have hn : n = 0 := by
      rw [Nat.pow_zero] at h
      omega
    subst hn
    rw [digits_zero]
    exact Nat.le_refl 0
  | succ width ih =>
    cases Nat.eq_zero_or_pos n with
    | inl hn =>
      subst hn
      rw [digits_zero]
      exact Nat.zero_le _
    | inr hn =>
      rw [digits_pos hb hn, List.length_append, List.length_singleton]
      have hdiv : n / base < base ^ width := by
        rw [Nat.div_lt_iff_lt_mul (by omega), ← Nat.pow_succ]
        exact h
      exact Nat.succ_le_succ (ih hdiv)

theorem length_padded_of_lt {base width n : Nat} (hb : 1 < base) (h : n < base ^ width) :
    (padded base width n).length = width := by
  rw [length_padded]
  exact Nat.max_eq_left (length_digits_le hb h)

theorem padded_lt {base : Nat} (hb : 1 < base) (width n : Nat) :
    ∀ d ∈ padded base width n, d < base := by
  intro d hd
  rcases List.mem_append.mp hd with hd | hd
  · rw [List.eq_of_mem_replicate hd]
    exact Nat.zero_lt_of_lt hb
  · exact digits_lt hb n d hd

end Positional

namespace Base36

theorem length_padded_of_lt {width n : Nat} (h : n < 36 ^ width) :
    (padded width n).length = width := by
  rw [padded, List.length_map]
  exact Positional.length_padded_of_lt (by decide) h

theorem padded_injective {v w m n : Nat} (h : padded v m = padded w n) : m = n := by
  rw [← read_padded v m, h, read_padded]

theorem underscore_not_mem_padded (width n : Nat) : '_' ∉ padded width n := by
  have hdigit : ∀ d < 36, digitChar d ≠ '_' := by decide
  rw [padded, List.mem_map]
  rintro ⟨d, hd, hchar⟩
  exact hdigit d (Positional.padded_lt (by decide) width n d hd) hchar

end Base36

namespace Identifier

def Generator.InRange (g : Generator) : Prop :=
  0 ≤ g.millis.toInt ∧ g.millis.toInt.toNat < 36 ^ timeWidth

/-- The state of an earlier identifier, or the same one. -/
def Generator.AtMost (g h : Generator) : Prop :=
  g.millis.toInt < h.millis.toInt ∨ (g.millis = h.millis ∧ g.count ≤ h.count)

namespace Generator

variable {g h k : Generator} {clock : Int64}

theorem inRange_initial : Generator.initial.InRange := ⟨by decide, by decide⟩

theorem AtMost.refl (g : Generator) : g.AtMost g := .inr ⟨rfl, Nat.le_refl _⟩

theorem AtMost.trans (hgh : g.AtMost h) (hhk : h.AtMost k) : g.AtMost k := by
  rcases hgh with hlt | ⟨he, hc⟩
  · rcases hhk with hlt' | ⟨he', -⟩
    · exact .inl (Int.lt_trans hlt hlt')
    · exact .inl (he' ▸ hlt)
  · rcases hhk with hlt' | ⟨he', hc'⟩
    · exact .inl (he ▸ hlt')
    · exact .inr ⟨he.trans he', Nat.le_trans hc hc'⟩

theorem toInt_max (a b : Int64) : (max a b).toInt = max a.toInt b.toInt := by
  have hdef : max a b = if a ≤ b then b else a := rfl
  rw [hdef, Int.max_def]
  by_cases h : a ≤ b
  · rw [if_pos h, if_pos (Int64.le_iff_toInt_le.mp h)]
  · rw [if_neg h, if_neg fun hle => h (Int64.le_iff_toInt_le.mpr hle)]

theorem advance_later (g : Generator) (clock : Int64) :
    g.AtMost (g.advance clock) ∧ ¬ (g.advance clock).AtMost g := by
  unfold advance
  have hmax := toInt_max clock g.millis
  split
  · refine ⟨.inr ⟨rfl, Nat.le_succ _⟩, ?_⟩
    rintro (hlt | ⟨-, hc⟩)
    · exact Int.lt_irrefl _ hlt
    · exact Nat.not_succ_le_self _ hc
  · next hne =>
    have hlt : g.millis.toInt < (max clock g.millis).toInt := by
      have hne' : (max clock g.millis).toInt ≠ g.millis.toInt := fun e => hne (Int64.toInt_inj.mp e)
      omega
    refine ⟨.inl hlt, ?_⟩
    rintro (hlt' | ⟨he, -⟩)
    · exact Int.lt_asymm hlt hlt'
    · exact hne he

theorem inRange_advance (hg : g.InRange) (hclock : clock.toInt.toNat < 36 ^ timeWidth) :
    (g.advance clock).InRange := by
  unfold advance
  have hmax := toInt_max clock g.millis
  obtain ⟨hlow, hhigh⟩ := hg
  split
  · exact ⟨hlow, hhigh⟩
  · refine ⟨?_, ?_⟩
    · change 0 ≤ (max clock g.millis).toInt
      omega
    · change (max clock g.millis).toInt.toNat < _
      rw [hmax, Int.max_def]
      split
      · exact hhigh
      · exact hclock

theorem suffix_injective (hg : g.InRange) (hh : h.InRange) {t u : Nat}
    (heq : g.suffix t = h.suffix u) : g = h := by
  have htail (t : Nat) : (Base36.padded tailWidth (t % Nat.pow 36 tailWidth)).length = tailWidth :=
    Base36.length_padded_of_lt (Nat.mod_lt _ (by decide))
  have htime {g : Generator} (hg : g.InRange) :
      (Base36.padded timeWidth g.millis.toInt.toNat).length = timeWidth := by
    exact Base36.length_padded_of_lt hg.2
  unfold suffix at heq
  obtain ⟨hfront, -⟩ := List.append_inj' heq (by rw [htail, htail])
  obtain ⟨hmillis, hcount⟩ := List.append_inj hfront (by rw [htime hg, htime hh])
  have hm := Base36.padded_injective hmillis
  have hc := Base36.padded_injective hcount
  have hint : g.millis.toInt = h.millis.toInt := by
    have := hg.1
    have := hh.1
    omega
  obtain ⟨gm, gc⟩ := g
  obtain ⟨hm', hc'⟩ := h
  simp only at hint hc
  rw [Int64.toInt_inj.mp hint, hc]

theorem underscore_not_mem_suffix (g : Generator) (tail : Nat) : '_' ∉ g.suffix tail := by
  simp [suffix, Base36.underscore_not_mem_padded]

end Generator

theorem make_ne_empty (name : String) (suffix : List Char) : make name suffix ≠ "" := by
  intro h
  have hlist := congrArg String.toList h
  simp [make] at hlist

/-- An identifier shows its suffix whatever its name is: the last underscore stands before it. -/
theorem suffix_eq_of_make_eq {name other : String} {g h : Generator} {t u : Nat}
    (heq : make name (g.suffix t) = make other (h.suffix u)) : g.suffix t = h.suffix u := by
  have hlist : name.toList ++ '_' :: g.suffix t = other.toList ++ '_' :: h.suffix u := by
    simpa [make] using congrArg String.toList heq
  -- What one name has more than the other would put an underscore into a suffix.
  rcases List.append_eq_append_iff.mp hlist with ⟨more, -, hrest⟩ | ⟨more, -, hrest⟩
  · cases more with
    | nil => exact (List.cons.inj hrest).2
    | cons c more =>
      refine absurd ?_ (g.underscore_not_mem_suffix t)
      rw [(List.cons.inj hrest).2]
      exact List.mem_append_right more List.mem_cons_self
  · cases more with
    | nil => exact (List.cons.inj hrest).2.symm
    | cons c more =>
      refine absurd ?_ (h.underscore_not_mem_suffix u)
      rw [(List.cons.inj hrest).2]
      exact List.mem_append_right more List.mem_cons_self

end Identifier

end DocumentGraph
