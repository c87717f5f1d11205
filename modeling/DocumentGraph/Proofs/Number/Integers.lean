import DocumentGraph.Proofs.Number.Rounding
set_option autoImplicit false

/-!
# Integers held as binary64 data

From `2 ^ 63` up to `2 ^ 64` binary64 data lie 2048 apart. An integer there is held as the nearest
multiple of 2048, and of two that are equally near as the one with the even factor. Integers that
are held as the same multiple merge; the order of all others is kept.
-/

namespace DocumentGraph

namespace Binary64

/-- The second integer is the multiple of 2048 nearest to the first one. -/
structure IsNearest (n m : Int) : Prop where
  multiple : 2048 ∣ m
  near : (n - m).natAbs ≤ 1024
  even : (n - m).natAbs = 1024 → 4096 ∣ m

/-- Both integers are beyond 63 bits and have the same nearest multiple of 2048. -/
def Merges (a b : Int) : Prop :=
  9223372036854775808 ≤ a ∧ 9223372036854775808 ≤ b ∧ ∃ m, IsNearest a m ∧ IsNearest b m

theorem merges_comm {a b : Int} : Merges a b ↔ Merges b a := by
  constructor <;> exact fun ⟨ha, hb, m, hm, hm'⟩ => ⟨hb, ha, m, hm', hm⟩

theorem IsNearest.mono {a b m k : Int} (hab : a ≤ b) (ha : IsNearest a m) (hb : IsNearest b k) :
    m ≤ k := by
  obtain ⟨⟨x, rfl⟩, hnear, heven⟩ := ha
  obtain ⟨⟨y, rfl⟩, hnear', heven'⟩ := hb
  by_contra hlt
  -- The multiples are neighbours then and both integers lie in the middle, so both would be even.
  have hmiddle : a = 2048 * y + 1024 ∧ b = a ∧ x = y + 1 := by omega
  obtain ⟨rfl, rfl, rfl⟩ := hmiddle
  have hx := heven (by omega)
  have hy := heven' (by omega)
  omega

theorem IsNearest.unique {n m k : Int} (hm : IsNearest n m) (hk : IsNearest n k) : m = k :=
  Int.le_antisymm (hm.mono (Int.le_refl n) hk) (hk.mono (Int.le_refl n) hm)

theorem isNearest_roundedQuotient (n : Nat) : IsNearest n (2048 * roundedQuotient n 2048 : Nat) := by
  have hdivided := Nat.div_add_mod n 2048
  have hrest : n % 2048 < 2048 := Nat.mod_lt _ (by decide)
  simp only [roundedQuotient]
  refine ⟨⟨_, Int.natCast_mul _ _⟩, ?_, ?_⟩ <;> split_ifs <;> omega

def held (n : Int) : Int :=
  if n < 9223372036854775808 then n else (2048 * roundedQuotient n.toNat 2048 : Nat)

theorem held_of_lt {n : Int} (h : n < 9223372036854775808) : held n = n := if_pos h

theorem isNearest_held {n : Int} (h : 9223372036854775808 ≤ n) : IsNearest n (held n) := by
  have hn : (n.toNat : Int) = n := by omega
  rw [held, if_neg (by omega), ← hn, Int.toNat_natCast]
  exact isNearest_roundedQuotient n.toNat

theorem le_held {n : Int} (h : 9223372036854775808 ≤ n) : 9223372036854775808 ≤ held n := by
  obtain ⟨⟨x, hx⟩, hnear, -⟩ := isNearest_held h
  omega

theorem held_mono {a b : Int} (h : a ≤ b) : held a ≤ held b := by
  by_cases hb : b < 9223372036854775808
  · rw [held_of_lt hb, held_of_lt (by omega)]
    exact h
  · have hb := le_held (Int.not_lt.mp hb)
    by_cases ha : a < 9223372036854775808
    · rw [held_of_lt ha]
      omega
    · exact (isNearest_held (Int.not_lt.mp ha)).mono h (isNearest_held (by omega))

theorem held_eq_iff {a b : Int} : held a = held b ↔ a = b ∨ Merges a b := by
  constructor
  · intro h
    by_cases ha : a < 9223372036854775808
    · by_cases hb : b < 9223372036854775808
      · rw [held_of_lt ha, held_of_lt hb] at h
        exact .inl h
      · have hb := le_held (Int.not_lt.mp hb)
        rw [← h, held_of_lt ha] at hb
        omega
    · by_cases hb : b < 9223372036854775808
      · have ha := le_held (Int.not_lt.mp ha)
        rw [h, held_of_lt hb] at ha
        omega
      · have ha := Int.not_lt.mp ha
        have hb := Int.not_lt.mp hb
        exact .inr ⟨ha, hb, held a, isNearest_held ha, h ▸ isNearest_held hb⟩
  · rintro (rfl | ⟨ha, hb, m, hm, hm'⟩)
    · rfl
    · exact ((isNearest_held ha).unique hm).trans (hm'.unique (isNearest_held hb))

/-- The two least integers beyond 63 bits merge. -/
theorem merges_least : Merges 9223372036854775809 9223372036854775808 :=
  ⟨by decide, by decide, 9223372036854775808, ⟨by decide, by decide, by decide⟩,
    ⟨by decide, by decide, by decide⟩⟩

theorem held_le_iff {a b : Int} : held a ≤ held b ↔ a ≤ b ∨ Merges a b := by
  constructor
  · intro h
    rcases le_or_gt a b with hle | hlt
    · exact .inl hle
    · have heq : held a = held b := Int.le_antisymm h (held_mono hlt.le)
      exact .inr ((held_eq_iff.mp heq).resolve_left hlt.ne')
  · rintro (hle | hmerges)
    · exact held_mono hle
    · exact (held_eq_iff.mpr (.inr hmerges)).le

theorem held_lt_iff {a b : Int} : held a < held b ↔ a < b ∧ ¬ Merges a b := by
  rw [← not_le, held_le_iff, not_or, not_le, merges_comm]

theorem magnitude_of_fraction (k : Nat) {f : Nat} (h : f < fractionUnit) :
    magnitude ((k + 1) * fractionUnit + f) = (fractionUnit + f) * Nat.pow 2 k := by
  have hpos : 0 < fractionUnit := by decide
  have hdiv : ((k + 1) * fractionUnit + f) / fractionUnit = k + 1 := by
    rw [Nat.add_comm, Nat.add_mul_div_right _ _ hpos, Nat.div_eq_of_lt h, Nat.zero_add]
  have hmod : ((k + 1) * fractionUnit + f) % fractionUnit = f := by
    rw [Nat.add_comm, Nat.add_mul_mod_self_right, Nat.mod_eq_of_lt h]
  have hle : fractionUnit ≤ (k + 1) * fractionUnit + f :=
    (Nat.le_mul_of_pos_left _ (Nat.succ_pos k)).trans (Nat.le_add_right _ _)
  rw [magnitude, if_neg (Nat.not_lt.mpr hle), hdiv, hmod, Nat.add_sub_cancel]

/-- The magnitude is the significand times a power of two, also where rounding has carried the
significand up to the next power. -/
theorem magnitude_of_significand (k : Nat) {q : Nat} (hlow : fractionUnit ≤ q)
    (hhigh : q ≤ 2 * fractionUnit) : magnitude (k * fractionUnit + q) = q * Nat.pow 2 k := by
  obtain ⟨f, rfl⟩ := Nat.exists_eq_add_of_le hlow
  by_cases hf : f < fractionUnit
  · rw [← magnitude_of_fraction k hf, Nat.succ_mul, Nat.add_assoc]
  · obtain rfl : f = fractionUnit := by omega
    have hcarried : k * fractionUnit + (fractionUnit + fractionUnit) =
        (k + 1 + 1) * fractionUnit + 0 := by ring
    rw [hcarried, magnitude_of_fraction (k + 1) (by decide)]
    change (fractionUnit + 0) * 2 ^ (k + 1) = (fractionUnit + fractionUnit) * 2 ^ k
    ring

theorem cutExponent_of_word {n : Nat} (hlow : 9223372036854775808 ≤ n)
    (hhigh : n < 18446744073709551616) (k : Nat) : cutExponent (n * Nat.pow 2 k) = 11 + k := by
  have hlog : (n * 2 ^ k).log2 = 63 + k := log2_mul_two_pow hlow hhigh k
  change (n * 2 ^ k).log2 - 52 = 11 + k
  omega

theorem significand_of_word {n : Nat} (hlow : 9223372036854775808 ≤ n)
    (hhigh : n < 18446744073709551616) :
    fractionUnit ≤ roundedQuotient n 2048 ∧ roundedQuotient n 2048 ≤ 2 * fractionUnit := by
  obtain ⟨-, hnear, -⟩ := isNearest_roundedQuotient n
  change 4503599627370496 ≤ _ ∧ _ ≤ 9007199254740992
  omega

theorem codeOfRatio_of_word {n k : Nat} (hlow : 9223372036854775808 ≤ n)
    (hhigh : n < 18446744073709551616) (hk : k = 1074) (hunit : unitScale = Nat.pow 2 k) :
    codeOfRatio n 1 = (11 + k) * fractionUnit + roundedQuotient n 2048 := by
  have hfinite : (11 + k) * fractionUnit + 2 * fractionUnit ≤ infinityCode := by
    rw [hk]
    decide
  have hquotient : roundedQuotient (n * Nat.pow 2 k) (1 * Nat.pow 2 (11 + k)) =
      roundedQuotient n 2048 := by
    have hpow : Nat.pow 2 (11 + k) = 2048 * Nat.pow 2 k := Nat.pow_add 2 11 k
    rw [hpow, Nat.one_mul]
    exact roundedQuotient_mul _ _ (Nat.two_pow_pos k)
  have hsignificand := Nat.add_le_add_left (significand_of_word hlow hhigh).2 ((11 + k) * fractionUnit)
  simp only [codeOfRatio, hunit, Nat.div_one, cutExponent_of_word hlow hhigh, hquotient]
  exact Nat.min_eq_left (hsignificand.trans hfinite)

theorem scaled_ofInt {n : Int} (hlow : 9223372036854775808 ≤ n)
    (hhigh : n < 18446744073709551616) : (ofInt n).scaled = held n * (unitScale : Int) := by
  obtain ⟨k, hk, hunit⟩ := exists_unitScale
  have habs : n.natAbs = n.toNat := by omega
  have hlow' : 9223372036854775808 ≤ n.toNat := by omega
  have hhigh' : n.toNat < 18446744073709551616 := by omega
  obtain ⟨hleast, hgreatest⟩ := significand_of_word hlow' hhigh'
  have hpositive : (ofInt n).negative = false := decide_eq_false (by omega)
  have hcode : (ofInt n).code = (11 + k) * fractionUnit + roundedQuotient n.toNat 2048 := by
    rw [← codeOfRatio_of_word hlow' hhigh' hk hunit, ← habs]
    rfl
  rw [scaled, hpositive, if_neg Bool.false_ne_true, hcode, magnitude_of_significand _ hleast hgreatest,
    held, if_neg (by omega), hunit]
  change ((roundedQuotient n.toNat 2048 * 2 ^ (11 + k) : Nat) : Int) =
    (2048 * roundedQuotient n.toNat 2048 : Nat) * (2 ^ k : Nat)
  push_cast
  ring

theorem compare_mul_unitScale (a b : Int) :
    compare (a * (unitScale : Int)) (b * (unitScale : Int)) = compare a b := by
  have hunit : (0 : Int) < unitScale := by
    obtain ⟨k, -, hk⟩ := exists_unitScale
    rw [hk]
    exact Int.natCast_pos.mpr (Nat.two_pow_pos k)
  rcases lt_trichotomy a b with h | h | h
  · rw [compare_lt_iff_lt.mpr h, compare_lt_iff_lt.mpr (Int.mul_lt_mul_of_pos_right h hunit)]
  · rw [h, compare_eq_iff_eq.mpr rfl, compare_eq_iff_eq.mpr rfl]
  · rw [compare_gt_iff_gt.mpr h, compare_gt_iff_gt.mpr (Int.mul_lt_mul_of_pos_right h hunit)]

end Binary64

end DocumentGraph
