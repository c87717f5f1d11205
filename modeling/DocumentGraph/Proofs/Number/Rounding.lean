import DocumentGraph.Number.Shortest
import Mathlib.Tactic.Ring
set_option autoImplicit false

namespace DocumentGraph

namespace Binary64

theorem roundedQuotient_mul (n d : Nat) {k : Nat} (hk : 0 < k) :
    roundedQuotient (n * k) (d * k) = roundedQuotient n d := by
  have hq : n * k / (d * k) = n / d := Nat.mul_div_mul_right n d hk
  have hr : n * k % (d * k) = n % d * k := Nat.mul_mod_mul_right k n d
  have hlow : 2 * (n % d * k) < d * k ↔ 2 * (n % d) < d := by
    rw [← Nat.mul_assoc]
    exact Nat.mul_lt_mul_right hk
  have hhigh : d * k < 2 * (n % d * k) ↔ d < 2 * (n % d) := by
    rw [← Nat.mul_assoc]
    exact Nat.mul_lt_mul_right hk
  simp only [roundedQuotient, hq, hr, hlow, hhigh]

theorem roundedQuotient_mul_self (q : Nat) {d : Nat} (hd : 0 < d) :
    roundedQuotient (q * d) d = q := by
  have hq : q * d / d = q := Nat.mul_div_cancel q hd
  have hr : q * d % d = 0 := Nat.mul_mod_left q d
  simp only [roundedQuotient, hq, hr]
  simp [hd]

theorem codeOfRatio_mul (n d : Nat) {k : Nat} (hk : 0 < k) :
    codeOfRatio (n * k) (d * k) = codeOfRatio n d := by
  have hv : n * k * unitScale = n * unitScale * k := Nat.mul_right_comm n k unitScale
  have hd : ∀ e, d * k * Nat.pow 2 e = d * Nat.pow 2 e * k :=
    fun e => Nat.mul_right_comm d k (Nat.pow 2 e)
  simp only [codeOfRatio, hv, hd, Nat.mul_div_mul_right _ _ hk, roundedQuotient_mul _ _ hk]

theorem ofRatio_mul (negative : Bool) (n d : Nat) {k : Nat} (hk : 0 < k) :
    ofRatio negative (n * k) (d * k) = ofRatio negative n d := by
  simp only [ofRatio, codeOfRatio_mul n d hk]

theorem magnitude_eq_zero {code : Nat} (h : magnitude code = 0) : code = 0 := by
  unfold magnitude at h
  split at h
  · exact h
  · rcases Nat.mul_eq_zero.1 h with h | h
    · have : 0 < fractionUnit := by decide
      omega
    · exact absurd h (Nat.pow_pos (by decide)).ne'

theorem cutExponent_of_lt {v : Nat} (h : v < fractionUnit) : cutExponent v = 0 := by
  have hlog : v.log2 < 53 := by
    by_cases hv : v = 0
    · subst hv; decide
    · exact (Nat.log2_lt hv).2 (h.trans (by decide))
  unfold cutExponent
  by_cases hv : v = 0
  · subst hv; decide
  · have : v.log2 < 52 := (Nat.log2_lt hv).2 (h.trans_le (by decide))
    omega

theorem log2_mul_two_pow {m n : Nat} (hlow : 2 ^ m ≤ n) (hhigh : n < 2 ^ (m + 1)) (k : Nat) :
    (n * 2 ^ k).log2 = m + k := by
  have hpos : n * 2 ^ k ≠ 0 :=
    (Nat.mul_pos (Nat.two_pow_pos m |>.trans_le hlow) (Nat.two_pow_pos k)).ne'
  rw [Nat.log2_eq_iff hpos]
  constructor
  · rw [Nat.pow_add]
    exact Nat.mul_le_mul_right _ hlow
  · rw [Nat.add_right_comm, Nat.pow_add]
    exact Nat.mul_lt_mul_of_pos_right hhigh (Nat.two_pow_pos k)

theorem cutExponent_of_normal {f : Nat} (hf : f < fractionUnit) (e : Nat) :
    cutExponent ((fractionUnit + f) * Nat.pow 2 e) = e := by
  have hunit : fractionUnit = 2 ^ 52 := by decide
  have hlog : ((fractionUnit + f) * 2 ^ e).log2 = 52 + e :=
    log2_mul_two_pow (by omega) (by omega) e
  change ((fractionUnit + f) * 2 ^ e).log2 - 52 = e
  omega

theorem code_eq_of_magnitude (code : Nat) :
    cutExponent (magnitude code) * fractionUnit +
      roundedQuotient (magnitude code) (Nat.pow 2 (cutExponent (magnitude code))) = code := by
  by_cases h : code < fractionUnit
  · rw [magnitude, if_pos h, cutExponent_of_lt h]
    have := roundedQuotient_mul_self code (d := 1) (by decide)
    rw [Nat.mul_one] at this
    change 0 * fractionUnit + roundedQuotient code 1 = code
    omega
  · have hf : code % fractionUnit < fractionUnit := Nat.mod_lt _ (by decide)
    have he : 1 ≤ code / fractionUnit := (Nat.one_le_div_iff (by decide)).2 (by omega)
    rw [magnitude, if_neg h, cutExponent_of_normal hf,
      roundedQuotient_mul_self _ (d := Nat.pow 2 (code / fractionUnit - 1)) (Nat.pow_pos (by decide))]
    have hsplit := Nat.div_add_mod' code fractionUnit
    have hstep : (code / fractionUnit - 1) * fractionUnit + fractionUnit =
        code / fractionUnit * fractionUnit := by
      rw [← Nat.succ_mul, Nat.succ_eq_add_one, Nat.sub_add_cancel he]
    omega

/-- A ratio that is exactly the magnitude of a finite code is rounded to that code. -/
theorem codeOfRatio_of_magnitude {n d code : Nat} (hd : 0 < d) (hfin : code ≤ infinityCode)
    (h : n * unitScale = magnitude code * d) : codeOfRatio n d = code := by
  have hdiv : magnitude code * d / d = magnitude code := Nat.mul_div_cancel _ hd
  simp only [codeOfRatio, h, hdiv]
  rw [Nat.mul_comm d, roundedQuotient_mul _ _ hd, code_eq_of_magnitude]
  exact Nat.min_eq_left hfin

end Binary64

namespace Decimal

theorem width_zero : width 0 = 0 := by rw [width]; simp

theorem width_pos {n : Nat} (h : 0 < n) : width n = width (n / 10) + 1 := by
  rw [width, if_pos h]

theorem width_le_iff (n k : Nat) : width n ≤ k ↔ n < 10 ^ k := by
  induction k generalizing n with
  | zero =>
    by_cases h : n = 0
    · subst h; simp [width_zero]
    · rw [width_pos (Nat.pos_of_ne_zero h)]
      simp [h]
  | succ k ih =>
    by_cases h : n = 0
    · subst h; simp [width_zero]
    · rw [width_pos (Nat.pos_of_ne_zero h), Nat.add_le_add_iff_right, ih, Nat.pow_succ]
      exact Nat.div_lt_iff_lt_mul (by decide)

theorem width_mul_ten {n : Nat} (h : 0 < n) : width (n * 10) = width n + 1 := by
  rw [width_pos (by omega), Nat.mul_div_cancel _ (by decide)]

theorem toBinary64_mul_ten (negative : Bool) (c : Nat) (e : Int) :
    toBinary64 negative ⟨c * 10, e - 1⟩ = toBinary64 negative ⟨c, e⟩ := by
  by_cases hc : c = 0
  · subst hc; simp [toBinary64]
  · have hw := width_mul_ten (Nat.pos_of_ne_zero hc)
    have htop : Int.ofNat (width (c * 10)) + (e - 1) = Int.ofNat (width c) + e := by
      rw [hw]; simp only [Int.ofNat_eq_natCast]; omega
    have hzero : c * 10 = 0 ↔ c = 0 := by omega
    simp only [toBinary64, htop, hzero]
    split
    · rfl
    split
    · rfl
    by_cases h₁ : 0 ≤ e - 1
    · rw [if_pos h₁, if_pos (by omega)]
      have he : e.toNat = (e - 1).toNat + 1 := by omega
      have hv : c * 10 * Nat.pow 10 (e - 1).toNat = c * Nat.pow 10 e.toNat := by
        rw [he]
        change c * 10 * 10 ^ (e - 1).toNat = c * 10 ^ ((e - 1).toNat + 1)
        rw [Nat.pow_succ, Nat.mul_assoc, Nat.mul_comm 10]
      rw [hv]
    · rw [if_neg h₁]
      have hpow : Nat.pow 10 (-(e - 1)).toNat = Nat.pow 10 (-e).toNat * 10 := by
        rw [show (-(e - 1)).toNat = (-e).toNat + 1 by omega]
        rfl
      rw [hpow, Binary64.ofRatio_mul _ _ _ (by decide)]
      by_cases h₀ : 0 ≤ e
      · obtain rfl : e = 0 := by omega
        simp
      · rw [if_neg h₀]

theorem toBinary64_mul_pow_ten (negative : Bool) (c k : Nat) (e : Int) :
    toBinary64 negative ⟨c * 10 ^ k, e - k⟩ = toBinary64 negative ⟨c, e⟩ := by
  induction k with
  | zero => simp
  | succ k ih =>
    have he : e - ((k + 1 : Nat) : Int) = e - k - 1 := by omega
    rw [← ih, ← toBinary64_mul_ten negative (c * 10 ^ k) (e - k), Nat.pow_succ, ← Nat.mul_assoc,
      he]

theorem toBinary64_strip (negative : Bool) (fuel : Nat) (d : Decimal) :
    (strip fuel d).toBinary64 negative = d.toBinary64 negative := by
  induction fuel generalizing d with
  | zero => rfl
  | succ fuel ih =>
    obtain ⟨c, e⟩ := d
    by_cases h : c ≠ 0 ∧ c % 10 = 0
    · have hc : c / 10 * 10 = c := by omega
      have hstep := toBinary64_mul_ten negative (c / 10) (e + 1)
      rw [hc, show e + 1 - 1 = e by omega] at hstep
      rw [strip, if_pos h, ih, hstep]
    · rw [strip, if_neg h]

theorem significand_lt {f e k : Nat} (hf : f < 2 ^ 53) (he : e ≤ k) :
    f * Nat.pow 2 e < 2 ^ (53 + k) := by
  calc f * Nat.pow 2 e ≤ f * 2 ^ k := Nat.mul_le_mul_left _ (Nat.pow_le_pow_right (by decide) he)
    _ < 2 ^ 53 * 2 ^ k := Nat.mul_lt_mul_of_pos_right hf (Nat.pow_pos (by decide))
    _ = 2 ^ (53 + k) := (Nat.pow_add 2 53 k).symm

theorem magnitude_lt {code : Nat} (h : code < Binary64.infinityCode) :
    Binary64.magnitude code < 2 ^ (53 + 2045) := by
  unfold Binary64.magnitude
  split
  · rename_i hlow
    exact hlow.trans (by decide +kernel)
  · have hm : code % Binary64.fractionUnit < Binary64.fractionUnit := Nat.mod_lt _ (by decide)
    have hq : code / Binary64.fractionUnit < 2047 := Nat.div_lt_of_lt_mul (by
      rw [Nat.mul_comm]; exact h)
    have hf : Binary64.fractionUnit + Binary64.fractionUnit = 2 ^ 53 := by decide
    exact significand_lt (by omega) (by omega)

theorem width_exact {m k : Nat} (hm : 0 < m) (hk : k = 1074) (h : m < 2 ^ (53 + 2045)) :
    k ≤ width (m * 5 ^ k) + 330 ∧ width (m * 5 ^ k) ≤ k + 310 := by
  have hlow : 10 ^ 744 ≤ m * 5 ^ k := by
    have h₅ : 10 ^ 744 ≤ 5 ^ k := by subst hk; decide +kernel
    exact h₅.trans (Nat.le_mul_of_pos_left _ hm)
  have hhigh : m * 5 ^ k < 10 ^ (k + 310) := by
    have h₁₀ : 2 ^ (53 + 2045) * 5 ^ k ≤ 10 ^ (k + 310) := by subst hk; decide +kernel
    exact (Nat.mul_lt_mul_of_pos_right h (Nat.pow_pos (by decide))).trans_le h₁₀
  have h₁ : ¬ width (m * 5 ^ k) ≤ 744 := fun hw =>
    absurd ((width_le_iff _ _).1 hw) (Nat.not_lt.2 hlow)
  have h₂ := (width_le_iff _ _).2 hhigh
  exact ⟨by omega, h₂⟩

theorem toBinary64_of_negative_exponent (negative : Bool) {c k : Nat} (hc : c ≠ 0) (hk : 0 < k)
    (hlow : k ≤ width c + 330) (hhigh : width c ≤ k + 310) :
    toBinary64 negative ⟨c, -(k : Int)⟩ = Binary64.ofRatio negative c (Nat.pow 10 k) := by
  have h₁ : ¬ (c = 0 ∨ Int.ofNat (width c) + -(k : Int) < -330) := by
    simp only [Int.ofNat_eq_natCast]; omega
  have h₂ : ¬ 310 < Int.ofNat (width c) + -(k : Int) := by
    simp only [Int.ofNat_eq_natCast]; omega
  have h₃ : ¬ (0 : Int) ≤ -(k : Int) := by omega
  have h₄ : (- -(k : Int)).toNat = k := by omega
  simp only [toBinary64, if_neg h₁, if_neg h₂, if_neg h₃, h₄]

theorem ofRatio_exact (x : Binary64) (hx : x.isFinite = true) {k : Nat}
    (hk : Binary64.unitScale = Nat.pow 2 k) :
    Binary64.ofRatio x.negative (Binary64.magnitude x.code * 5 ^ k) (Nat.pow 10 k) = x := by
  have hfin : x.code < Binary64.infinityCode := by simpa [Binary64.isFinite] using hx
  have hscale : Binary64.magnitude x.code * 5 ^ k * Binary64.unitScale =
      Binary64.magnitude x.code * Nat.pow 10 k := by
    have hpow : 5 ^ k * 2 ^ k = 10 ^ k := (Nat.mul_pow 5 2 k).symm
    rw [hk, Nat.mul_assoc]
    exact congrArg _ hpow
  have hcode := Binary64.codeOfRatio_of_magnitude (Nat.pow_pos (by decide)) hfin.le hscale
  obtain ⟨negative, code, hlt⟩ := x
  simp only [Binary64.ofRatio] at hcode ⊢
  congr

theorem toBinary64_exact (x : Binary64) (hx : x.isFinite = true)
    (h : Binary64.magnitude x.code ≠ 0) :
    (exact (Binary64.magnitude x.code)).toBinary64 x.negative = x := by
  have hfin : x.code < Binary64.infinityCode := by simpa [Binary64.isFinite] using hx
  have hpos := Nat.pos_of_ne_zero h
  obtain ⟨k, hk, hunit⟩ := Binary64.exists_unitScale
  have hk₀ : 0 < k := by omega
  have hw := width_exact hpos hk (magnitude_lt hfin)
  have hc : Binary64.magnitude x.code * 5 ^ k ≠ 0 :=
    (Nat.mul_pos hpos (Nat.pow_pos (by decide))).ne'
  have hpow : Nat.pow 5 1074 = 5 ^ k := by
    rw [← hk]
    rfl
  have he : (-1074 : Int) = -(k : Int) := by omega
  rw [exact, toBinary64_strip, hpow, he,
    toBinary64_of_negative_exponent _ hc hk₀ hw.1 hw.2]
  exact ofRatio_exact x hx hunit

/-- The decimal written for a finite datum reads back as the datum. -/
theorem toBinary64_shortest (tie : Tie) (x : Binary64) (hx : x.isFinite = true) :
    (shortest tie x).toBinary64 x.negative = x := by
  simp only [shortest]
  split
  · rename_i h
    have hcode := Binary64.magnitude_eq_zero h
    obtain ⟨negative, code, hlt⟩ := x
    simp only at hcode
    subst hcode
    simp [toBinary64, Binary64.signedZero]
  · rename_i h
    cases hfind : (candidates tie (Binary64.magnitude x.code)).find?
        (fun d => d.toBinary64 x.negative = x) with
    | none =>
      rw [Option.getD_none]
      exact toBinary64_exact x hx h
    | some d => simpa using List.find?_some hfind

theorem top_bounds {negative : Bool} {d : Decimal} {x : Binary64} (hx : x.isFinite = true)
    (h0 : x.code ≠ 0) (h : d.toBinary64 negative = x) :
    d.coefficient ≠ 0 ∧ -330 ≤ (width d.coefficient : Int) + d.exponent ∧
      (width d.coefficient : Int) + d.exponent ≤ 310 := by
  unfold toBinary64 at h
  simp only [Int.ofNat_eq_natCast] at h
  split at h
  · subst h
    exact absurd rfl h0
  · rename_i hlow
    split at h
    · subst h
      cases negative <;> exact absurd hx (by decide)
    · exact ⟨fun hc => hlow (Or.inl hc), by omega, by omega⟩

end Decimal

end DocumentGraph
