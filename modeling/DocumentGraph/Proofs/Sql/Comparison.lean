import DocumentGraph.Proofs.Text.Bytes
import DocumentGraph.Sql.Value
import Mathlib.Algebra.Order.Field.Rat
import Mathlib.Algebra.Order.Ring.Cast
set_option autoImplicit false

/-!
# The order of SQL values

Values are compared in scaled units and by characters. What that means: null stands before all
numbers, numbers are ordered by their exact value whether they are integers or binary64 data, and texts
come last, ordered by their bytes. This is a total preorder.
-/

namespace DocumentGraph

namespace Binary64

def exponentField (code : ℕ) : ℕ := code / 2 ^ 52

def fractionField (code : ℕ) : ℕ := code % 2 ^ 52

/-- The magnitude that a code stands for. The least exponent field is that of the data without a leading
one. -/
def magnitudeRat (code : ℕ) : ℚ :=
  if exponentField code = 0 then (fractionField code / 2 ^ 52) * 2 ^ (-1022 : ℤ)
  else (1 + fractionField code / 2 ^ 52) * 2 ^ ((exponentField code : ℤ) - 1023)

def toRat (x : Binary64) : ℚ := if x.negative then -magnitudeRat x.code else magnitudeRat x.code

theorem cast_two_pow (n : ℕ) : ((Nat.pow 2 n : ℕ) : ℚ) = 2 ^ (n : ℤ) := by
  rw [Nat.pow_eq, Nat.cast_pow, Nat.cast_ofNat, zpow_natCast]

theorem zpow_mul_unitScale (k : ℕ) : (2 : ℚ) ^ ((k : ℤ) - 1022) * (unitScale : ℚ) = 2 ^ 52 * 2 ^ k := by
  obtain ⟨n, hn, hunit⟩ := exists_unitScale
  have hsum : (k : ℤ) - 1022 + n = (52 : ℕ) + (k : ℤ) := by omega
  rw [hunit, cast_two_pow, ← zpow_add₀ two_ne_zero, hsum, zpow_add₀ two_ne_zero, zpow_natCast,
    zpow_natCast]

theorem magnitude_eq_rat (code : ℕ) : (magnitude code : ℚ) = magnitudeRat code * (unitScale : ℚ) := by
  have hunit : fractionUnit = 2 ^ 52 := rfl
  have hone : (2 : ℚ) ^ 52 ≠ 0 := pow_ne_zero _ two_ne_zero
  unfold magnitude magnitudeRat exponentField fractionField
  rw [hunit]
  by_cases h : code < 2 ^ 52
  · have hunits := zpow_mul_unitScale 0
    rw [Nat.cast_zero, zero_sub, pow_zero, mul_one] at hunits
    rw [if_pos h, if_pos (Nat.div_eq_of_lt h), Nat.mod_eq_of_lt h, mul_assoc, hunits,
      div_mul_cancel₀ _ hone]
  · have hpos : code / 2 ^ 52 ≠ 0 := (Nat.div_pos (Nat.le_of_not_lt h) (Nat.two_pow_pos 52)).ne'
    obtain ⟨k, hk⟩ := Nat.exists_eq_succ_of_ne_zero hpos
    have hexponent : ((k.succ : ℕ) : ℤ) - 1023 = (k : ℤ) - 1022 := by omega
    rw [if_neg h, if_neg hpos, hk, hexponent, mul_assoc, zpow_mul_unitScale, Nat.succ_sub_one,
      Nat.cast_mul, cast_two_pow, zpow_natCast, Nat.cast_add, Nat.cast_pow, Nat.cast_ofNat, ← mul_assoc,
      add_mul 1, one_mul, div_mul_cancel₀ _ hone]

theorem scaled_eq_rat (x : Binary64) : (x.scaled : ℚ) = x.toRat * (unitScale : ℚ) := by
  unfold scaled toRat
  cases x.negative with
  | true => rw [if_pos rfl, if_pos rfl, Int.cast_neg, Int.cast_natCast, magnitude_eq_rat, neg_mul]
  | false =>
    rw [if_neg Bool.false_ne_true, if_neg Bool.false_ne_true, Int.cast_natCast, magnitude_eq_rat]

end Binary64

namespace SqlValue

def number? : SqlValue → Option ℚ
  | .integer i => some i.toInt
  | .real x => some x.toRat
  | _ => none

/-- The first value may stand before the second one in ascending order. -/
inductive AtMost : SqlValue → SqlValue → Prop where
  | null (b : SqlValue) : AtMost .null b
  | numbers {a b : SqlValue} {q r : ℚ} (ha : a.number? = some q) (hb : b.number? = some r)
      (h : q ≤ r) : AtMost a b
  | number_text {a : SqlValue} {q : ℚ} (ha : a.number? = some q) (t : String) : AtMost a (.text t)
  | texts {s t : String} (h : bytes s ≤ bytes t) : AtMost (.text s) (.text t)

theorem scaled_eq_number {a : SqlValue} {q : ℚ} (h : a.number? = some q) :
    (a.scaled : ℚ) = q * (Binary64.unitScale : ℚ) := by
  cases a with
  | integer i =>
    cases h
    rw [scaled, Int.cast_mul, Int.cast_natCast]
  | real x =>
    cases h
    exact x.scaled_eq_rat
  | null => cases h
  | text s => cases h

theorem unitScale_pos : (0 : ℚ) < (Binary64.unitScale : ℚ) := by
  obtain ⟨n, -, hunit⟩ := Binary64.exists_unitScale
  rw [hunit]
  exact Nat.cast_pos.mpr (Nat.pow_pos (Nat.zero_lt_succ 1))

theorem scaled_le_iff {a b : SqlValue} {q r : ℚ} (ha : a.number? = some q) (hb : b.number? = some r) :
    a.scaled ≤ b.scaled ↔ q ≤ r := by
  rw [← Int.cast_le (R := ℚ), scaled_eq_number ha, scaled_eq_number hb,
    mul_le_mul_iff_of_pos_right unitScale_pos]

theorem eq_null_or_number_or_text (a : SqlValue) :
    a = .null ∨ (∃ q, a.number? = some q) ∨ ∃ s, a = .text s := by
  cases a with
  | null => exact .inl rfl
  | integer i => exact .inr (.inl ⟨_, rfl⟩)
  | real x => exact .inr (.inl ⟨_, rfl⟩)
  | text s => exact .inr (.inr ⟨s, rfl⟩)

theorem rank_of_number {a : SqlValue} {q : ℚ} (h : a.number? = some q) : a.rank = 1 := by
  cases a with
  | integer i => rfl
  | real x => rfl
  | null => cases h
  | text s => cases h

theorem rank_eq_zero_iff {a : SqlValue} : a.rank = 0 ↔ a = .null := by
  cases a <;> simp [rank]

theorem order_of_rank_ne {a b : SqlValue} (h : a.rank ≠ b.rank) :
    a.order b = compare a.rank b.rank := by
  unfold order
  split
  · exact (h rfl).elim
  · exact if_neg h

theorem order_numbers {a b : SqlValue} {q r : ℚ} (ha : a.number? = some q) (hb : b.number? = some r) :
    a.order b = compare a.scaled b.scaled := by
  unfold order
  split
  · cases ha
  · exact if_pos ((rank_of_number ha).trans (rank_of_number hb).symm)

theorem order_of_rank_lt {a b : SqlValue} (h : a.rank < b.rank) : a.order b = .lt :=
  (order_of_rank_ne h.ne).trans (compare_lt_iff_lt.mpr h)

theorem order_of_rank_gt {a b : SqlValue} (h : b.rank < a.rank) : a.order b = .gt :=
  (order_of_rank_ne h.ne').trans (compare_gt_iff_gt.mpr h)

theorem order_numbers_ne_gt_iff {a b : SqlValue} {q r : ℚ} (ha : a.number? = some q)
    (hb : b.number? = some r) : a.order b ≠ .gt ↔ q ≤ r := by
  rw [order_numbers ha hb, ne_eq, compare_gt_iff_gt, not_lt, scaled_le_iff ha hb]

theorem order_texts_ne_gt_iff {s t : String} :
    (text s).order (text t) ≠ .gt ↔ bytes s ≤ bytes t := by
  change compare s t ≠ .gt ↔ _
  rw [ne_eq, compare_gt_iff_gt, not_lt, bytes_le_iff]

namespace AtMost

theorem order_ne_gt {a b : SqlValue} (h : a.AtMost b) : a.order b ≠ .gt := by
  cases h with
  | null b =>
    by_cases hb : b.rank = 0
    · rw [rank_eq_zero_iff.mp hb]
      decide
    · have hrank : SqlValue.null.rank < b.rank := Nat.pos_of_ne_zero hb
      rw [order_of_rank_lt hrank]
      nofun
  | numbers ha hb h => exact (order_numbers_ne_gt_iff ha hb).mpr h
  | number_text ha t =>
    have hrank : a.rank < (text t).rank := (rank_of_number ha).trans_lt Nat.one_lt_two
    rw [order_of_rank_lt hrank]
    nofun
  | texts h => exact order_texts_ne_gt_iff.mpr h

theorem total (a b : SqlValue) : a.AtMost b ∨ b.AtMost a := by
  rcases a.eq_null_or_number_or_text with rfl | ⟨q, ha⟩ | ⟨s, rfl⟩
  · exact .inl (.null b)
  · rcases b.eq_null_or_number_or_text with rfl | ⟨r, hb⟩ | ⟨t, rfl⟩
    · exact .inr (.null a)
    · exact (le_total q r).imp (.numbers ha hb) (.numbers hb ha)
    · exact .inl (.number_text ha t)
  · rcases b.eq_null_or_number_or_text with rfl | ⟨r, hb⟩ | ⟨t, rfl⟩
    · exact .inr (.null _)
    · exact .inr (.number_text hb s)
    · exact (le_total s t).imp (fun h => .texts (bytes_le_iff.mpr h))
        fun h => .texts (bytes_le_iff.mpr h)

theorem trans {a b c : SqlValue} (hab : a.AtMost b) (hbc : b.AtMost c) : a.AtMost c := by
  cases hab with
  | null b => exact .null c
  | numbers ha hb hqr =>
    cases hbc with
    | null c => cases hb
    | numbers hb' hc hrs =>
      cases hb.symm.trans hb'
      exact .numbers ha hc (hqr.trans hrs)
    | number_text hb' t => exact .number_text ha t
    | texts h => cases hb
  | number_text ha t =>
    cases hbc with
    | numbers hb hc h => cases hb
    | number_text hb u => cases hb
    | texts h => exact .number_text ha _
  | texts hst =>
    cases hbc with
    | numbers hb hc h => cases hb
    | number_text hb u => cases hb
    | texts htu => exact .texts (List.le_trans hst htu)

end AtMost

/-- The comparison of the engine: null before numbers before texts, numbers by value and texts by
bytes. -/
theorem order_ne_gt_iff {a b : SqlValue} : a.order b ≠ .gt ↔ a.AtMost b := by
  refine ⟨fun h => ?_, AtMost.order_ne_gt⟩
  rcases a.eq_null_or_number_or_text with rfl | ⟨q, ha⟩ | ⟨s, rfl⟩
  · exact .null b
  · rcases b.eq_null_or_number_or_text with rfl | ⟨r, hb⟩ | ⟨t, rfl⟩
    · have hrank : SqlValue.null.rank < a.rank := (rank_of_number ha).symm ▸ Nat.one_pos
      exact absurd (order_of_rank_gt hrank) h
    · exact .numbers ha hb ((order_numbers_ne_gt_iff ha hb).mp h)
    · exact .number_text ha t
  · rcases b.eq_null_or_number_or_text with rfl | ⟨r, hb⟩ | ⟨t, rfl⟩
    · exact absurd rfl h
    · have hrank : b.rank < (text s).rank := (rank_of_number hb).trans_lt Nat.one_lt_two
      exact absurd (order_of_rank_gt hrank) h
    · exact .texts (order_texts_ne_gt_iff.mp h)

theorem order_swap (a b : SqlValue) : (a.order b).swap = b.order a := by
  by_cases hrank : a.rank = b.rank
  · cases a <;> cases b <;> first | cases hrank; done | exact Std.OrientedOrd.eq_swap.symm
  · rw [order_of_rank_ne hrank, order_of_rank_ne (Ne.symm hrank)]
    exact Std.OrientedOrd.eq_swap.symm

theorem order_ne_lt_iff {a b : SqlValue} : a.order b ≠ .lt ↔ b.AtMost a := by
  rw [← order_ne_gt_iff, ← order_swap a b]
  cases a.order b <;> decide

instance (a b : SqlValue) : Decidable (a.AtMost b) := decidable_of_iff _ order_ne_gt_iff

def Ties (a b : SqlValue) : Prop := a.AtMost b ∧ b.AtMost a

instance (a b : SqlValue) : Decidable (a.Ties b) := inferInstanceAs (Decidable (_ ∧ _))

end SqlValue

end DocumentGraph
