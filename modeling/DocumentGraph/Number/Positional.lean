set_option autoImplicit false

namespace DocumentGraph.Positional

/-- The digits of `n`, most significant first. Zero has no digits. -/
def digits (base n : Nat) : List Nat :=
  if 1 < base ∧ 0 < n then digits base (n / base) ++ [n % base] else []
termination_by n
decreasing_by
  rename_i h
  exact Nat.div_lt_self h.2 h.1

def value (base : Nat) (ds : List Nat) : Nat :=
  ds.foldl (fun v d => v * base + d) 0

def padded (base width n : Nat) : List Nat :=
  List.replicate (width - (digits base n).length) 0 ++ digits base n

theorem digits_zero (base : Nat) : digits base 0 = [] := by
  rw [digits]; simp

theorem digits_pos {base n : Nat} (hb : 1 < base) (hn : 0 < n) :
    digits base n = digits base (n / base) ++ [n % base] := by
  rw [digits]; simp [hb, hn]

theorem value_nil (base : Nat) : value base [] = 0 := rfl

theorem value_append_singleton (base : Nat) (ds : List Nat) (d : Nat) :
    value base (ds ++ [d]) = value base ds * base + d := by
  simp [value, List.foldl_append]

theorem value_digits {base : Nat} (hb : 1 < base) (n : Nat) : value base (digits base n) = n := by
  induction n using Nat.strongRecOn with
  | _ n ih =>
    cases Nat.eq_zero_or_pos n with
    | inl h => subst h; rw [digits_zero, value_nil]
    | inr h =>
      rw [digits_pos hb h, value_append_singleton, ih (n / base) (Nat.div_lt_self h hb)]
      exact Nat.div_add_mod' n base

theorem digits_lt {base : Nat} (hb : 1 < base) (n : Nat) : ∀ d ∈ digits base n, d < base := by
  induction n using Nat.strongRecOn with
  | _ n ih =>
    cases Nat.eq_zero_or_pos n with
    | inl h => subst h; simp [digits_zero]
    | inr h =>
      rw [digits_pos hb h]
      intro d hd
      rcases List.mem_append.1 hd with hd | hd
      · exact ih (n / base) (Nat.div_lt_self h hb) d hd
      · rw [List.mem_singleton.1 hd]
        exact Nat.mod_lt n (by omega)

theorem value_zeros_append (base k : Nat) (ds : List Nat) :
    value base (List.replicate k 0 ++ ds) = value base ds := by
  have h : ∀ k, (List.replicate k 0).foldl (fun v d => v * base + d) 0 = 0 := by
    intro k
    induction k with
    | zero => rfl
    | succ k ih => rw [List.replicate_succ, List.foldl_cons]; simpa using ih
  simp only [value, List.foldl_append, h]

theorem value_padded {base : Nat} (hb : 1 < base) (width n : Nat) :
    value base (padded base width n) = n := by
  rw [padded, value_zeros_append, value_digits hb]

theorem length_padded (base width n : Nat) :
    (padded base width n).length = max width (digits base n).length := by
  simp [padded]; omega

end DocumentGraph.Positional
