import DocumentGraph.Proofs.Number.Digits
set_option autoImplicit false

namespace DocumentGraph

namespace Json

open Layout

def NumberEnd (rest : List Char) : Prop :=
  ∀ c cs, rest = c :: cs → c.isDigit = false ∧ c ≠ '.' ∧ c ≠ 'e' ∧ c ≠ 'E'

theorem numberEnd_nil : NumberEnd [] := fun _ _ h => by cases h

theorem numberEnd_cons {c : Char} {cs : List Char}
    (h : c.isDigit = false ∧ c ≠ '.' ∧ c ≠ 'e' ∧ c ≠ 'E') : NumberEnd (c :: cs) := by
  intro d ds e
  cases e
  exact h

def DigitsEnd (rest : List Char) : Prop := ∀ c cs, rest = c :: cs → c.isDigit = false

theorem NumberEnd.digitsEnd {rest : List Char} (h : NumberEnd rest) : DigitsEnd rest :=
  fun c cs e => (h c cs e).1

theorem digitsEnd_cons {c : Char} (h : c.isDigit = false) (cs : List Char) :
    DigitsEnd (c :: cs) := by
  intro d ds e
  cases e
  exact h

theorem takeWhile_digits {ds rest : List Char} (hd : AreDigits ds) (hr : DigitsEnd rest) :
    (ds ++ rest).takeWhile Char.isDigit = ds ∧ (ds ++ rest).dropWhile Char.isDigit = rest := by
  rw [List.takeWhile_append_of_pos hd, List.dropWhile_append_of_pos hd]
  cases rest with
  | nil => simp
  | cons c cs => simp [hr c cs rfl]

theorem someDigits_append {ds rest : List Char} (hne : ds ≠ []) (hd : AreDigits ds)
    (hr : DigitsEnd rest) : someDigits (ds ++ rest) = .ok (ds, rest) := by
  cases ds with
  | nil => exact absurd rfl hne
  | cons d ds =>
    have htail := takeWhile_digits (fun c hc => hd c (List.mem_cons_of_mem d hc)) hr
    simp [someDigits, hd d List.mem_cons_self, htail.1, htail.2]

def Leading (ds : List Char) : Prop := (∃ c cs, ds = c :: cs ∧ c ≠ '0') ∧ AreDigits ds

/-- The whole part of a number: a zero, or digits that do not start with one. -/
def IsWhole (ds : List Char) : Prop := ds = ['0'] ∨ Leading ds

theorem leading_digitChars {n : Nat} (h : n ≠ 0) : Leading (digitChars n) := by
  have hne : Positional.digits 10 n ≠ [] :=
    Positional.digits_ne_nil (by decide) (Nat.pos_of_ne_zero h)
  obtain ⟨d, ds, hd⟩ := List.exists_cons_of_ne_nil hne
  have hlt : d < 10 := Positional.digits_lt (by decide) n d (by simp [hd])
  have hd₀ := Positional.head_digits_ne_zero (by decide) hd
  refine ⟨⟨digitChar d, ds.map digitChar, by rw [digitChars, hd, List.map_cons], ?_⟩,
    areDigits_digitChars n⟩
  exact fun hc => hd₀ ((digitChar_facts hlt).2.2.1 hc)

theorem isWhole_natChars (n : Nat) : IsWhole (natChars n) := by
  unfold natChars
  split
  · exact Or.inl rfl
  · rename_i h
    exact Or.inr (leading_digitChars h)

theorem Leading.append {ds es : List Char} (hd : Leading ds) (he : AreDigits es) :
    Leading (ds ++ es) := by
  obtain ⟨⟨c, cs, rfl, hc⟩, hall⟩ := hd
  exact ⟨⟨c, cs ++ es, rfl, hc⟩, hall.append he⟩

theorem Leading.take {ds : List Char} (hd : Leading ds) {n : Nat} (hn : 0 < n) :
    Leading (ds.take n) := by
  obtain ⟨⟨c, cs, rfl, hc⟩, hall⟩ := hd
  obtain ⟨m, rfl⟩ : ∃ m, n = m + 1 := ⟨n - 1, by omega⟩
  exact ⟨⟨c, cs.take m, List.take_succ_cons, hc⟩, fun x hx => hall x (List.mem_of_mem_take hx)⟩

theorem wholeDigits_append {ds rest : List Char} (hd : IsWhole ds) (hr : DigitsEnd rest) :
    wholeDigits (ds ++ rest) = .ok (ds, rest) := by
  rcases hd with rfl | ⟨⟨c, cs, rfl, hc⟩, hall⟩
  · cases rest with
    | nil => simp [wholeDigits]
    | cons c cs => simp [wholeDigits, hr c cs rfl]
  · have htail := takeWhile_digits (fun x hx => hall x (List.mem_cons_of_mem c hx)) hr
    simp [wholeDigits, hc, hall c List.mem_cons_self, htail.1, htail.2]

theorem fractionDigits_of_no_point {rest : List Char} (h : ∀ cs, rest ≠ '.' :: cs) :
    fractionDigits rest = .ok ([], rest) := by
  cases rest with
  | nil => rfl
  | cons c cs =>
    unfold fractionDigits
    split
    · rename_i heq
      exact absurd heq (h _)
    · rfl

def pointed : List Char → List Char
  | [] => []
  | f :: fs => '.' :: f :: fs

theorem digitsEnd_pointed (fs : List Char) {rest : List Char} (hr : DigitsEnd rest) :
    DigitsEnd (pointed fs ++ rest) := by
  cases fs with
  | nil => exact hr
  | cons f fs => exact digitsEnd_cons (by decide) _

theorem fractionDigits_pointed {fs rest : List Char} (hf : AreDigits fs) (hr : DigitsEnd rest)
    (hp : ∀ cs, rest ≠ '.' :: cs) : fractionDigits (pointed fs ++ rest) = .ok (fs, rest) := by
  cases fs with
  | nil => exact fractionDigits_of_no_point hp
  | cons f fs => exact someDigits_append (by simp) hf hr

theorem head?_pointed (fs : List Char) {rest : List Char} (hp : ∀ cs, rest ≠ '.' :: cs) :
    (pointed fs ++ rest).head? = some '.' ↔ fs ≠ [] := by
  cases fs with
  | nil =>
    cases rest with
    | nil => simp [pointed]
    | cons c cs =>
      have hc : c ≠ '.' := fun h => hp cs (by rw [h])
      simp [pointed, hc]
  | cons f fs => simp [pointed]

theorem numeral_end (negative : Bool) {w f rest : List Char} (hw : IsWhole w)
    (hf : AreDigits f) (hr : NumberEnd rest) :
    numeral negative (w ++ (pointed f ++ rest)) =
      if f = [] then wholeNumber negative (digitsValue w) rest
      else floatNumber
        ((⟨digitsValue (w ++ f), -Int.ofNat f.length⟩ : Decimal).toBinary64 negative) rest := by
  have hp : ∀ cs, rest ≠ '.' :: cs := fun cs e => (hr '.' cs e).2.1 rfl
  have hwhole := wholeDigits_append hw (digitsEnd_pointed f hr.digitsEnd)
  have hfraction := fractionDigits_pointed hf hr.digitsEnd hp
  have hpoint := head?_pointed f hp
  simp only [numeral, hwhole, hfraction, hpoint, bind, Except.bind]
  cases rest with
  | nil => by_cases h : f = [] <;> simp [h]
  | cons c cs =>
    have hc := hr c cs rfl
    by_cases h : f = [] <;> simp [h, hc.2.2.1, hc.2.2.2]

theorem le_foldl_digits (v : Nat) (ds : List Nat) :
    v ≤ ds.foldl (fun v d => v * 10 + d) v := by
  induction ds generalizing v with
  | nil => exact Nat.le_refl v
  | cons d ds ih =>
    have h := ih (v * 10 + d)
    rw [List.foldl_cons]
    omega

theorem exponentValue_append {ds rest : List Char} (hd : AreDigits ds) (hr : DigitsEnd rest)
    (v : Nat)
    (hle : (ds.map digitValue).foldl (fun v d => v * 10 + d) v ≤ greatestExponent) :
    exponentValue v (ds ++ rest) =
      (some ((ds.map digitValue).foldl (fun v d => v * 10 + d) v), rest) := by
  induction ds generalizing v with
  | nil =>
    cases rest with
    | nil => rfl
    | cons c cs => simp [exponentValue, hr c cs rfl]
  | cons d ds ih =>
    have hstep := le_foldl_digits (v * 10 + digitValue d) (ds.map digitValue)
    rw [List.map_cons, List.foldl_cons] at hle ⊢
    have hlow : ¬ greatestExponent < v * 10 + digitValue d := by omega
    rw [List.cons_append, exponentValue, if_pos (hd d List.mem_cons_self), if_neg hlow]
    exact ih (fun c hc => hd c (List.mem_cons_of_mem d hc)) _ hle

theorem exponent_natChars {n : Nat} {rest : List Char} (small : Bool) (hn : n ≤ greatestExponent)
    (hr : DigitsEnd rest) :
    exponent ((if small then '-' else '+') :: (natChars n ++ rest)) =
      .ok ((small, some n), rest) := by
  have hval : ((natChars n).map digitValue).foldl (fun v d => v * 10 + d) 0 = n :=
    digitsValue_natChars n
  have hread := exponentValue_append (areDigits_natChars n) hr 0 (by rw [hval]; exact hn)
  rw [hval] at hread
  have hne : natChars n ≠ [] := by
    rcases isWhole_natChars n with h | ⟨⟨c, cs, h, -⟩, -⟩ <;> simp [h]
  obtain ⟨c, cs, hc⟩ := List.exists_cons_of_ne_nil hne
  have hdigit : c.isDigit = true := areDigits_natChars n c (by simp [hc])
  rw [hc, List.cons_append] at hread
  cases small <;> simp [exponent, hc, hdigit, hread]

theorem numeral_scientific (negative : Bool) {ws fs rest : List Char} {e : Int}
    (hw : IsWhole ws) (hf : AreDigits fs) (he : e.natAbs ≤ greatestExponent)
    (hr : DigitsEnd rest) :
    numeral negative (ws ++ (pointed fs ++
        'e' :: (if e < 0 then '-' else '+') :: (natChars e.natAbs ++ rest))) =
      floatNumber
        ((⟨digitsValue (ws ++ fs), e - Int.ofNat fs.length⟩ : Decimal).toBinary64 negative)
        rest := by
  have hexp := exponent_natChars (decide (e < 0)) he hr
  generalize htail : (if e < 0 then '-' else '+') :: (natChars e.natAbs ++ rest) = tail
  simp only [decide_eq_true_eq, htail] at hexp
  have hend : DigitsEnd ('e' :: tail) := digitsEnd_cons (by decide) _
  have hp : ∀ cs, 'e' :: tail ≠ '.' :: cs := fun cs h => by simp at h
  have hwhole := wholeDigits_append hw (digitsEnd_pointed fs hend)
  have hfraction := fractionDigits_pointed hf hend hp
  simp only [numeral, hwhole, hfraction, hexp, bind, Except.bind]
  have hshift : (if e < 0 then -(e.natAbs : Int) else (e.natAbs : Int)) = e := by
    split <;> omega
  simp only [↓Char.isValue, Char.reduceEq, or_false, ↓reduceIte, decide_eq_true_eq,
    Int.ofNat_eq_natCast, hshift]

theorem floatNumber_of_finite {x y : Binary64} (hx : x.isFinite = true) (h : y = x)
    (rest : List Char) : floatNumber y rest = .ok (.float x hx, rest) := by
  subst h
  rw [floatNumber, dif_pos hx]

theorem toBinary64_zero (negative : Bool) (e : Int) :
    (⟨0, e⟩ : Decimal).toBinary64 negative = Binary64.signedZero negative := by
  simp [Decimal.toBinary64]

theorem digitsValue_zero_cons (cs : List Char) : digitsValue ('0' :: cs) = digitsValue cs := by
  have h := digitsValue_zeros_append 1 cs
  simpa [zeros] using h

theorem zeros_succ' (k : Nat) : zeros k ++ ['0'] = zeros (k + 1) := by
  rw [zeros, zeros, List.replicate_succ']

theorem numeral_positional {negative : Bool} {x : Binary64} (hx : x.isFinite = true)
    {c : Nat} {e : Int} {rest : List Char} (hc : c ≠ 0)
    (hd : (⟨c, e⟩ : Decimal).toBinary64 negative = x) (hr : NumberEnd rest) :
    numeral negative
        (positionalChars true (digitChars c) ((digitChars c).length - 1 + e) ++ rest) =
      .ok (.float x hx, rest) := by
  have hvalue := digitsValue_digitChars c
  have hlead := leading_digitChars hc
  generalize digitChars c = ds at hvalue hlead ⊢
  obtain ⟨d, ds', hds, -⟩ := hlead.1
  have hlen : 0 < ds.length := by simp [hds]
  unfold positionalChars
  split
  · -- A point behind a single zero.
    generalize hk : (-((ds.length : Int) - 1 + e) - 1).toNat = k
    obtain ⟨f, fs, hfs⟩ : ∃ f fs, zeros k ++ ds = f :: fs :=
      List.exists_cons_of_ne_nil (by simp [hds])
    have h := numeral_end negative (w := ['0']) (f := zeros k ++ ds) (Or.inl rfl)
      ((areDigits_zeros k).append hlead.2) hr
    have hv : digitsValue (['0'] ++ (zeros k ++ ds)) = c := by
      rw [List.singleton_append, digitsValue_zero_cons, digitsValue_zeros_append, hvalue]
    have he : -Int.ofNat (zeros k ++ ds).length = e := by
      simp only [zeros, List.length_append, List.length_replicate, Int.ofNat_eq_natCast]
      omega
    rw [if_neg (by simp [hfs]), hv, he, floatNumber_of_finite hx hd] at h
    rw [hfs] at h ⊢
    exact h
  · simp only
    split
    · -- Zeros up to the point and one behind it.
      generalize hk : ((ds.length : Int) - 1 + e + 1).toNat - ds.length = k
      have h := numeral_end negative (w := ds ++ zeros k) (f := ['0'])
        (Or.inr (hlead.append (areDigits_zeros k))) (areDigits_zeros 1) hr
      have hv : digitsValue (ds ++ zeros k ++ ['0']) = c * 10 ^ (k + 1) := by
        rw [List.append_assoc, zeros_succ', digitsValue_append_zeros, hvalue]
      have he : -Int.ofNat ['0'].length = e - ((k + 1 : Nat) : Int) := by
        simp only [List.length_singleton, Int.ofNat_eq_natCast]
        omega
      rw [if_neg (by simp), hv, he, Decimal.toBinary64_mul_pow_ten,
        floatNumber_of_finite hx hd] at h
      simpa [pointed] using h
    · -- The point stands among the digits.
      generalize hk : ((ds.length : Int) - 1 + e + 1).toNat = k
      obtain ⟨f, fs, hfs⟩ : ∃ f fs, ds.drop k = f :: fs := by
        apply List.exists_cons_of_ne_nil
        rw [Ne, List.drop_eq_nil_iff]
        omega
      have h := numeral_end negative (w := ds.take k) (f := ds.drop k)
        (Or.inr (hlead.take (by omega))) (fun x hx => hlead.2 x (List.mem_of_mem_drop hx)) hr
      have he : -Int.ofNat (ds.drop k).length = e := by
        simp only [List.length_drop, Int.ofNat_eq_natCast]
        omega
      rw [if_neg (by simp [hfs]), List.take_append_drop, hvalue, he,
        floatNumber_of_finite hx hd] at h
      rw [hfs] at h ⊢
      simpa [pointed] using h

theorem numeral_scientificChars {negative : Bool} {x : Binary64} (hx : x.isFinite = true)
    {c : Nat} {e : Int} {rest : List Char} (hc : c ≠ 0)
    (hd : (⟨c, e⟩ : Decimal).toBinary64 negative = x)
    (he : (((digitChars c).length : Int) - 1 + e).natAbs ≤ greatestExponent)
    (hr : NumberEnd rest) :
    numeral negative (scientificChars (digitChars c) ((digitChars c).length - 1 + e) ++ rest) =
      .ok (.float x hx, rest) := by
  have hvalue := digitsValue_digitChars c
  have hlead := leading_digitChars hc
  generalize digitChars c = ds at hvalue hlead he ⊢
  obtain ⟨⟨d, ds', rfl, hd₀⟩, hall⟩ := hlead
  have hw : IsWhole [d] :=
    Or.inr ⟨⟨d, [], rfl, hd₀⟩, fun y hy => hall y (by simp [List.mem_singleton.1 hy])⟩
  have h := numeral_scientific negative hw
    (fun y hy => hall y (List.mem_cons_of_mem d hy)) he hr.digitsEnd
  have hshift : (((d :: ds').length : Nat) : Int) - 1 + e - Int.ofNat ds'.length = e := by
    simp only [List.length_cons, Int.ofNat_eq_natCast]
    omega
  have hv : digitsValue ([d] ++ ds') = c := hvalue
  rw [hv, hshift, floatNumber_of_finite hx hd] at h
  rw [← h]
  cases ds' <;> simp [scientificChars, pointed]

theorem numeral_decimalChars {x : Binary64} (hx : x.isFinite = true) {rest : List Char}
    (hr : NumberEnd rest) :
    numeral x.negative (Layout.json.decimalChars (Decimal.shortest Layout.json.tie x) ++ rest) =
      .ok (.float x hx, rest) := by
  have hd := Decimal.toBinary64_shortest Layout.json.tie x hx
  have hcode : (Decimal.shortest Layout.json.tie x).coefficient ≠ 0 → x.code ≠ 0 := by
    intro hc h0
    simp [Decimal.shortest, h0, Binary64.magnitude, Binary64.fractionUnit] at hc
  generalize Decimal.shortest Layout.json.tie x = d at hd hcode ⊢
  obtain ⟨c, e⟩ := d
  simp only at hcode
  unfold decimalChars
  by_cases hc : c = 0
  · subst hc
    rw [toBinary64_zero] at hd
    have h := numeral_end x.negative (w := ['0']) (f := ['0']) (Or.inl rfl)
      (areDigits_zeros 1) hr
    have hv : digitsValue (['0'] ++ ['0']) = 0 := by decide
    rw [if_neg (by simp), hv, toBinary64_zero, floatNumber_of_finite hx hd] at h
    simpa [Layout.json, pointed] using h
  · rw [if_neg hc]
    simp only
    split
    · exact numeral_positional hx hc hd hr
    · obtain ⟨-, hlow, hhigh⟩ := Decimal.top_bounds hx (hcode hc) hd
      have hg : greatestExponent = 2147483647 := rfl
      refine numeral_scientificChars hx hc hd ?_ hr
      rw [length_digitChars]
      simp only at hlow hhigh
      omega

def ReadsScalar (cs : List Char) (j : Json) (rest : List Char) : Prop :=
  ∃ c ds, cs = c :: ds ∧ (isBlank c = false ∧ c ≠ '[' ∧ c ≠ '{') ∧
    scalar c (ds ++ rest) = .ok (j, rest)

theorem digit_starts {c : Char} (h : c.isDigit = true) :
    (isBlank c = false ∧ c ≠ '[' ∧ c ≠ '{') ∧
      c ≠ 'n' ∧ c ≠ 't' ∧ c ≠ 'f' ∧ c ≠ '"' ∧ c ≠ '-' := by
  have hb : isBlank c = false := by
    simp only [isBlank, Bool.or_eq_false_iff, decide_eq_false_iff_not]
    refine ⟨⟨⟨?_, ?_⟩, ?_⟩, ?_⟩ <;> (rintro rfl; exact absurd h (by decide))
  refine ⟨⟨hb, ?_, ?_⟩, ?_, ?_, ?_, ?_, ?_⟩ <;> (rintro rfl; exact absurd h (by decide))

theorem readsScalar_of_numeral {negative : Bool} {n : Number} {ds rest : List Char}
    (hs : ∃ d ds', ds = d :: ds' ∧ d.isDigit = true)
    (h : numeral negative (ds ++ rest) = .ok (n, rest)) :
    ReadsScalar (if negative then '-' :: ds else ds) (.number n) rest := by
  cases negative with
  | true =>
    refine ⟨'-', ds, rfl, by decide, ?_⟩
    simp [scalar, h, Except.map]
  | false =>
    obtain ⟨d, ds', rfl, hd⟩ := hs
    obtain ⟨hstart, hn, ht, hf, hq, hm⟩ := digit_starts hd
    refine ⟨d, ds', rfl, hstart, ?_⟩
    rw [List.cons_append] at h
    simp [scalar, hn, ht, hf, hq, hm, hd, h, Except.map]

theorem IsWhole.starts {ds : List Char} (h : IsWhole ds) :
    ∃ d ds', ds = d :: ds' ∧ d.isDigit = true := by
  rcases h with rfl | ⟨⟨d, ds', rfl, -⟩, hall⟩
  · exact ⟨'0', [], rfl, by decide⟩
  · exact ⟨d, ds', rfl, hall d List.mem_cons_self⟩

theorem decimalChars_starts (d : Decimal) :
    ∃ c cs, Layout.json.decimalChars d = c :: cs ∧ c.isDigit = true := by
  unfold decimalChars
  split
  · exact ⟨'0', ['.', '0'], rfl, by decide⟩
  · rename_i hc
    obtain ⟨⟨f, fs, hfs, -⟩, hall⟩ := leading_digitChars hc
    have hf : f.isDigit = true := hall f (by simp [hfs])
    simp only
    split
    · unfold positionalChars
      split
      · exact ⟨'0', _, rfl, by decide⟩
      · simp only
        split
        · exact ⟨f, _, by rw [hfs]; rfl, hf⟩
        · rename_i hneg hgt
          obtain ⟨k, hk⟩ : ∃ k, ((((digitChars d.coefficient).length : Nat) : Int) - 1 + d.exponent
              + 1).toNat = k + 1 := ⟨_, (Nat.succ_pred_eq_of_pos (by omega)).symm⟩
          rw [hk, hfs, List.take_succ_cons]
          exact ⟨f, _, rfl, hf⟩
    · rw [hfs]
      cases fs with
      | nil => exact ⟨f, _, rfl, hf⟩
      | cons g gs => exact ⟨f, _, rfl, hf⟩

theorem readsScalar_int (i : Int) (low : -9223372036854775808 ≤ i)
    (high : i < 18446744073709551616) {rest : List Char} (hr : NumberEnd rest) :
    ReadsScalar (intChars i) (.number (.int i low high)) rest := by
  have h := numeral_end (decide (i < 0)) (f := []) (isWhole_natChars i.natAbs)
    (fun c hc => by simp at hc) hr
  rw [if_pos rfl, digitsValue_natChars, pointed, List.nil_append] at h
  have hread : wholeNumber (decide (i < 0)) i.natAbs rest = .ok (.int i low high, rest) := by
    by_cases hneg : i < 0
    · have hi : -((i.natAbs : Nat) : Int) = i := by omega
      simp only [wholeNumber, hneg, decide_true, if_true]
      rw [dif_pos (by omega)]
      simp only [hi]
    · have hi : ((i.natAbs : Nat) : Int) = i := by omega
      simp only [wholeNumber, hneg, decide_false]
      rw [if_neg (by simp), dif_pos (by omega)]
      simp only [hi]
  have hscalar := readsScalar_of_numeral (isWhole_natChars i.natAbs).starts (h.trans hread)
  simpa [intChars] using hscalar

theorem readsScalar_number (n : Number) {rest : List Char} (hr : NumberEnd rest) :
    ReadsScalar n.chars (.number n) rest := by
  cases n with
  | int i low high => exact readsScalar_int i low high hr
  | float x finite =>
    exact readsScalar_of_numeral (decimalChars_starts _) (numeral_decimalChars finite hr)

end Json

end DocumentGraph
