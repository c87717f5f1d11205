import DocumentGraph.Proofs.Json.NumberText
set_option autoImplicit false

/-!
# JSON text read back

A well formed value is read back from its compact text, whatever it holds, as long as it is nested
within the limit of the reader; a value that is nested deeper is refused. The invariant of the
induction speaks of a value with any text behind it that cannot belong to a number.
-/

namespace DocumentGraph.Json

theorem hexValue_hexDigit {d : Nat} (h : d < 16) : hexValue (hexDigit d) = some d := by
  have all : ∀ d < 16, hexValue (hexDigit d) = some d := by decide
  exact all d h

theorem escaped_control {c : Char} (h : c.toNat < 32) (rest : List Char) :
    escaped ('u' :: '0' :: '0' :: hexDigit (c.toNat / 16) :: hexDigit (c.toNat % 16) :: rest) =
      .ok (c, rest) := by
  have h₁ := hexValue_hexDigit (show c.toNat / 16 < 16 by omega)
  have h₂ := hexValue_hexDigit (show c.toNat % 16 < 16 by omega)
  have h₀ : hexValue '0' = some 0 := by decide
  have hn : c.toNat / 16 * 16 + c.toNat % 16 = c.toNat := Nat.div_add_mod' c.toNat 16
  have hlow : isLowSurrogate c.toNat = false := by simp [isLowSurrogate]; omega
  have hhigh : isHighSurrogate c.toNat = false := by simp [isHighSurrogate]; omega
  simp [escaped, unicodeEscape, fourHex, h₀, h₁, h₂, hn, hlow, hhigh, bind, Except.bind,
    Char.ofNat_toNat]

theorem char_eq_of_toNat {c : Char} {n : Nat} (h : c.toNat = n) : c = Char.ofNat n := by
  rw [← h, Char.ofNat_toNat]

/-- What is written for a character is the character itself, or a backslash with what the reader
    takes for the character behind a backslash. -/
theorem escape_cases (c : Char) : (escape c = [c] ∧ c ≠ '"' ∧ c ≠ '\\' ∧ 32 ≤ c.toNat) ∨
    ∃ ds, escape c = '\\' :: ds ∧ ∀ rest, escaped (ds ++ rest) = .ok (c, rest) := by
  unfold escape
  split
  · rename_i h
    exact Or.inr ⟨['"'], rfl, fun rest => by rw [h]; rfl⟩
  split
  · rename_i h
    exact Or.inr ⟨['\\'], rfl, fun rest => by rw [h]; rfl⟩
  split
  · rename_i hq hb h
    exact Or.inl ⟨rfl, hq, hb, h⟩
  split
  · rename_i h
    exact Or.inr ⟨['b'], rfl, fun rest => by rw [char_eq_of_toNat h]; rfl⟩
  split
  · rename_i h
    exact Or.inr ⟨['t'], rfl, fun rest => by rw [char_eq_of_toNat h]; rfl⟩
  split
  · rename_i h
    exact Or.inr ⟨['n'], rfl, fun rest => by rw [char_eq_of_toNat h]; rfl⟩
  split
  · rename_i h
    exact Or.inr ⟨['f'], rfl, fun rest => by rw [char_eq_of_toNat h]; rfl⟩
  split
  · rename_i h
    exact Or.inr ⟨['r'], rfl, fun rest => by rw [char_eq_of_toNat h]; rfl⟩
  · rename_i h _ _ _ _ _
    exact Or.inr ⟨_, rfl, fun rest => escaped_control (by omega) rest⟩

theorem length_escape_pos (c : Char) : 0 < (escape c).length := by
  rcases escape_cases c with ⟨h, -⟩ | ⟨ds, h, -⟩ <;> simp [h]

theorem stringBody_escaped (cs rest : List Char) (fuel : Nat) (h : cs.length < fuel) :
    stringBody fuel (cs.flatMap escape ++ '"' :: rest) = .ok (cs, rest) := by
  induction cs generalizing fuel with
  | nil =>
    obtain ⟨fuel, rfl⟩ : ∃ n, fuel = n + 1 := ⟨fuel - 1, by simp at h; omega⟩
    simp [stringBody]
  | cons c cs ih =>
    obtain ⟨fuel, rfl⟩ : ∃ n, fuel = n + 1 := ⟨fuel - 1, by simp at h; omega⟩
    have hrest := ih fuel (by simp at h; omega)
    rw [List.flatMap_cons, List.append_assoc]
    rcases escape_cases c with ⟨hc, hq, hb, hlow⟩ | ⟨ds, hc, hread⟩
    · have hlow' : ¬ c.toNat < 32 := by omega
      rw [hc, List.singleton_append, stringBody, if_neg hq, if_neg hb, if_neg hlow', hrest]
      rfl
    · rw [hc, List.cons_append, stringBody, if_neg (by decide), if_pos rfl, hread]
      simp only [bind, Except.bind, hrest]

theorem length_flatMap_escape (cs : List Char) : cs.length ≤ (cs.flatMap escape).length := by
  induction cs with
  | nil => simp
  | cons c cs ih =>
    have := length_escape_pos c
    rw [List.flatMap_cons, List.length_append, List.length_cons]
    omega

theorem stringRest_escaped (s : String) (rest : List Char) :
    stringRest (s.toList.flatMap escape ++ '"' :: rest) = .ok (s, rest) := by
  have hlen := length_flatMap_escape s.toList
  have h := stringBody_escaped s.toList rest (s.toList.flatMap escape ++ '"' :: rest).length
    (by rw [List.length_append, List.length_cons]; omega)
  simp only [stringRest, h, bind, Except.bind, String.ofList_toList]

theorem stringChars_append (s : String) (rest : List Char) :
    stringChars s ++ rest = '"' :: (s.toList.flatMap escape ++ '"' :: rest) := by
  simp [stringChars]

theorem skipBlank_cons {c : Char} (h : isBlank c = false) (cs : List Char) :
    skipBlank (c :: cs) = c :: cs := by
  simp [skipBlank, h]

theorem value_scalar {cs : List Char} {j : Json} {rest : List Char} (h : ReadsScalar cs j rest)
    (limit : Nat) : value limit (cs ++ rest) = .ok (j, rest) := by
  obtain ⟨c, ds, rfl, ⟨hb, hl, ho⟩, hread⟩ := h
  cases limit <;> simp [value, skipBlank_cons hb, hl, ho, hread]

theorem readsScalar_string (s : String) (rest : List Char) :
    ReadsScalar (stringChars s) (.string s) rest := by
  refine ⟨'"', s.toList.flatMap escape ++ ['"'], rfl, by decide, ?_⟩
  have h := stringRest_escaped s rest
  simp [scalar, h, Except.map]

theorem insertMember_of_lt {key : String} {value : Json} {members : List (String × Json)}
    (h : ∀ m ∈ members, m.1 < key) : insertMember key value members = members ++ [(key, value)] := by
  induction members with
  | nil => rfl
  | cons m rest ih =>
    obtain ⟨k, v⟩ := m
    have hk : k < key := h (k, v) List.mem_cons_self
    have hne : key ≠ k := fun e => absurd (e ▸ hk) (String.lt_irrefl k)
    have hnlt : ¬ key < k := String.lt_asymm hk
    rw [insertMember, if_neg hne, if_neg hnlt,
      ih fun m hm => h m (List.mem_cons_of_mem _ hm), List.cons_append]

theorem mergeMembers_of_ascending (acc members : List (String × Json))
    (h : Ascending (acc ++ members)) : mergeMembers acc members = acc ++ members := by
  induction members generalizing acc with
  | nil => simp [mergeMembers]
  | cons m rest ih =>
    have hlt : ∀ n ∈ acc, n.1 < m.1 := by
      rw [Ascending, List.map_append, List.pairwise_append] at h
      intro n hn
      exact h.2.2 n.1 (List.mem_map_of_mem hn) m.1 (by simp)
    have hstep : mergeMembers acc (m :: rest) = mergeMembers (acc ++ [m]) rest := by
      rw [mergeMembers, List.foldl_cons, insertMember_of_lt hlt]
      rfl
    rw [hstep, ih (acc ++ [m]) (by simpa using h)]
    simp

theorem ofMembers_of_ascending {members : List (String × Json)} (h : Ascending members) :
    ofMembers members = .object members := by
  rw [ofMembers, mergeMembers_of_ascending [] members h, List.nil_append]

/-- Reading gives `a` and leaves `rest`, exactly if nothing is nested too deep. -/
def ReadsIf {α : Type} (fits : Prop) (r : Except Fault (α × List Char)) (a : α)
    (rest : List Char) : Prop :=
  (fits → r = .ok (a, rest)) ∧ (¬ fits → ∃ f, r = .error f)

theorem ReadsIf.congr {α : Type} {p q : Prop} {r : Except Fault (α × List Char)} {a : α}
    {rest : List Char} (h : ReadsIf p r a rest) (hpq : q ↔ p) : ReadsIf q r a rest :=
  ⟨fun hq => h.1 (hpq.1 hq), fun hq => h.2 fun hp => hq (hpq.2 hp)⟩

theorem ReadsIf.bind {α β : Type} {p q : Prop} {r : Except Fault (α × List Char)} {a : α}
    {mid rest : List Char} {k : α × List Char → Except Fault (β × List Char)} {b : β}
    (h : ReadsIf p r a mid) (hk : ReadsIf q (k (a, mid)) b rest) :
    ReadsIf (p ∧ q) (r >>= k) b rest := by
  constructor
  · rintro ⟨hp, hq⟩
    rw [h.1 hp]
    exact hk.1 hq
  · intro hn
    by_cases hp : p
    · rw [h.1 hp]
      exact hk.2 fun hq => hn ⟨hp, hq⟩
    · obtain ⟨f, hf⟩ := h.2 hp
      exact ⟨f, by rw [hf]; rfl⟩

theorem ReadsIf.map {α β : Type} {p : Prop} {r : Except Fault (α × List Char)} {a : α}
    {rest : List Char} (h : ReadsIf p r a rest) (f : α → β) :
    ReadsIf p (r >>= fun x => .ok (f x.1, x.2)) (f a) rest :=
  (h.bind (q := True) (k := fun x => .ok (f x.1, x.2)) ⟨fun _ => rfl, fun h => absurd trivial h⟩).congr
    (by simp)

theorem readsIf_scalar {cs : List Char} {j : Json} {rest : List Char} (h : ReadsScalar cs j rest)
    (limit : Nat) : ReadsIf (0 ≤ limit) (value limit (cs ++ rest)) j rest :=
  ⟨fun _ => value_scalar h limit, fun hn => absurd (Nat.zero_le limit) hn⟩

theorem numberEnd_moreItems (items : List Json) (rest : List Char) :
    NumberEnd (moreItemsChars items ++ rest) := by
  cases items <;> exact numberEnd_cons (by decide)

theorem numberEnd_moreMembers (members : List (String × Json)) (rest : List Char) :
    NumberEnd (moreMembersChars members ++ rest) := by
  cases members with
  | nil => exact numberEnd_cons (by decide)
  | cons m ms => exact numberEnd_cons (by decide)

theorem length_moreItems (items : List Json) : items.length < (moreItemsChars items).length := by
  induction items with
  | nil => decide
  | cons j items ih =>
    simp only [moreItemsChars, List.length_cons, List.length_append]
    omega

theorem length_moreMembers (members : List (String × Json)) :
    members.length < (moreMembersChars members).length := by
  induction members with
  | nil => decide
  | cons m ms ih =>
    obtain ⟨k, j⟩ := m
    simp only [moreMembersChars, List.length_cons, List.length_append]
    omega

theorem chars_starts (j : Json) : ∃ c cs, j.chars = c :: cs ∧ isBlank c = false ∧ c ≠ ']' := by
  cases j with
  | null => exact ⟨_, _, rfl, by decide⟩
  | bool b => cases b <;> exact ⟨_, _, rfl, by decide⟩
  | number n =>
    obtain ⟨c, cs, h, ⟨hb, -⟩, hread⟩ := readsScalar_number n numberEnd_nil
    refine ⟨c, cs, h, hb, ?_⟩
    rintro rfl
    simp [scalar] at hread
  | string s => exact ⟨_, _, rfl, by decide⟩
  | array items => cases items <;> exact ⟨_, _, rfl, by decide⟩
  | object members =>
    cases members with
    | nil => exact ⟨_, _, rfl, by decide⟩
    | cons m ms => exact ⟨_, _, rfl, by decide⟩

theorem value_array_cons (j : Json) (items : List Json) (limit : Nat) (rest : List Char) :
    value (limit + 1) (chars (.array (j :: items)) ++ rest) =
      value limit (j.chars ++ (moreItemsChars items ++ rest)) >>= fun x =>
        moreItems (value limit) x.2.length x.2 >>= fun y => .ok (.array (x.1 :: y.1), y.2) := by
  obtain ⟨c, cs, hc, hb, hne⟩ := chars_starts j
  have hl : isBlank '[' = false := by decide
  simp [chars, value, arrayRest, hc, skipBlank_cons hb, skipBlank_cons hl, hne]

theorem moreItems_cons (j : Json) (items : List Json) (limit fuel : Nat) (rest : List Char) :
    moreItems (value limit) (fuel + 1) (moreItemsChars (j :: items) ++ rest) =
      value limit (j.chars ++ (moreItemsChars items ++ rest)) >>= fun x =>
        moreItems (value limit) fuel x.2 >>= fun y => .ok (x.1 :: y.1, y.2) := by
  obtain ⟨c, cs, hc, hb, hne⟩ := chars_starts j
  have hl : isBlank ',' = false := by decide
  simp [moreItemsChars, moreItems, hc, skipBlank_cons hb, skipBlank_cons hl, hne]

theorem member_chars (element : Reader Json) (key : String) (cs : List Char) :
    member element (key.toList.flatMap escape ++ '"' :: ':' :: cs) =
      element cs >>= fun x => .ok ((key, x.1), x.2) := by
  have h := stringRest_escaped key (':' :: cs)
  have hl : isBlank ':' = false := by decide
  simp [member, h, bind, Except.bind, skipBlank_cons hl]

theorem value_object_cons (key : String) (j : Json) (members : List (String × Json))
    (limit : Nat) (rest : List Char) :
    value (limit + 1) (chars (.object ((key, j) :: members)) ++ rest) =
      (value limit (j.chars ++ (moreMembersChars members ++ rest)) >>= fun x =>
        .ok ((key, x.1), x.2)) >>= fun x =>
        moreMembers (value limit) x.2.length x.2 >>= fun y => .ok (ofMembers (x.1 :: y.1), y.2) := by
  have hl : isBlank '{' = false := by decide
  have hq : isBlank '"' = false := by decide
  simp [chars, value, objectRest, stringChars_append, skipBlank_cons hl, skipBlank_cons hq,
    member_chars]

theorem moreMembers_cons (key : String) (j : Json) (members : List (String × Json))
    (limit fuel : Nat) (rest : List Char) :
    moreMembers (value limit) (fuel + 1) (moreMembersChars ((key, j) :: members) ++ rest) =
      (value limit (j.chars ++ (moreMembersChars members ++ rest)) >>= fun x =>
        .ok ((key, x.1), x.2)) >>= fun x =>
        moreMembers (value limit) fuel x.2 >>= fun y => .ok (x.1 :: y.1, y.2) := by
  have hl : isBlank ',' = false := by decide
  have hq : isBlank '"' = false := by decide
  simp [moreMembersChars, moreMembers, stringChars_append, skipBlank_cons hl, skipBlank_cons hq,
    member_chars]

mutual

theorem readsIf_value : ∀ (j : Json) (limit : Nat) (rest : List Char), NumberEnd rest →
    WellFormed j → ReadsIf (depth j ≤ limit) (value limit (j.chars ++ rest)) j rest
  | .null, limit, rest, _, _ => by
    refine readsIf_scalar ⟨_, _, rfl, by decide, ?_⟩ limit
    simp [scalar, word, Except.map]
  | .bool true, limit, rest, _, _ => by
    refine readsIf_scalar ⟨_, _, rfl, by decide, ?_⟩ limit
    simp [scalar, word, Except.map]
  | .bool false, limit, rest, _, _ => by
    refine readsIf_scalar ⟨_, _, rfl, by decide, ?_⟩ limit
    simp [scalar, word, Except.map]
  | .number n, limit, rest, hr, _ => readsIf_scalar (readsScalar_number n hr) limit
  | .string s, limit, rest, _, _ => readsIf_scalar (readsScalar_string s rest) limit
  | .array [], 0, rest, _, _ => ⟨fun h => by simp [depth] at h, fun _ => ⟨_, rfl⟩⟩
  | .array [], limit + 1, rest, _, _ => ⟨fun _ => rfl, fun h => by simp [depth, itemsDepth] at h⟩
  | .array (j :: items), 0, rest, _, _ => ⟨fun h => by simp [depth] at h, fun _ => ⟨_, rfl⟩⟩
  | .array (j :: items), limit + 1, rest, _, hw => by
    have hlen := length_moreItems items
    have hj := readsIf_value j limit _ (numberEnd_moreItems items rest) hw.1
    have hi := readsIf_items items limit (moreItemsChars items ++ rest).length rest
      (by rw [List.length_append]; omega) hw.2
    rw [value_array_cons]
    refine (hj.bind (hi.map fun js => Json.array (j :: js))).congr ?_
    simp only [depth, itemsDepth]
    omega
  | .object [], 0, rest, _, _ => ⟨fun h => by simp [depth] at h, fun _ => ⟨_, rfl⟩⟩
  | .object [], limit + 1, rest, _, _ =>
    ⟨fun _ => rfl, fun h => by simp [depth, membersDepth] at h⟩
  | .object ((key, j) :: members), 0, rest, _, _ =>
    ⟨fun h => by simp [depth] at h, fun _ => ⟨_, rfl⟩⟩
  | .object ((key, j) :: members), limit + 1, rest, _, hw => by
    have hlen := length_moreMembers members
    have hj := readsIf_value j limit _ (numberEnd_moreMembers members rest) hw.2.1
    have hm := readsIf_members members limit (moreMembersChars members ++ rest).length rest
      (by rw [List.length_append]; omega) hw.2.2
    have hfits : depth (.object ((key, j) :: members)) ≤ limit + 1 ↔
        depth j ≤ limit ∧ membersDepth members ≤ limit := by
      simp only [depth, membersDepth]
      omega
    refine ReadsIf.congr ?_ hfits
    rw [value_object_cons, ← ofMembers_of_ascending hw.1]
    exact (hj.map fun v => (key, v)).bind (hm.map fun ms => ofMembers ((key, j) :: ms))

theorem readsIf_items : ∀ (items : List Json) (limit fuel : Nat) (rest : List Char),
    items.length < fuel → ItemsWellFormed items →
    ReadsIf (itemsDepth items ≤ limit)
      (moreItems (value limit) fuel (moreItemsChars items ++ rest)) items rest
  | [], limit, 0, rest, h, _ => by simp at h
  | [], limit, fuel + 1, rest, _, _ => ⟨fun _ => rfl, fun h => by simp [itemsDepth] at h⟩
  | j :: items, limit, 0, rest, h, _ => by simp at h
  | j :: items, limit, fuel + 1, rest, h, hw => by
    have hj := readsIf_value j limit _ (numberEnd_moreItems items rest) hw.1
    have hi := readsIf_items items limit fuel rest (by simp at h; omega) hw.2
    rw [moreItems_cons]
    refine (hj.bind (hi.map fun js => j :: js)).congr ?_
    simp only [itemsDepth]
    omega

theorem readsIf_members : ∀ (members : List (String × Json)) (limit fuel : Nat)
    (rest : List Char), members.length < fuel → MembersWellFormed members →
    ReadsIf (membersDepth members ≤ limit)
      (moreMembers (value limit) fuel (moreMembersChars members ++ rest)) members rest
  | [], limit, 0, rest, h, _ => by simp at h
  | [], limit, fuel + 1, rest, _, _ => ⟨fun _ => rfl, fun h => by simp [membersDepth] at h⟩
  | (key, j) :: members, limit, 0, rest, h, _ => by simp at h
  | (key, j) :: members, limit, fuel + 1, rest, h, hw => by
    have hj := readsIf_value j limit _ (numberEnd_moreMembers members rest) hw.1
    have hm := readsIf_members members limit fuel rest (by simp at h; omega) hw.2
    rw [moreMembers_cons]
    refine ((hj.map fun v => (key, v)).bind (hm.map fun ms => (key, j) :: ms)).congr ?_
    simp only [membersDepth]
    omega

end

/-- A well formed value is read back from its compact text, if it is nested within the limit. -/
theorem read_compact {j : Json} (hw : j.WellFormed) {limit : Nat} (hd : j.depth ≤ limit) :
    read limit j.compact = .ok j := by
  have h := (readsIf_value j limit [] numberEnd_nil hw).1 hd
  rw [List.append_nil] at h
  simp [read, readChars, toList_compact, h, bind, Except.bind, skipBlank]

theorem read_compact_of_deep {j : Json} (hw : j.WellFormed) {limit : Nat} (hd : limit < j.depth) :
    ∃ e, read limit j.compact = .error e := by
  obtain ⟨f, h⟩ := (readsIf_value j limit [] numberEnd_nil hw).2 (Nat.not_le.2 hd)
  rw [List.append_nil] at h
  exact ⟨f.locate j.compact, by simp [read, readChars, toList_compact, h, bind, Except.bind]⟩

end DocumentGraph.Json
