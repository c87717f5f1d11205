import DocumentGraph.Proofs.Json.Members
import DocumentGraph.Proofs.Json.RoundTrip
set_option autoImplicit false

/-!
# Indented JSON text read back

An indented text is read as the value that it was made of, with the members of every object in
ascending order of their keys, as long as the value is nested within the limit of the reader. The blanks
of the layout stand only where the reader skips them.
-/

namespace DocumentGraph.Json

mutual

/-- The value with the members of every object in ascending order; the last value of a key counts. -/
def ordered : Json → Json
  | .array items => .array (orderedItems items)
  | .object members => ofMembers (orderedMembers members)
  | j => j

def orderedItems : List Json → List Json
  | [] => []
  | j :: rest => ordered j :: orderedItems rest

def orderedMembers : List (String × Json) → List (String × Json)
  | [] => []
  | (key, j) :: rest => (key, ordered j) :: orderedMembers rest

end

mutual

theorem ordered_of_wellFormed : ∀ {j : Json}, j.WellFormed → j.ordered = j
  | .null, _ | .bool _, _ | .number _, _ | .string _, _ => rfl
  | .array _, h => congrArg Json.array (orderedItems_of_wellFormed h)
  | .object _, h => by
    rw [ordered, orderedMembers_of_wellFormed h.2, ofMembers_of_ascending h.1]

theorem orderedItems_of_wellFormed : ∀ {items : List Json}, ItemsWellFormed items →
    orderedItems items = items
  | [], _ => rfl
  | _ :: _, h => congrArg₂ List.cons (ordered_of_wellFormed h.1) (orderedItems_of_wellFormed h.2)

theorem orderedMembers_of_wellFormed : ∀ {members : List (String × Json)},
    MembersWellFormed members → orderedMembers members = members
  | [], _ => rfl
  | (key, _) :: _, h =>
    congrArg₂ List.cons (congrArg (Prod.mk key) (ordered_of_wellFormed h.1))
      (orderedMembers_of_wellFormed h.2)

end

theorem orderedItems_eq_map (items : List Json) : orderedItems items = items.map ordered := by
  induction items with
  | nil => rfl
  | cons j rest ih => exact congrArg (List.cons j.ordered) ih

theorem skipBlank_blanks {bs : List Char} (h : ∀ c ∈ bs, isBlank c = true) (cs : List Char) :
    skipBlank (bs ++ cs) = skipBlank cs := by
  induction bs with
  | nil => rfl
  | cons b bs ih =>
    obtain ⟨hb, hbs⟩ := List.forall_mem_cons.mp h
    rw [List.cons_append, skipBlank, List.dropWhile_cons_of_pos hb]
    exact ih hbs

theorem skipBlank_newLine (indent : Nat) (cs : List Char) :
    skipBlank (newLine indent ++ cs) = skipBlank cs := by
  refine skipBlank_blanks (List.forall_mem_cons.mpr ⟨by decide, fun c hc => ?_⟩) cs
  rw [List.eq_of_mem_replicate hc]
  decide

theorem value_congr {cs ds : List Char} (h : skipBlank cs = skipBlank ds) (limit : Nat) :
    value limit cs = value limit ds := by
  cases limit <;> rw [value, value, h]

theorem indentedChars_starts (indent : Nat) (j : Json) :
    ∃ c cs, indentedChars indent j = c :: cs ∧ isBlank c = false ∧ c ≠ ']' := by
  cases j with
  | array items => cases items <;> exact ⟨_, _, rfl, by decide⟩
  | object members =>
    cases members with
    | nil => exact ⟨_, _, rfl, by decide⟩
    | cons m ms => exact ⟨_, _, rfl, by decide⟩
  | _ => exact chars_starts _

theorem numberEnd_newLine (indent : Nat) (cs : List Char) : NumberEnd (newLine indent ++ cs) :=
  numberEnd_cons (by decide)

theorem numberEnd_indentedItems (indent : Nat) (items : List Json) (rest : List Char) :
    NumberEnd (indentedItems indent items ++ rest) := by
  cases items with
  | nil =>
    rw [indentedItems, List.append_assoc]
    exact numberEnd_newLine indent _
  | cons j items => exact numberEnd_cons (by decide)

theorem numberEnd_indentedMembers (indent : Nat) (members : List (String × Json))
    (rest : List Char) : NumberEnd (indentedMembers indent members ++ rest) := by
  cases members with
  | nil =>
    rw [indentedMembers, List.append_assoc]
    exact numberEnd_newLine indent _
  | cons m members => exact numberEnd_cons (by decide)

theorem length_indentedItems (indent : Nat) (items : List Json) :
    items.length < (indentedItems indent items).length := by
  induction items with
  | nil => simp [indentedItems]
  | cons j items ih =>
    simp only [indentedItems, List.length_cons, List.length_append]
    omega

theorem length_indentedMembers (indent : Nat) (members : List (String × Json)) :
    members.length < (indentedMembers indent members).length := by
  induction members with
  | nil => simp [indentedMembers]
  | cons m members ih =>
    obtain ⟨key, j⟩ := m
    simp only [indentedMembers, List.length_cons, List.length_append]
    omega

theorem value_indented_array (indent : Nat) (j : Json) (items : List Json) (limit : Nat)
    (rest : List Char) :
    value (limit + 1) (indentedChars indent (.array (j :: items)) ++ rest) =
      value limit (indentedChars (indent + 1) j ++ (indentedItems indent items ++ rest)) >>= fun x =>
        moreItems (value limit) x.2.length x.2 >>= fun y => .ok (.array (x.1 :: y.1), y.2) := by
  obtain ⟨c, cs, hc, hb, hne⟩ := indentedChars_starts (indent + 1) j
  have hl : isBlank '[' = false := by decide
  simp [indentedChars, value, arrayRest, hc, skipBlank_newLine, skipBlank_cons hb,
    skipBlank_cons hl, hne]

theorem moreItems_indented (indent : Nat) (j : Json) (items : List Json) (limit fuel : Nat)
    (rest : List Char) :
    moreItems (value limit) (fuel + 1) (indentedItems indent (j :: items) ++ rest) =
      value limit (indentedChars (indent + 1) j ++ (indentedItems indent items ++ rest)) >>= fun x =>
        moreItems (value limit) fuel x.2 >>= fun y => .ok (x.1 :: y.1, y.2) := by
  obtain ⟨c, cs, hc, hb, hne⟩ := indentedChars_starts (indent + 1) j
  have hl : isBlank ',' = false := by decide
  simp [indentedItems, moreItems, hc, skipBlank_newLine, skipBlank_cons hb, skipBlank_cons hl, hne]

theorem moreItems_end (element : Reader Json) (indent fuel : Nat) (rest : List Char) :
    moreItems element (fuel + 1) (indentedItems indent [] ++ rest) = .ok ([], rest) := by
  have hl : isBlank ']' = false := by decide
  simp [indentedItems, moreItems, skipBlank_newLine, skipBlank_cons hl]

theorem member_indented (limit : Nat) (key : String) (cs : List Char) :
    member (value limit) (key.toList.flatMap escape ++ '"' :: ':' :: ' ' :: cs) =
      value limit cs >>= fun x => .ok ((key, x.1), x.2) := by
  have hone : ∀ c ∈ [' '], isBlank c = true := List.forall_mem_singleton.mpr (by decide)
  have hblank : skipBlank (' ' :: cs) = skipBlank cs := skipBlank_blanks hone cs
  rw [member_chars, value_congr hblank]

theorem value_indented_object (indent : Nat) (key : String) (j : Json)
    (members : List (String × Json)) (limit : Nat) (rest : List Char) :
    value (limit + 1) (indentedChars indent (.object ((key, j) :: members)) ++ rest) =
      (value limit (indentedChars (indent + 1) j ++ (indentedMembers indent members ++ rest)) >>=
        fun x => .ok ((key, x.1), x.2)) >>= fun x =>
          moreMembers (value limit) x.2.length x.2 >>= fun y =>
            .ok (ofMembers (x.1 :: y.1), y.2) := by
  have hl : isBlank '{' = false := by decide
  have hq : isBlank '"' = false := by decide
  simp [indentedChars, value, objectRest, stringChars_append, skipBlank_newLine, skipBlank_cons hl,
    skipBlank_cons hq, member_indented]

theorem moreMembers_indented (indent : Nat) (key : String) (j : Json)
    (members : List (String × Json)) (limit fuel : Nat) (rest : List Char) :
    moreMembers (value limit) (fuel + 1) (indentedMembers indent ((key, j) :: members) ++ rest) =
      (value limit (indentedChars (indent + 1) j ++ (indentedMembers indent members ++ rest)) >>=
        fun x => .ok ((key, x.1), x.2)) >>= fun x =>
          moreMembers (value limit) fuel x.2 >>= fun y => .ok (x.1 :: y.1, y.2) := by
  have hl : isBlank ',' = false := by decide
  have hq : isBlank '"' = false := by decide
  simp [indentedMembers, moreMembers, stringChars_append, skipBlank_newLine, skipBlank_cons hl,
    skipBlank_cons hq, member_indented]

theorem moreMembers_end (element : Reader Json) (indent fuel : Nat) (rest : List Char) :
    moreMembers element (fuel + 1) (indentedMembers indent [] ++ rest) = .ok ([], rest) := by
  have hl : isBlank '}' = false := by decide
  simp [indentedMembers, moreMembers, skipBlank_newLine, skipBlank_cons hl]

mutual

theorem value_indented : ∀ (j : Json) (indent limit : Nat) (rest : List Char), NumberEnd rest →
    depth j ≤ limit → value limit (indentedChars indent j ++ rest) = .ok (ordered j, rest)
  | .null, _, limit, rest, hr, h => (readsIf_value .null limit rest hr trivial).1 h
  | .bool b, _, limit, rest, hr, h => (readsIf_value (.bool b) limit rest hr trivial).1 h
  | .number n, _, limit, rest, hr, h => (readsIf_value (.number n) limit rest hr trivial).1 h
  | .string s, _, limit, rest, hr, h => (readsIf_value (.string s) limit rest hr trivial).1 h
  | .array [], _, limit, rest, hr, h => (readsIf_value (.array []) limit rest hr trivial).1 h
  | .object [], _, limit, rest, hr, h =>
    (readsIf_value (.object []) limit rest hr ⟨.nil, trivial⟩).1 h
  | .array (_ :: _), _, 0, _, _, h => absurd h (Nat.not_succ_le_zero _)
  | .object (_ :: _), _, 0, _, _, h => absurd h (Nat.not_succ_le_zero _)
  | .array (j :: items), indent, limit + 1, rest, _, h => by
    obtain ⟨hj, hitems⟩ := Nat.max_le.mp (Nat.le_of_succ_le_succ h)
    have hlen := length_indentedItems indent items
    have hvalue := value_indented j (indent + 1) limit _ (numberEnd_indentedItems indent items rest) hj
    have hrest := moreItems_indentedItems items indent limit
      (indentedItems indent items ++ rest).length rest (by rw [List.length_append]; omega) hitems
    rw [value_indented_array, hvalue]
    simp only [bind, Except.bind, hrest, ordered, orderedItems]
  | .object ((key, j) :: members), indent, limit + 1, rest, _, h => by
    obtain ⟨hj, hmembers⟩ := Nat.max_le.mp (Nat.le_of_succ_le_succ h)
    have hlen := length_indentedMembers indent members
    have hvalue :=
      value_indented j (indent + 1) limit _ (numberEnd_indentedMembers indent members rest) hj
    have hrest := moreMembers_indentedMembers members indent limit
      (indentedMembers indent members ++ rest).length rest (by rw [List.length_append]; omega) hmembers
    rw [value_indented_object, hvalue]
    simp only [bind, Except.bind, hrest, ordered, orderedMembers]

theorem moreItems_indentedItems : ∀ (items : List Json) (indent limit fuel : Nat)
    (rest : List Char), items.length < fuel → itemsDepth items ≤ limit →
    moreItems (value limit) fuel (indentedItems indent items ++ rest) = .ok (orderedItems items, rest)
  | _, _, _, 0, _, h, _ => absurd h (Nat.not_lt_zero _)
  | [], indent, limit, fuel + 1, rest, _, _ => moreItems_end (value limit) indent fuel rest
  | j :: items, indent, limit, fuel + 1, rest, hfuel, h => by
    obtain ⟨hj, hitems⟩ := Nat.max_le.mp h
    have hvalue := value_indented j (indent + 1) limit _ (numberEnd_indentedItems indent items rest) hj
    have hrest := moreItems_indentedItems items indent limit fuel rest
      (Nat.lt_of_succ_lt_succ hfuel) hitems
    rw [moreItems_indented, hvalue]
    simp only [bind, Except.bind, hrest, orderedItems]

theorem moreMembers_indentedMembers : ∀ (members : List (String × Json)) (indent limit fuel : Nat)
    (rest : List Char), members.length < fuel → membersDepth members ≤ limit →
    moreMembers (value limit) fuel (indentedMembers indent members ++ rest) =
      .ok (orderedMembers members, rest)
  | _, _, _, 0, _, h, _ => absurd h (Nat.not_lt_zero _)
  | [], indent, limit, fuel + 1, rest, _, _ => moreMembers_end (value limit) indent fuel rest
  | (key, j) :: members, indent, limit, fuel + 1, rest, hfuel, h => by
    obtain ⟨hj, hmembers⟩ := Nat.max_le.mp h
    have hvalue :=
      value_indented j (indent + 1) limit _ (numberEnd_indentedMembers indent members rest) hj
    have hrest := moreMembers_indentedMembers members indent limit fuel rest
      (Nat.lt_of_succ_lt_succ hfuel) hmembers
    rw [moreMembers_indented, hvalue]
    simp only [bind, Except.bind, hrest, orderedMembers]

end

theorem read_indented {j : Json} {limit : Nat} (h : j.depth ≤ limit) :
    read limit (j.indented ++ "\n") = .ok j.ordered := by
  have hread := value_indented j 0 limit ['\n'] (numberEnd_cons (by decide)) h
  have hchars : (j.indented ++ "\n").toList = indentedChars 0 j ++ ['\n'] := by
    rw [String.toList_append, indented, String.toList_ofList]
    rfl
  have hend : skipBlank ['\n'] = [] := by decide
  simp only [read, readChars, hchars, hread, bind, Except.bind, hend]

end DocumentGraph.Json
