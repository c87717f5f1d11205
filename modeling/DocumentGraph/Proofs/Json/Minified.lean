import DocumentGraph.Proofs.Json.RoundTrip
import DocumentGraph.Proofs.Text.Line
import DocumentGraph.Sql.Condition
set_option autoImplicit false

namespace DocumentGraph

open Placeholder Layout

namespace Json

/-- Characters that are kept outside of a string and do not open one. -/
def AreOutside (cs : List Char) : Prop := ∀ c ∈ cs, c ≠ '"' ∧ isBlank c = false

theorem AreOutside.append {cs ds : List Char} (hc : AreOutside cs) (hd : AreOutside ds) :
    AreOutside (cs ++ ds) := by
  intro c h
  rcases List.mem_append.1 h with h | h
  · exact hc c h
  · exact hd c h

theorem AreOutside.cons {c : Char} {cs : List Char} (h : c ≠ '"' ∧ isBlank c = false)
    (hc : AreOutside cs) : AreOutside (c :: cs) := by
  intro d hd
  rcases List.mem_cons.1 hd with rfl | hd
  · exact h
  · exact hc d hd

theorem areOutside_nil : AreOutside [] := fun c h => by simp at h

theorem areOutside_word {cs : List Char}
    (h : (cs.all fun c => c ≠ '"' && !isBlank c) = true) : AreOutside cs := by
  intro c hc
  simpa using List.all_eq_true.1 h c hc

theorem areOutside_digits {cs : List Char} (h : AreDigits cs) : AreOutside cs := fun c hc =>
  ⟨(digit_starts (h c hc)).2.2.2.2.1, (digit_starts (h c hc)).1.1⟩

theorem areOutside_positional {keepsFraction : Bool} {ds : List Char} (h : AreDigits ds) (e : Int) :
    AreOutside (positionalChars keepsFraction ds e) := by
  unfold positionalChars
  split
  · exact .cons (by decide) (.cons (by decide) (areOutside_digits ((areDigits_zeros _).append h)))
  · simp only
    split
    · refine (areOutside_digits (h.append (areDigits_zeros _))).append ?_
      cases keepsFraction
      · exact areOutside_nil
      · exact .cons (by decide) (.cons (by decide) areOutside_nil)
    · exact (areOutside_digits fun c hc => h c (List.mem_of_mem_take hc)).append
        (.cons (by decide) (areOutside_digits fun c hc => h c (List.mem_of_mem_drop hc)))

theorem areOutside_scientific {ds : List Char} (h : AreDigits ds) (e : Int) :
    AreOutside (scientificChars ds e) := by
  unfold scientificChars
  refine AreOutside.append ?_ (.cons (by decide) (.cons ?_ (areOutside_digits (areDigits_natChars _))))
  · match ds with
    | [] => exact .cons (by decide) areOutside_nil
    | [d] => exact areOutside_digits h
    | d :: f :: fs =>
      exact .cons (areOutside_digits h d List.mem_cons_self)
        (.cons (by decide) (areOutside_digits fun c hc => h c (List.mem_cons_of_mem d hc)))
  · split <;> decide

theorem areOutside_decimal (d : Decimal) : AreOutside (Layout.json.decimalChars d) := by
  unfold decimalChars
  split
  · exact .cons (by decide) (.cons (by decide) (.cons (by decide) areOutside_nil))
  · simp only
    split
    · exact areOutside_positional (areDigits_digitChars _) _
    · exact areOutside_scientific (areDigits_digitChars _) _

theorem areOutside_number (n : Number) : AreOutside n.chars := by
  cases n with
  | int i low high =>
    simp only [Number.chars, intChars]
    split
    · exact .cons (by decide) (areOutside_digits (areDigits_natChars _))
    · exact areOutside_digits (areDigits_natChars _)
  | float x finite =>
    simp only [Number.chars, finiteChars]
    split
    · exact .cons (by decide) (areOutside_decimal _)
    · exact areOutside_decimal _

theorem minified_outside {cs : List Char} (h : AreOutside cs) (rest : List Char) :
    minified false (cs ++ rest) = cs ++ minified false rest := by
  induction cs with
  | nil => rfl
  | cons c cs ih =>
    obtain ⟨hq, hb⟩ := h c List.mem_cons_self
    have hblank : ¬ (c = ' ' ∨ c = '\n' ∨ c = '\t' ∨ c = '\r') := by
      simpa [isBlank, and_assoc] using hb
    rw [List.cons_append, minified, if_neg hq, if_neg hblank,
      ih fun d hd => h d (List.mem_cons_of_mem c hd), List.cons_append]

theorem minified_inside {cs : List Char} (h : ∀ c ∈ cs, c ≠ '"' ∧ c ≠ '\\') (rest : List Char) :
    minified true (cs ++ rest) = cs ++ minified true rest := by
  induction cs with
  | nil => rfl
  | cons c cs ih =>
    obtain ⟨hq, hb⟩ := h c List.mem_cons_self
    have hrest := ih fun d hd => h d (List.mem_cons_of_mem c hd)
    rw [List.cons_append, List.cons_append, ← hrest]
    cases hcs : cs ++ rest with
    | nil => simp [minified, hq]
    | cons d ds => simp [minified, hq, hb]

theorem hexDigit_inside {d : Nat} (h : d < 16) : hexDigit d ≠ '"' ∧ hexDigit d ≠ '\\' := by
  have all : ∀ d < 16, hexDigit d ≠ '"' ∧ hexDigit d ≠ '\\' := by decide
  exact all d h

theorem minified_escape (c : Char) (rest : List Char) :
    minified true (escape c ++ rest) = escape c ++ minified true rest := by
  unfold escape
  split
  · rfl
  split
  · rfl
  split
  · rename_i hq hb _
    exact minified_inside (fun d hd => by rw [List.mem_singleton.1 hd]; exact ⟨hq, hb⟩) rest
  iterate 5
    split
    · rfl
  · rename_i hc _ _ _ _ _
    have h : ∀ d ∈ ['0', '0', hexDigit (c.toNat / 16), hexDigit (c.toNat % 16)],
        d ≠ '"' ∧ d ≠ '\\' := by
      intro d hd
      simp only [List.mem_cons, List.not_mem_nil, or_false] at hd
      rcases hd with rfl | rfl | rfl | rfl
      · decide
      · decide
      · exact hexDigit_inside (by omega)
      · exact hexDigit_inside (by omega)
    exact congrArg (fun cs => '\\' :: 'u' :: cs) (minified_inside h rest)

theorem minified_string (s : String) (rest : List Char) :
    minified false (stringChars s ++ rest) = stringChars s ++ minified false rest := by
  have hbody : ∀ cs : List Char, minified true (cs.flatMap escape ++ '"' :: rest) =
      cs.flatMap escape ++ '"' :: minified false rest := by
    intro cs
    induction cs with
    | nil =>
      cases rest with
      | nil => rfl
      | cons d ds => rfl
    | cons c cs ih => rw [List.flatMap_cons, List.append_assoc, minified_escape, ih, List.append_assoc]
  rw [stringChars_append, stringChars_append, minified, if_pos rfl, hbody]

theorem minified_cons {c : Char} (h : c ≠ '"' ∧ isBlank c = false) (rest : List Char) :
    minified false (c :: rest) = c :: minified false rest :=
  minified_outside (.cons h areOutside_nil) rest

mutual

theorem minified_chars : ∀ (j : Json) (rest : List Char),
    minified false (j.chars ++ rest) = j.chars ++ minified false rest
  | .null, rest => minified_outside (areOutside_word (by decide)) rest
  | .bool true, rest => minified_outside (areOutside_word (by decide)) rest
  | .bool false, rest => minified_outside (areOutside_word (by decide)) rest
  | .number n, rest => minified_outside (areOutside_number n) rest
  | .string s, rest => minified_string s rest
  | .array [], rest => minified_outside (areOutside_word (by decide)) rest
  | .array (j :: items), rest => by
    simp only [chars, List.cons_append, List.append_assoc]
    rw [minified_cons (by decide), minified_chars j, minified_items items]
  | .object [], rest => minified_outside (areOutside_word (by decide)) rest
  | .object ((key, j) :: members), rest => by
    simp only [chars, List.cons_append, List.append_assoc]
    rw [minified_cons (by decide), minified_string, minified_cons (by decide), minified_chars j,
      minified_members members]

theorem minified_items : ∀ (items : List Json) (rest : List Char),
    minified false (moreItemsChars items ++ rest) = moreItemsChars items ++ minified false rest
  | [], rest => minified_cons (by decide) rest
  | j :: items, rest => by
    simp only [moreItemsChars, List.cons_append, List.append_assoc]
    rw [minified_cons (by decide), minified_chars j, minified_items items]

theorem minified_members : ∀ (members : List (String × Json)) (rest : List Char),
    minified false (moreMembersChars members ++ rest) =
      moreMembersChars members ++ minified false rest
  | [], rest => minified_cons (by decide) rest
  | (key, j) :: members, rest => by
    simp only [moreMembersChars, List.cons_append, List.append_assoc]
    rw [minified_cons (by decide), minified_string, minified_cons (by decide), minified_chars j,
      minified_members members]

end

theorem lineFeed_not_mem_escape (c : Char) : '\n' ∉ escape c := by
  unfold escape
  split
  · decide
  split
  · decide
  split
  · rw [List.mem_singleton]
    rintro rfl
    contradiction
  iterate 5
    split
    · decide
  · have hhex (d : Nat) (hd : d < 16) : hexDigit d ≠ '\n' := by
      have all : ∀ d < 16, hexDigit d ≠ '\n' := by decide
      exact all d hd
    have hhigh := hhex (c.toNat / 16) (by omega)
    have hlow := hhex (c.toNat % 16) (by omega)
    simp [hhigh.symm, hlow.symm]

theorem lineFeed_not_mem_string (s : String) : '\n' ∉ stringChars s := by
  have hbody : '\n' ∉ s.toList.flatMap escape := fun h => by
    obtain ⟨c, -, hc⟩ := List.mem_flatMap.mp h
    exact lineFeed_not_mem_escape c hc
  simp [stringChars, hbody]

theorem AreOutside.lineFeed_not_mem {cs : List Char} (h : AreOutside cs) : '\n' ∉ cs := fun hmem => by
  obtain ⟨-, hblank⟩ := h _ hmem
  cases hblank

mutual

theorem lineFeed_not_mem_chars : ∀ j : Json, '\n' ∉ j.chars
  | .null | .bool true | .bool false | .array [] | .object [] => by decide
  | .number n => (areOutside_number n).lineFeed_not_mem
  | .string s => lineFeed_not_mem_string s
  | .array (j :: items) => by
    simp [chars, lineFeed_not_mem_chars j, lineFeed_not_mem_items items]
  | .object ((key, j) :: members) => by
    simp [chars, lineFeed_not_mem_string key, lineFeed_not_mem_chars j,
      lineFeed_not_mem_members members]

theorem lineFeed_not_mem_items : ∀ items : List Json, '\n' ∉ moreItemsChars items
  | [] => by decide
  | j :: items => by
    simp [moreItemsChars, lineFeed_not_mem_chars j, lineFeed_not_mem_items items]

theorem lineFeed_not_mem_members : ∀ members : List (String × Json),
    '\n' ∉ moreMembersChars members
  | [] => by decide
  | (key, j) :: members => by
    simp [moreMembersChars, lineFeed_not_mem_string key, lineFeed_not_mem_chars j,
      lineFeed_not_mem_members members]

end

theorem singleLine_compact (j : Json) : SingleLine j.compact := by
  rw [SingleLine, toList_compact]
  exact lineFeed_not_mem_chars j

theorem value_json_compact (j : Json) :
    Placeholder.json.value (.text j.compact) = .text j.compact := by
  have h := minified_chars j []
  rw [List.append_nil] at h
  simp [Placeholder.value, h, minified, compact]

end Json

end DocumentGraph
