import DocumentGraph.Text.Quoted
set_option autoImplicit false

namespace DocumentGraph

def SingleLine (s : String) : Prop := '\n' ∉ s.toList

instance (s : String) : Decidable (SingleLine s) := inferInstanceAs (Decidable ('\n' ∉ s.toList))

variable {s t : String}

namespace SingleLine

theorem append (hs : SingleLine s) (ht : SingleLine t) : SingleLine (s ++ t) := by
  rw [SingleLine, String.toList_append, List.mem_append]
  exact not_or.mpr ⟨hs, ht⟩

theorem join {texts : List String} (h : ∀ s ∈ texts, SingleLine s) :
    SingleLine (String.join texts) := by
  induction texts with
  | nil => exact List.not_mem_nil
  | cons s rest ih =>
    obtain ⟨hs, hrest⟩ := List.forall_mem_cons.mp h
    rw [String.join_cons]
    exact hs.append (ih hrest)

theorem intercalate {texts : List String} (hs : SingleLine s) (h : ∀ t ∈ texts, SingleLine t) :
    SingleLine (s.intercalate texts) := by
  induction texts with
  | nil => exact List.not_mem_nil
  | cons t rest ih =>
    obtain ⟨ht, hrest⟩ := List.forall_mem_cons.mp h
    cases rest with
    | nil =>
      rw [String.intercalate_singleton]
      exact ht
    | cons u rest =>
      rw [String.intercalate_cons_cons]
      exact (ht.append hs).append (ih hrest)

end SingleLine

@[simp] theorem singleLine_repr (n : Nat) : SingleLine n.repr := by
  intro h
  rw [Nat.toList_repr] at h
  have hdigit := Nat.isDigit_of_mem_toDigits (by decide) (by decide) h
  cases hdigit

namespace Quoted

theorem lineFeed_not_mem_hexChars (n : Nat) : '\n' ∉ hexChars n := by
  rw [hexChars]
  split
  · decide
  · intro h
    obtain ⟨d, hd, hc⟩ := List.mem_map.mp h
    have hlt : d < 16 := Positional.digits_lt (by decide) n d hd
    have hall : ∀ d < 16, hexDigitChar d ≠ '\n' := by decide
    exact hall d hlt hc

-- A line feed is the one character of its own that `escape` could leave, and it is caught before.
theorem lineFeed_not_mem_escape (c : Char) : '\n' ∉ escape c := by
  have hhex := lineFeed_not_mem_hexChars c.toNat
  by_cases hc : c.toNat = 10
  · rw [show c = '\n' from Char.toNat_inj.mp hc]
    decide
  · have hne : '\n' ≠ c := fun h => hc (h ▸ rfl)
    unfold escape
    repeat' split
    all_goals simp_all

end Quoted

@[simp] theorem singleLine_quoted (s : String) : SingleLine (quoted s) := by
  rw [SingleLine, quoted, String.toList_ofList, Quoted.encode]
  simp [Quoted.lineFeed_not_mem_escape]

end DocumentGraph
