import DocumentGraph.Proofs.Identifier.Order
set_option autoImplicit false

namespace DocumentGraph.Identifier

namespace Source

/-- The identifiers made under these names at these readings of the clock. -/
def issued (s : Source) : List (String × Int64) → List String
  | [] => []
  | (name, clock) :: rest => make name (s.next clock).1 :: (s.next clock).2.issued rest

def after (s : Source) : List (String × Int64) → Source
  | [] => s
  | (_, clock) :: rest => (s.next clock).2.after rest

variable {s : Source} {calls more : List (String × Int64)}

theorem issued_append (s : Source) (calls more : List (String × Int64)) :
    s.issued (calls ++ more) = s.issued calls ++ (s.after calls).issued more := by
  induction calls generalizing s with
  | nil => rfl
  | cons call rest ih => rw [List.cons_append, issued, issued, after, ih, List.cons_append]

theorem after_append (s : Source) (calls more : List (String × Int64)) :
    s.after (calls ++ more) = (s.after calls).after more := by
  induction calls generalizing s with
  | nil => rfl
  | cons call rest ih => rw [List.cons_append, after, after, ih]

def states (s : Source) (calls : List (String × Int64)) : List Generator :=
  s.generator.states (calls.map Prod.snd)

theorem states_cons (s : Source) (name : String) (clock : Int64) (rest : List (String × Int64)) :
    s.states ((name, clock) :: rest) =
      (s.next clock).2.generator :: (s.next clock).2.states rest := rfl

theorem state_of_mem_issued {id : String} (h : id ∈ s.issued calls) :
    ∃ name, ∃ g ∈ s.states calls, ∃ tail, id = make name (g.suffix tail) := by
  induction calls generalizing s with
  | nil => cases h
  | cons call rest ih =>
    obtain ⟨name, clock⟩ := call
    rw [states_cons]
    rcases List.mem_cons.mp h with rfl | h
    · exact ⟨name, _, List.mem_cons_self, s.tails s.drawn, rfl⟩
    · obtain ⟨name, g, hg, tail, rfl⟩ := ih h
      exact ⟨name, g, List.mem_cons_of_mem _ hg, tail, rfl⟩

theorem later_of_mem_states {g : Generator} (hs : s.generator.InRange)
    (hclocks : ∀ call ∈ calls, call.2.toInt.toNat < 36 ^ timeWidth) (hg : g ∈ s.states calls) :
    g.InRange ∧ s.generator.AtMost g ∧ ¬ g.AtMost s.generator := by
  induction calls generalizing s with
  | nil => cases hg
  | cons call rest ih =>
    obtain ⟨name, clock⟩ := call
    obtain ⟨hclock, hrest⟩ := List.forall_mem_cons.mp hclocks
    have hnext := Generator.inRange_advance hs hclock
    obtain ⟨hle, hnot⟩ := s.generator.advance_later clock
    rw [states_cons] at hg
    rcases List.mem_cons.mp hg with rfl | hg
    · exact ⟨hnext, hle, hnot⟩
    · obtain ⟨hrange, hmost, hlate⟩ := ih (s := (s.next clock).2) hnext hrest hg
      exact ⟨hrange, hle.trans hmost, fun hback => hlate (hback.trans hle)⟩

theorem nodup_issued (hs : s.generator.InRange)
    (hclocks : ∀ call ∈ calls, call.2.toInt.toNat < 36 ^ timeWidth) : (s.issued calls).Nodup := by
  induction calls generalizing s with
  | nil => exact List.nodup_nil
  | cons call rest ih =>
    obtain ⟨name, clock⟩ := call
    obtain ⟨hclock, hrest⟩ := List.forall_mem_cons.mp hclocks
    have hnext := Generator.inRange_advance hs hclock
    refine List.nodup_cons.mpr ⟨fun hmem => ?_, ih (s := (s.next clock).2) hnext hrest⟩
    -- The same identifier would have been made in the same state, but all of the rest are later.
    obtain ⟨other, g, hg, tail, heq⟩ := state_of_mem_issued hmem
    obtain ⟨hrange, -, hlate⟩ := later_of_mem_states (s := (s.next clock).2) hnext hrest hg
    have hstate := Generator.suffix_injective hnext hrange (suffix_eq_of_make_eq heq)
    exact hlate (hstate ▸ .refl _)

theorem count_le_of_mem_states {g : Generator} (hg : g ∈ s.states calls) :
    g.count ≤ s.generator.count + calls.length := by
  have hcount := s.generator.count_le (calls.map Prod.snd) g hg
  rwa [List.length_map] at hcount

end Source

end DocumentGraph.Identifier
