import DocumentGraph.Json.Basic
set_option autoImplicit false

namespace DocumentGraph.Json

variable {key : String} {value : Json} {members changes : List (String × Json)}

theorem mem_insertMember {m : String × Json} (h : m ∈ insertMember key value members) :
    m = (key, value) ∨ m ∈ members := by
  induction members with
  | nil => exact .inl (List.mem_singleton.mp h)
  | cons n rest ih =>
    obtain ⟨k, v⟩ := n
    unfold insertMember at h
    split at h
    · rcases List.mem_cons.mp h with h | h
      · exact .inl h
      · exact .inr (List.mem_cons_of_mem _ h)
    · split at h
      · rcases List.mem_cons.mp h with h | h
        · exact .inl h
        · exact .inr h
      · rcases List.mem_cons.mp h with h | h
        · exact .inr (h ▸ List.mem_cons_self)
        · exact (ih h).imp_right (List.mem_cons_of_mem _)

theorem mem_mergeMembers {m : String × Json} (h : m ∈ mergeMembers members changes) :
    m ∈ changes ∨ m ∈ members := by
  induction changes generalizing members with
  | nil => exact .inr h
  | cons n rest ih =>
    rcases ih h with h | h
    · exact .inl (List.mem_cons_of_mem _ h)
    · rcases mem_insertMember h with h | h
      · exact .inl (h ▸ List.mem_cons_self)
      · exact .inr h

theorem ascending_cons {k : String} {v : Json} :
    Ascending ((k, v) :: members) ↔ (∀ m ∈ members, k < m.1) ∧ Ascending members := by
  simp [Ascending, List.pairwise_cons]

theorem ascending_insertMember (h : Ascending members) : Ascending (insertMember key value members) := by
  induction members with
  | nil => exact List.pairwise_singleton _ _
  | cons m rest ih =>
    obtain ⟨k, v⟩ := m
    obtain ⟨hk, hrest⟩ := ascending_cons.mp h
    unfold insertMember
    split
    · next he =>
      subst he
      exact ascending_cons.mpr ⟨hk, hrest⟩
    · next hne =>
      split
      · next hlt =>
        refine ascending_cons.mpr ⟨fun m hm => ?_, h⟩
        rcases List.mem_cons.mp hm with rfl | hm
        · exact hlt
        · exact String.lt_trans hlt (hk m hm)
      · next hnlt =>
        refine ascending_cons.mpr ⟨fun m hm => ?_, ih hrest⟩
        rcases mem_insertMember hm with rfl | hm
        · exact Std.lt_of_le_of_ne (String.not_lt.mp hnlt) (Ne.symm hne)
        · exact hk m hm

theorem ascending_mergeMembers (h : Ascending members) : Ascending (mergeMembers members changes) := by
  induction changes generalizing members with
  | nil => exact h
  | cons m rest ih => exact ih (ascending_insertMember h)

theorem membersWellFormed_iff : MembersWellFormed members ↔ ∀ m ∈ members, m.2.WellFormed := by
  induction members with
  | nil => simp [MembersWellFormed]
  | cons m rest ih => simp [MembersWellFormed, ih]

theorem wellFormed_ofMembers (h : ∀ m ∈ members, m.2.WellFormed) : (ofMembers members).WellFormed := by
  refine ⟨ascending_mergeMembers .nil, membersWellFormed_iff.mpr fun m hm => ?_⟩
  rcases mem_mergeMembers hm with hm | hm
  · exact h m hm
  · cases hm

theorem membersDepth_le_iff {limit : Nat} :
    membersDepth members ≤ limit ↔ ∀ m ∈ members, m.2.depth ≤ limit := by
  induction members with
  | nil => simp [membersDepth]
  | cons m rest ih =>
    obtain ⟨k, v⟩ := m
    rw [membersDepth, Nat.max_le, ih, List.forall_mem_cons]

theorem depth_ofMembers_le {limit : Nat} (h : ∀ m ∈ members, m.2.depth ≤ limit) :
    (ofMembers members).depth ≤ limit + 1 := by
  refine Nat.succ_le_succ (membersDepth_le_iff.mpr fun m hm => ?_)
  rcases mem_mergeMembers hm with hm | hm
  · exact h m hm
  · cases hm

theorem lookup_append (key : String) (ms ns : List (String × Json)) :
    lookup key (ms ++ ns) = (lookup key ms).or (lookup key ns) := by
  induction ms with
  | nil => rfl
  | cons m rest ih =>
    obtain ⟨k, v⟩ := m
    by_cases h : key = k
    · simp [lookup, h]
    · simp [lookup, h, ih]

theorem lookup_eq_none (h : ∀ m ∈ members, m.1 ≠ key) : lookup key members = none := by
  induction members with
  | nil => rfl
  | cons m rest ih =>
    obtain ⟨k, v⟩ := m
    have hk : key ≠ k := fun e => h (k, v) List.mem_cons_self e.symm
    rw [lookup, if_neg hk, ih fun m hm => h m (List.mem_cons_of_mem _ hm)]

theorem lookup_mergeMembers (key : String) (members changes : List (String × Json))
    (h : (changes.map (·.1)).Nodup) :
    lookup key (mergeMembers members changes) =
      (lookup key changes).or (lookup key members) := by
  induction changes generalizing members with
  | nil => rfl
  | cons m rest ih =>
    obtain ⟨k, v⟩ := m
    rw [List.map_cons, List.nodup_cons] at h
    change lookup key (mergeMembers (insertMember k v members) rest) = _
    rw [ih _ h.2]
    by_cases hk : key = k
    · subst hk
      have hnone : lookup key rest = none :=
        lookup_eq_none fun m hm e => h.1 (List.mem_map.mpr ⟨m, hm, e⟩)
      rw [hnone, lookup_insertMember_self, lookup, if_pos rfl]
      rfl
    · rw [lookup_insertMember_of_ne hk, lookup, if_neg hk]

theorem lookup_ofMembers (h : (members.map (·.1)).Nodup) :
    (ofMembers members).get? key = lookup key members := by
  change lookup key (mergeMembers [] members) = _
  rw [lookup_mergeMembers key [] members h, lookup_nil, Option.or_none]

theorem mem_of_lookup (h : lookup key members = some value) : (key, value) ∈ members := by
  induction members with
  | nil => cases h
  | cons m rest ih =>
    obtain ⟨k, v⟩ := m
    rw [lookup] at h
    split at h
    · next hk =>
      cases h
      exact hk ▸ List.mem_cons_self
    · exact List.mem_cons_of_mem _ (ih h)

theorem wellFormed_of_get? {j : Json} (hj : j.WellFormed) (h : j.get? key = some value) :
    value.WellFormed := by
  cases j with
  | object ms => exact membersWellFormed_iff.mp hj.2 _ (mem_of_lookup h)
  | _ => cases h

theorem lookup_of_mem (h : (members.map (·.1)).Nodup) (hm : (key, value) ∈ members) :
    lookup key members = some value := by
  induction members with
  | nil => cases hm
  | cons m rest ih =>
    obtain ⟨k, v⟩ := m
    rw [List.map_cons, List.nodup_cons] at h
    rcases List.mem_cons.mp hm with he | hrest
    · cases he
      rw [lookup, if_pos rfl]
    · have hk : key ≠ k := by
        rintro rfl
        exact h.1 (List.mem_map.mpr ⟨_, hrest, rfl⟩)
      rw [lookup, if_neg hk, ih h.2 hrest]

/-- If no key is repeated, an object is as deep as its deepest member needs. -/
theorem depth_ofMembers_le_iff {limit : Nat} (h : (members.map (·.1)).Nodup) :
    (ofMembers members).depth ≤ limit + 1 ↔ ∀ m ∈ members, m.2.depth ≤ limit := by
  refine ⟨fun hdepth m hm => ?_, depth_ofMembers_le⟩
  have hmerged : lookup m.1 (mergeMembers [] members) = some m.2 :=
    (lookup_ofMembers h).trans (lookup_of_mem h hm)
  exact membersDepth_le_iff.mp (Nat.le_of_succ_le_succ hdepth) _ (mem_of_lookup hmerged)

end DocumentGraph.Json
