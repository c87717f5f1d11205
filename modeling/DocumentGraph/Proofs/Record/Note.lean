import DocumentGraph.Proofs.Record.Decoding
import DocumentGraph.Proofs.Record.Schema
import DocumentGraph.Store.Note
set_option autoImplicit false

namespace DocumentGraph.Note

theorem keys_sublist (n : Note) : ((Record.members n).map (·.1)).Sublist
    ["id", "body", "stars", "tags"] := by
  simp only [Record.members, List.map_append, List.map_cons, List.map_nil, textMember]
  exact (List.Sublist.refl ["id", "body", "stars"]).append (keys_memberIfSet _ _)

theorem keys_nodup (n : Note) : ((Record.members n).map (·.1)).Nodup :=
  (keys_sublist n).nodup (by decide)

theorem known_passes (n : Note) :
    ∀ m ∈ Record.members n, ∀ k, (Record.known (α := Note)).find? (fun k => k.1 = m.1) = some k →
      k.2 m.2 = .ok () := by
  intro m hm k hk
  simp only [Record.members, List.mem_append, List.mem_cons, mem_memberIfSet, List.not_mem_nil,
    or_false, or_assoc] at hm
  rcases hm with rfl | rfl | rfl | ⟨s, -, rfl⟩
  all_goals cases hk
  case inr.inr.inl =>
    dsimp only
    exact Decoder.probe_of_ok (Decoder.uint32_ofUInt32 n.stars)
  case inr.inr.inr => exact Decoder.probe_texts s
  all_goals rfl

variable (n : Note)

theorem lookup_members :
    Json.lookup "id" (Record.members n) = some (.string n.id) ∧
      Json.lookup "body" (Record.members n) = some (.string n.body) ∧
      Json.lookup "stars" (Record.members n) = some (.number (.ofUInt32 n.stars)) ∧
      Json.lookup "tags" (Record.members n) = n.tags.map textsJson := by
  simp [Record.members, Json.lookup, lookup_memberIfSet, textMember]

theorem ofDocument_document : Record.ofDocument (Record.document n) = .ok n := by
  obtain ⟨ms, hms, hbuild⟩ := Record.ofDocument_document (keys_nodup n) (known_passes n)
  obtain ⟨hid, hbody, hstars, htags⟩ := lookup_members n
  rw [← hms] at hid hbody hstars htags
  rw [hbuild]
  simp only [Record.build, requiredMember_of_lookup hid, requiredMember_of_lookup hbody,
    requiredMember_of_lookup hstars, Decoder.string, Decoder.uint32_ofUInt32,
    optionalMember_of_lookup htags Decoder.optional_list_string]
  rfl

theorem wellFormed_document : (Record.document n).WellFormed := by
  refine Json.wellFormed_ofMembers fun m hm => ?_
  simp only [Record.members, List.mem_append, List.mem_cons, mem_memberIfSet, List.not_mem_nil,
    or_false, or_assoc] at hm
  rcases hm with rfl | rfl | rfl | ⟨s, -, rfl⟩
  case inr.inr.inr => exact Verb.wellFormed_texts s
  all_goals exact trivial

theorem depth_document_le : (Record.document n).depth ≤ readingLimit := by
  have hlimit : 1 + 1 ≤ readingLimit := by decide
  refine Nat.le_trans (Json.depth_ofMembers_le fun m hm => ?_) hlimit
  simp only [Record.members, List.mem_append, List.mem_cons, mem_memberIfSet, List.not_mem_nil,
    or_false, or_assoc] at hm
  rcases hm with rfl | rfl | rfl | ⟨s, -, rfl⟩
  case inr.inr.inr => exact Verb.depth_texts_le s
  all_goals exact Nat.zero_le _

end DocumentGraph.Note
