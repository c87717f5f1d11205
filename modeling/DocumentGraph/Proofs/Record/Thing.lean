import DocumentGraph.Graph.Thing
import DocumentGraph.Proofs.Record.Codec
set_option autoImplicit false

namespace DocumentGraph.Thing

theorem keys_nodup (t : Thing) : ((Record.members t).map (·.1)).Nodup := by
  change ["id", "type", "data", "version", "createdAt", "updatedAt"].Nodup
  decide

theorem known_passes (t : Thing) :
    ∀ m ∈ Record.members t, ∀ k,
      (Record.known (α := Thing)).find? (fun k => k.1 = m.1) = some k →
        k.2 m.2 = .ok () := by
  intro m hm k hk
  simp only [Record.members, List.mem_cons, List.not_mem_nil, or_false] at hm
  rcases hm with rfl | rfl | rfl | rfl | rfl | rfl
  all_goals
    cases hk
    first
    | rfl
    | simp only [timeMember, Decoder.probe, Decoder.int64_ofInt64, Except.map]

variable (t : Thing)

theorem lookup_members :
    Json.lookup "id" (Record.members t) = some (.string t.id) ∧
      Json.lookup "type" (Record.members t) = some (.string t.type) ∧
      Json.lookup "data" (Record.members t) = some (.object t.data) ∧
      Json.lookup "version" (Record.members t) = some (.number (.ofUInt64 t.version)) ∧
      Json.lookup "createdAt" (Record.members t) = some (.number (.ofInt64 t.createdAt)) ∧
      Json.lookup "updatedAt" (Record.members t) = some (.number (.ofInt64 t.updatedAt)) := by
  simp [Record.members, Json.lookup, textMember, timeMember]

theorem ofDocument_document : Record.ofDocument (Record.document t) = .ok t := by
  obtain ⟨ms, hms, hbuild⟩ := Record.ofDocument_document (keys_nodup t) (known_passes t)
  obtain ⟨hid, htype, hdata, hversion, hcreated, hupdated⟩ := lookup_members t
  rw [← hms] at hid htype hdata hversion hcreated hupdated
  rw [hbuild]
  simp only [Record.build, requiredMember_of_lookup hid, requiredMember_of_lookup htype,
    requiredMember_of_lookup hdata, requiredMember_of_lookup hversion,
    requiredMember_of_lookup hcreated, requiredMember_of_lookup hupdated, Decoder.string,
    Decoder.members, Decoder.uint64_ofUInt64, Decoder.int64_ofInt64]
  rfl

theorem members_of_ofDocument {j : Json} {t : Thing} (h : Record.ofDocument j = .ok t) :
    j.get? "type" = some (.string t.type) ∧ j.get? "data" = some (.object t.data) := by
  obtain ⟨ms, rfl, hbuild⟩ := Record.ok_of_ofDocument h
  simp only [Record.build] at hbuild
  obtain ⟨-, id, -, -, hbuild⟩ := ok_of_requiredMember hbuild
  obtain ⟨type, text, htype, htext, hbuild⟩ := ok_of_requiredMember hbuild
  obtain ⟨data, members, hdata, hmembers, hbuild⟩ := ok_of_requiredMember hbuild
  obtain ⟨-, version, -, -, hbuild⟩ := ok_of_requiredMember hbuild
  obtain ⟨-, createdAt, -, -, hbuild⟩ := ok_of_requiredMember hbuild
  obtain ⟨-, updatedAt, -, -, hbuild⟩ := ok_of_requiredMember hbuild
  cases hbuild
  exact ⟨Decoder.string_eq_ok.mp htext ▸ htype, Decoder.members_eq_ok.mp hmembers ▸ hdata⟩

theorem wellFormed_document (h : (Json.object t.data).WellFormed) :
    (Record.document t).WellFormed := by
  refine Json.wellFormed_ofMembers fun m hm => ?_
  simp only [Record.members, List.mem_cons, List.not_mem_nil, or_false] at hm
  rcases hm with rfl | rfl | rfl | rfl | rfl | rfl
  case inr.inr.inl => exact h
  all_goals exact trivial

def IsShallow : Prop := (Json.object t.data).depth < readingLimit

theorem depth_document_le_iff : (Record.document t).depth ≤ readingLimit ↔ t.IsShallow := by
  have hlimit : readingLimit = readingLimit - 1 + 1 := rfl
  rw [hlimit, Record.document, Json.depth_ofMembers_le_iff (keys_nodup t)]
  constructor
  · intro h
    have hmem : ("data", Json.object t.data) ∈ Record.members t := by simp [Record.members]
    exact Nat.lt_of_le_pred (by decide) (h _ hmem)
  · intro h m hm
    simp only [Record.members, List.mem_cons, List.not_mem_nil, or_false] at hm
    rcases hm with rfl | rfl | rfl | rfl | rfl | rfl
    case inr.inr.inl => exact Nat.le_pred_of_lt h
    all_goals exact Nat.zero_le _

theorem updatedAt_le_changed (changes : List (String × Json)) (now : Int64) :
    t.updatedAt ≤ (t.changed changes now).updatedAt := by
  change t.updatedAt ≤ if now ≤ t.updatedAt then t.updatedAt else now
  split
  · exact Int64.le_refl _
  · next h => exact (Int64.le_total now t.updatedAt).resolve_left h

theorem version_changed {changes : List (String × Json)} {now : Int64}
    (h : t.version.toNat + 1 < UInt64.size) :
    (t.changed changes now).version.toNat = t.version.toNat + 1 := by
  change (t.version + 1).toNat = _
  rw [UInt64.toNat_add, UInt64.toNat_one]
  exact Nat.mod_eq_of_lt h

theorem lookup_changed {changes : List (String × Json)} (h : (changes.map (·.1)).Nodup)
    (now : Int64) (key : String) :
    Json.lookup key (t.changed changes now).data =
      (Json.lookup key changes).or (Json.lookup key t.data) :=
  Json.lookup_mergeMembers key t.data changes h

theorem wellFormed_changed {changes : List (String × Json)} (now : Int64)
    (ht : (Json.object t.data).WellFormed) (h : (Json.object changes).WellFormed) :
    (Json.object (t.changed changes now).data).WellFormed := by
  refine ⟨Json.ascending_mergeMembers ht.1, Json.membersWellFormed_iff.mpr fun m hm => ?_⟩
  rcases Json.mem_mergeMembers hm with hm | hm
  · exact Json.membersWellFormed_iff.mp h.2 m hm
  · exact Json.membersWellFormed_iff.mp ht.2 m hm

end DocumentGraph.Thing
