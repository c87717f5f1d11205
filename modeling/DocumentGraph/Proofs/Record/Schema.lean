import DocumentGraph.Graph.Schema
import DocumentGraph.Proofs.Record.Codec
import DocumentGraph.Store.Collection
set_option autoImplicit false

namespace DocumentGraph

theorem Cascade.decoder_toJson (k : Cascade) : decoder k.toJson = .ok k := by
  rw [toJson, decoder, named, ofName?_name]

theorem Decoder.list_string (texts : List String) : list string (textsJson texts) = .ok texts := by
  have heach : each string (texts.map Json.string) = .ok texts := by
    induction texts with
    | nil => rfl
    | cons t rest ih =>
      rw [List.map_cons, each, ih]
      rfl
  exact heach

theorem Decoder.optional_list_string (texts : List String) :
    optional (list string) (textsJson texts) = .ok (some texts) := by
  change (list string (textsJson texts)).map some = _
  rw [list_string]
  rfl

theorem Decoder.probe_texts (texts : List String) :
    probe (optional (list string)) (textsJson texts) = .ok () := by
  rw [probe, optional_list_string]
  rfl

namespace Noun

/-- The noun as it is read back: a schema of null is not set. -/
def readBack (n : Noun) : Noun := { n with schema := unlessNull n.schema }

theorem keys_sublist (n : Noun) : ((Record.members n).map (·.1)).Sublist
    ["name", "description", "schema", "createdAt"] := by
  simp only [Record.members, List.map_append, List.map_cons, List.map_nil, textMember, timeMember]
  refine List.Sublist.cons_cons _ ?_
  exact ((keys_memberIfSet _ _).append (keys_memberIfSet _ _)).append
    (List.Sublist.refl ["createdAt"])

theorem keys_nodup (n : Noun) : ((Record.members n).map (·.1)).Nodup :=
  (keys_sublist n).nodup (by decide)

theorem known_passes (n : Noun) :
    ∀ m ∈ Record.members n, ∀ k, (Record.known (α := Noun)).find? (fun k => k.1 = m.1) = some k →
      k.2 m.2 = .ok () := by
  intro m hm k hk
  simp only [Record.members, List.mem_append, List.mem_cons, mem_memberIfSet, List.not_mem_nil,
    or_false, or_assoc] at hm
  rcases hm with rfl | ⟨s, -, rfl⟩ | ⟨j, -, rfl⟩ | rfl
  all_goals
    cases hk
    first
    | rfl
    | simp only [timeMember, Decoder.probe, Decoder.int64_ofInt64, Except.map]

variable (n : Noun)

theorem lookup_members :
    Json.lookup "name" (Record.members n) = some (.string n.name) ∧
      Json.lookup "description" (Record.members n) = n.description.map .string ∧
      Json.lookup "schema" (Record.members n) = n.schema ∧
      Json.lookup "createdAt" (Record.members n) = some (.number (.ofInt64 n.createdAt)) := by
  simp [Record.members, Json.lookup_append, Json.lookup, lookup_memberIfSet, textMember, timeMember]

theorem ofDocument_document : Record.ofDocument (Record.document n) = .ok n.readBack := by
  obtain ⟨ms, hms, hbuild⟩ := Record.ofDocument_document (keys_nodup n) (known_passes n)
  obtain ⟨hname, hdescription, hschema, htime⟩ := lookup_members n
  rw [← hms] at hname hdescription hschema htime
  rw [hbuild]
  simp only [Record.build, requiredMember_of_lookup hname,
    optionalMember_of_lookup hdescription Decoder.optional_string, optionalMember_any hschema,
    requiredMember_of_lookup htime, Decoder.int64_ofInt64, Decoder.string]
  rfl

theorem wellFormed_document (h : ∀ j, n.schema = some j → j.WellFormed) :
    (Record.document n).WellFormed := by
  refine Json.wellFormed_ofMembers fun m hm => ?_
  simp only [Record.members, List.mem_append, List.mem_cons, mem_memberIfSet, List.not_mem_nil,
    or_false, or_assoc] at hm
  rcases hm with rfl | ⟨s, -, rfl⟩ | ⟨j, hj, rfl⟩ | rfl
  case inr.inr.inl => exact h j hj
  all_goals exact trivial

def IsShallow : Prop := ∀ j, n.schema = some j → j.depth < readingLimit

theorem depth_document_le_iff : (Record.document n).depth ≤ readingLimit ↔ n.IsShallow := by
  have hlimit : readingLimit = readingLimit - 1 + 1 := rfl
  rw [hlimit, Record.document, Json.depth_ofMembers_le_iff (keys_nodup n)]
  constructor
  · intro h j hj
    have hmem : ("schema", j) ∈ Record.members n := by
      simp [Record.members, mem_memberIfSet, hj]
    exact Nat.lt_of_le_pred (by decide) (h _ hmem)
  · intro h m hm
    simp only [Record.members, List.mem_append, List.mem_cons, mem_memberIfSet, List.not_mem_nil,
      or_false, or_assoc] at hm
    rcases hm with rfl | ⟨s, -, rfl⟩ | ⟨j, hj, rfl⟩ | rfl
    case inr.inr.inl => exact Nat.le_pred_of_lt (h j hj)
    all_goals exact Nat.zero_le _

theorem document_injective : Function.Injective (Record.document (α := Noun)) := by
  intro m n h
  have hread := Record.eq_of_document ofDocument_document h
  have hschema : m.schema = n.schema := by
    obtain ⟨-, -, hm, -⟩ := lookup_members m
    obtain ⟨-, -, hn, -⟩ := lookup_members n
    rw [← hm, ← hn, ← Json.lookup_ofMembers (keys_nodup m), ← Json.lookup_ofMembers (keys_nodup n)]
    exact congrArg (Json.get? "schema") h
  calc
    m = { m.readBack with schema := m.schema } := rfl
    _ = { n.readBack with schema := n.schema } := by rw [hread, hschema]
    _ = n := rfl

end Noun

namespace Verb

theorem keys_sublist (v : Verb) : ((Record.members v).map (·.1)).Sublist
    ["name", "description", "cascade", "fromTypes", "toTypes"] := by
  simp only [Record.members, List.map_append, List.map_cons, textMember]
  refine List.Sublist.cons_cons _ ?_
  have hcascade (v : Verb) :
      ("cascade" :: (memberIfSet "fromTypes" textsJson v.fromTypes).map (·.1)).Sublist
        ["cascade", "fromTypes"] :=
    List.Sublist.cons_cons _ (keys_memberIfSet _ _)
  exact ((keys_memberIfSet _ _).append (hcascade v)).append (keys_memberIfSet _ _)

theorem keys_nodup (v : Verb) : ((Record.members v).map (·.1)).Nodup :=
  (keys_sublist v).nodup (by decide)

theorem known_passes (v : Verb) :
    ∀ m ∈ Record.members v, ∀ k, (Record.known (α := Verb)).find? (fun k => k.1 = m.1) = some k →
      k.2 m.2 = .ok () := by
  intro m hm k hk
  simp only [Record.members, List.mem_append, List.mem_cons, mem_memberIfSet, or_assoc] at hm
  rcases hm with rfl | ⟨s, -, rfl⟩ | rfl | ⟨s, -, rfl⟩ | ⟨s, -, rfl⟩
  all_goals
    cases hk
    first
    | rfl
    | exact Decoder.probe_texts s
    | simp only [Decoder.probe, Cascade.decoder_toJson, Except.map]

variable (v : Verb)

theorem lookup_members :
    Json.lookup "name" (Record.members v) = some (.string v.name) ∧
      Json.lookup "description" (Record.members v) = v.description.map .string ∧
      Json.lookup "cascade" (Record.members v) = some v.cascade.toJson ∧
      Json.lookup "fromTypes" (Record.members v) = v.fromTypes.map textsJson ∧
      Json.lookup "toTypes" (Record.members v) = v.toTypes.map textsJson := by
  simp [Record.members, Json.lookup_append, Json.lookup, lookup_memberIfSet, textMember]

theorem ofDocument_document : Record.ofDocument (Record.document v) = .ok v := by
  obtain ⟨ms, hms, hbuild⟩ := Record.ofDocument_document (keys_nodup v) (known_passes v)
  obtain ⟨hname, hdescription, hcascade, hfrom, hto⟩ := lookup_members v
  rw [← hms] at hname hdescription hcascade hfrom hto
  rw [hbuild]
  simp only [Record.build, requiredMember_of_lookup hname,
    optionalMember_of_lookup hdescription Decoder.optional_string, cascadeOrDirect, hcascade,
    Cascade.decoder_toJson, optionalMember_of_lookup hfrom Decoder.optional_list_string,
    optionalMember_of_lookup hto Decoder.optional_list_string, Decoder.string]
  rfl

theorem wellFormed_texts (texts : List String) : (textsJson texts).WellFormed := by
  change Json.ItemsWellFormed (texts.map Json.string)
  induction texts with
  | nil => trivial
  | cons t rest ih => exact ⟨trivial, ih⟩

theorem depth_texts_le (texts : List String) : (textsJson texts).depth ≤ 1 := by
  change Json.itemsDepth (texts.map Json.string) + 1 ≤ 1
  induction texts with
  | nil => exact Nat.le_refl _
  | cons t rest ih =>
    have hdepth : (Json.string t).depth = 0 := rfl
    rw [List.map_cons, Json.itemsDepth, hdepth, Nat.zero_max]
    exact ih

theorem wellFormed_document : (Record.document v).WellFormed := by
  refine Json.wellFormed_ofMembers fun m hm => ?_
  simp only [Record.members, List.mem_append, List.mem_cons, mem_memberIfSet, or_assoc] at hm
  rcases hm with rfl | ⟨s, -, rfl⟩ | rfl | ⟨s, -, rfl⟩ | ⟨s, -, rfl⟩
  case inr.inr.inr.inl => exact wellFormed_texts s
  case inr.inr.inr.inr => exact wellFormed_texts s
  all_goals exact trivial

theorem depth_document_le : (Record.document v).depth ≤ readingLimit := by
  have hlimit : 1 + 1 ≤ readingLimit := by decide
  refine Nat.le_trans (Json.depth_ofMembers_le fun m hm => ?_) hlimit
  simp only [Record.members, List.mem_append, List.mem_cons, mem_memberIfSet, or_assoc] at hm
  rcases hm with rfl | ⟨s, -, rfl⟩ | rfl | ⟨s, -, rfl⟩ | ⟨s, -, rfl⟩
  case inr.inr.inr.inl => exact depth_texts_le s
  case inr.inr.inr.inr => exact depth_texts_le s
  all_goals exact Nat.zero_le _

end Verb

end DocumentGraph
