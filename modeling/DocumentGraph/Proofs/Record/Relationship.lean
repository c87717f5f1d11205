import DocumentGraph.Graph.Relationship
import DocumentGraph.Proofs.Filter.Meaning
import DocumentGraph.Proofs.Record.Schema
set_option autoImplicit false

namespace DocumentGraph

namespace Relationship

def readBack (r : Relationship) : Relationship := { r with data := unlessNull r.data }

theorem keys_sublist (r : Relationship) : ((Record.members r).map (·.1)).Sublist
    ["id", "from", "verb", "to", "cascade", "data", "createdAt"] := by
  simp only [Record.members, List.map_append, List.map_cons, List.map_nil, textMember, timeMember]
  exact ((List.Sublist.refl ["id", "from", "verb", "to", "cascade"]).append
    (keys_memberIfSet _ _)).append (List.Sublist.refl ["createdAt"])

theorem keys_nodup (r : Relationship) : ((Record.members r).map (·.1)).Nodup :=
  (keys_sublist r).nodup (by decide)

theorem known_passes (r : Relationship) :
    ∀ m ∈ Record.members r, ∀ k,
      (Record.known (α := Relationship)).find? (fun k => k.1 = m.1) = some k →
        k.2 m.2 = .ok () := by
  intro m hm k hk
  simp only [Record.members, List.mem_append, List.mem_cons, mem_memberIfSet, List.not_mem_nil,
    or_false, or_assoc] at hm
  rcases hm with rfl | rfl | rfl | rfl | rfl | ⟨j, -, rfl⟩ | rfl
  all_goals
    cases hk
    first
    | rfl
    | simp only [timeMember, Decoder.probe, Decoder.int64_ofInt64, Cascade.decoder_toJson, Except.map]

variable (r : Relationship)

theorem lookup_members :
    Json.lookup "id" (Record.members r) = some (.string r.id) ∧
      Json.lookup "from" (Record.members r) = some (.string r.source) ∧
      Json.lookup "verb" (Record.members r) = some (.string r.verb) ∧
      Json.lookup "to" (Record.members r) = some (.string r.target) ∧
      Json.lookup "cascade" (Record.members r) = some r.cascade.toJson ∧
      Json.lookup "data" (Record.members r) = r.data ∧
      Json.lookup "createdAt" (Record.members r) = some (.number (.ofInt64 r.createdAt)) := by
  simp [Record.members, Json.lookup_append, Json.lookup, lookup_memberIfSet, textMember, timeMember]

theorem ofDocument_document : Record.ofDocument (Record.document r) = .ok r.readBack := by
  obtain ⟨ms, hms, hbuild⟩ := Record.ofDocument_document (keys_nodup r) (known_passes r)
  obtain ⟨hid, hsource, hverb, htarget, hcascade, hdata, htime⟩ := lookup_members r
  rw [← hms] at hid hsource hverb htarget hcascade hdata htime
  rw [hbuild]
  simp only [Record.build, requiredMember_of_lookup hid, requiredMember_of_lookup hsource,
    requiredMember_of_lookup hverb, requiredMember_of_lookup htarget,
    requiredMember_of_lookup hcascade, optionalMember_any hdata, requiredMember_of_lookup htime,
    Decoder.int64_ofInt64, Decoder.string, Cascade.decoder_toJson]
  rfl

theorem document_injective : Function.Injective (Record.document (α := Relationship)) := by
  intro r s h
  have hread := Record.eq_of_document ofDocument_document h
  have hdata : r.data = s.data := by
    obtain ⟨-, -, -, -, -, hr, -⟩ := lookup_members r
    obtain ⟨-, -, -, -, -, hs, -⟩ := lookup_members s
    rw [← hr, ← hs, ← Json.lookup_ofMembers (keys_nodup r), ← Json.lookup_ofMembers (keys_nodup s)]
    exact congrArg (Json.get? "data") h
  calc
    r = { r.readBack with data := r.data } := rfl
    _ = { s.readBack with data := s.data } := by rw [hread, hdata]
    _ = s := rfl

theorem wellFormed_document (h : ∀ j, r.data = some j → j.WellFormed) :
    (Record.document r).WellFormed := by
  refine Json.wellFormed_ofMembers fun m hm => ?_
  simp only [Record.members, List.mem_append, List.mem_cons, mem_memberIfSet, List.not_mem_nil,
    or_false, or_assoc] at hm
  rcases hm with rfl | rfl | rfl | rfl | rfl | ⟨j, hj, rfl⟩ | rfl
  case inr.inr.inr.inr.inr.inl => exact h j hj
  all_goals exact trivial

/-- The payload nests few enough containers for the document to be read back. -/
def IsShallow : Prop := ∀ j, r.data = some j → j.depth < readingLimit

theorem depth_document_le_iff : (Record.document r).depth ≤ readingLimit ↔ r.IsShallow := by
  have hlimit : readingLimit = readingLimit - 1 + 1 := rfl
  rw [hlimit, Record.document, Json.depth_ofMembers_le_iff (keys_nodup r)]
  constructor
  · intro h j hj
    have hmem : ("data", j) ∈ Record.members r := by
      simp [Record.members, mem_memberIfSet, hj]
    exact Nat.lt_of_le_pred (by decide) (h _ hmem)
  · intro h m hm
    simp only [Record.members, List.mem_append, List.mem_cons, mem_memberIfSet, List.not_mem_nil,
      or_false, or_assoc] at hm
    rcases hm with rfl | rfl | rfl | rfl | rfl | ⟨j, hj, rfl⟩ | rfl
    case inr.inr.inr.inr.inr.inl => exact Nat.le_pred_of_lt (h j hj)
    all_goals exact Nat.zero_le _

def links (source verb target : String) : Bool :=
  r.source = source ∧ r.verb = verb ∧ r.target = target

def touches (id : String) : Bool := r.source = id ∨ r.target = id

def isUnder (verb : Option String) : Bool := verb.all (r.verb = ·)

def leaves (source : String) (verb : Option String) : Bool := r.source = source ∧ r.isUnder verb

def enters (target : String) (verb : Option String) : Bool := r.target = target ∧ r.isUnder verb

theorem links_eq_leaves (source verb target : String) :
    r.links source verb target = (decide (r.target = target) && r.leaves source (some verb)) := by
  simp [links, leaves, isUnder, ← Bool.decide_and, and_comm, and_assoc]

theorem links_eq_enters (source verb target : String) :
    r.links source verb target = (decide (r.source = source) && r.enters target (some verb)) := by
  simp [links, enters, isUnder, ← Bool.decide_and, and_comm]

theorem holds_equals_member {key text s : String} (hpath : Field.isPath key = true)
    (hplain : Field.splitDots key.toList = [key.toList])
    (hkey : Json.lookup key (Record.members r) = some (.string s)) :
    (Filter.equals key text).holds (Record.document r) = decide (s = text) := by
  rw [Bool.eq_iff_iff, Filter.holds_equals hpath hplain, decide_eq_true_eq, Record.document,
    Json.lookup_ofMembers (keys_nodup r), hkey, Option.some_inj, Json.string.injEq]

theorem holds_from (text : String) :
    (Filter.equals "from" text).holds (Record.document r) = decide (r.source = text) :=
  r.holds_equals_member (by decide) (by decide) (lookup_members r).2.1

theorem holds_verb (text : String) :
    (Filter.equals "verb" text).holds (Record.document r) = decide (r.verb = text) :=
  r.holds_equals_member (by decide) (by decide) (lookup_members r).2.2.1

theorem holds_to (text : String) :
    (Filter.equals "to" text).holds (Record.document r) = decide (r.target = text) :=
  r.holds_equals_member (by decide) (by decide) (lookup_members r).2.2.2.1

theorem holds_between (source verb target : String) :
    (between source verb target).holds (Record.document r) = r.links source verb target := by
  rw [between, Filter.holds, Filter.holdsForAll_eq_all]
  simp [holds_from, holds_verb, holds_to, links, Bool.decide_and]

theorem holds_touching (id : String) :
    (touching id).holds (Record.document r) = r.touches id := by
  rw [touching, Filter.holds, Filter.holdsForAny_eq_any]
  simp [holds_from, holds_to, touches, Bool.decide_or]

theorem holds_withEnd_from (id : String) (verb : Option String) :
    (withEnd "from" id verb).holds (Record.document r) = r.leaves id verb := by
  rw [withEnd, Filter.holds, Filter.holdsForAll_eq_all]
  cases verb <;> simp [holds_from, holds_verb, leaves, isUnder, Bool.decide_and]

theorem holds_withEnd_to (id : String) (verb : Option String) :
    (withEnd "to" id verb).holds (Record.document r) = r.enters id verb := by
  rw [withEnd, Filter.holds, Filter.holdsForAll_eq_all]
  cases verb <;> simp [holds_to, holds_verb, enters, isUnder, Bool.decide_and]

end Relationship

end DocumentGraph
