import DocumentGraph.Graph.Action
import DocumentGraph.Proofs.Filter.Meaning
import DocumentGraph.Proofs.Record.Codec
set_option autoImplicit false

namespace DocumentGraph

/-- The entry as it is read back: a payload of null is not set. -/
def ActionEntry.readBack (e : ActionEntry) : ActionEntry := { e with data := unlessNull e.data }

namespace Action

def readBack (a : Action) : Action := { a with toActionEntry := a.toActionEntry.readBack }

theorem keys_sublist (a : Action) : ((Record.members a).map (·.1)).Sublist
    ["id", "verb", "from", "to", "data", "by", "at"] := by
  simp only [Record.members, List.map_append, List.map_cons, List.map_nil, textMember, timeMember]
  refine List.Sublist.cons_cons _ (List.Sublist.cons_cons _ ?_)
  exact ((((keys_memberIfSet _ _).append (keys_memberIfSet _ _)).append (keys_memberIfSet _ _)).append
    (keys_memberIfSet _ _)).append (List.Sublist.refl ["at"])

theorem keys_nodup (a : Action) : ((Record.members a).map (·.1)).Nodup :=
  (keys_sublist a).nodup (by decide)

theorem known_passes (a : Action) :
    ∀ m ∈ Record.members a, ∀ k, (Record.known (α := Action)).find? (fun k => k.1 = m.1) = some k →
      k.2 m.2 = .ok () := by
  intro m hm k hk
  simp only [Record.members, List.mem_append, List.mem_cons, mem_memberIfSet, List.not_mem_nil,
    or_false, or_assoc] at hm
  rcases hm with rfl | rfl | ⟨s, -, rfl⟩ | ⟨s, -, rfl⟩ | ⟨j, -, rfl⟩ | ⟨s, -, rfl⟩ | rfl
  all_goals
    cases hk
    first
    | rfl
    | simp only [timeMember, Decoder.probe, Decoder.int64_ofInt64, Except.map]

variable (a : Action)

theorem lookup_members :
    Json.lookup "id" (Record.members a) = some (.string a.id) ∧
      Json.lookup "verb" (Record.members a) = some (.string a.verb) ∧
      Json.lookup "from" (Record.members a) = a.source.map .string ∧
      Json.lookup "to" (Record.members a) = a.target.map .string ∧
      Json.lookup "data" (Record.members a) = a.data ∧
      Json.lookup "by" (Record.members a) = a.actor.map .string ∧
      Json.lookup "at" (Record.members a) = some (.number (.ofInt64 a.time)) := by
  simp [Record.members, Json.lookup_append, Json.lookup, lookup_memberIfSet, textMember, timeMember]

theorem ofDocument_document : Record.ofDocument (Record.document a) = .ok a.readBack := by
  obtain ⟨ms, hms, hbuild⟩ := Record.ofDocument_document (keys_nodup a) (known_passes a)
  obtain ⟨hid, hverb, hsource, htarget, hdata, hactor, htime⟩ := lookup_members a
  rw [← hms] at hid hverb hsource htarget hdata hactor htime
  rw [hbuild]
  simp only [Record.build, requiredMember_of_lookup hid, requiredMember_of_lookup hverb,
    optionalMember_of_lookup hsource Decoder.optional_string,
    optionalMember_of_lookup htarget Decoder.optional_string, optionalMember_any hdata,
    optionalMember_of_lookup hactor Decoder.optional_string, requiredMember_of_lookup htime,
    Decoder.int64_ofInt64, Decoder.string]
  rfl

/-- Even a payload of null is told apart from none. -/
theorem document_injective : Function.Injective (Record.document (α := Action)) := by
  intro a b h
  have hread := Record.eq_of_document ofDocument_document h
  have hdata : a.data = b.data := by
    obtain ⟨-, -, -, -, ha, -⟩ := lookup_members a
    obtain ⟨-, -, -, -, hb, -⟩ := lookup_members b
    rw [← ha, ← hb, ← Json.lookup_ofMembers (keys_nodup a), ← Json.lookup_ofMembers (keys_nodup b)]
    exact congrArg (Json.get? "data") h
  calc
    a = { a.readBack with data := a.data } := rfl
    _ = { b.readBack with data := b.data } := by rw [hread, hdata]
    _ = b := rfl

theorem wellFormed_document (h : ∀ j, a.data = some j → j.WellFormed) :
    (Record.document a).WellFormed := by
  refine Json.wellFormed_ofMembers fun m hm => ?_
  simp only [Record.members, List.mem_append, List.mem_cons, mem_memberIfSet, List.not_mem_nil,
    or_false, or_assoc] at hm
  rcases hm with rfl | rfl | ⟨s, -, rfl⟩ | ⟨s, -, rfl⟩ | ⟨j, hj, rfl⟩ | ⟨s, -, rfl⟩ | rfl
  case inr.inr.inr.inr.inl => exact h j hj
  all_goals exact trivial

theorem depth_document_le {limit : Nat} (h : ∀ j, a.data = some j → j.depth ≤ limit) :
    (Record.document a).depth ≤ limit + 1 := by
  refine Json.depth_ofMembers_le fun m hm => ?_
  simp only [Record.members, List.mem_append, List.mem_cons, mem_memberIfSet, List.not_mem_nil,
    or_false, or_assoc] at hm
  rcases hm with rfl | rfl | ⟨s, -, rfl⟩ | ⟨s, -, rfl⟩ | ⟨j, hj, rfl⟩ | ⟨s, -, rfl⟩ | rfl
  case inr.inr.inr.inr.inl => exact h j hj
  all_goals exact Nat.zero_le _

def concerns (id : String) (a : Action) : Bool := a.source = some id ∨ a.target = some id

theorem holds_concerning (id : String) :
    (concerning id).holds (Record.document a) = a.concerns id := by
  obtain ⟨-, -, hsource, htarget, -⟩ := lookup_members a
  have hget (key : String) :
      (Record.document a).get? key = Json.lookup key (Record.members a) :=
    Json.lookup_ofMembers (keys_nodup a)
  have htext (o : Option String) : o.map Json.string = some (.string id) ↔ o = some id := by
    cases o <;> simp
  rw [Bool.eq_iff_iff, concerning, Filter.holds, Filter.holdsForAny_eq_any]
  simp only [List.isEmpty_cons, Bool.false_or, List.any_cons, List.any_nil, Bool.or_false,
    Bool.or_eq_true]
  rw [Filter.holds_equals (by decide) (by decide), Filter.holds_equals (by decide) (by decide),
    hget, hget, hsource, htarget, htext, htext, concerns, decide_eq_true_eq]

end Action

end DocumentGraph
