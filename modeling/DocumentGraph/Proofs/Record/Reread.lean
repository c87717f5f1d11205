import DocumentGraph.Proofs.Record.Description
import DocumentGraph.Proofs.Store.Legible
set_option autoImplicit false

namespace DocumentGraph

theorem payload_of_read {ms : List (String × Json)} {key : String} {o : Option Json} {j : Json}
    (h : unlessNull (Json.lookup key ms) = o) (hj : o = some j) : Json.lookup key ms = some j := by
  subst h
  exact (Option.filter_eq_some_iff.mp hj).1

theorem Json.legible_of_lookup {ms : List (String × Json)} {key : String} {j : Json}
    (hms : (Json.object ms).Legible) (h : Json.lookup key ms = some j) :
    j.WellFormed ∧ j.depth < readingLimit := by
  have hmem := Json.mem_of_lookup h
  refine ⟨Json.membersWellFormed_iff.mp hms.1.2 _ hmem, ?_⟩
  exact Nat.lt_of_le_of_lt (Json.membersDepth_le_iff.mp (Nat.le_refl _) _ hmem) hms.2

/-- A record type whose documents are read back, from what they were read as well. -/
class Codec (α : Type) [Record α] extends Described α where
  readBack : α → α
  ofDocument_document : ∀ r : α, Record.ofDocument (Record.document r) = .ok (readBack r)
  readBack_of_read : ∀ {ms : List (String × Json)} {r : α}, IsReadFrom ms r → readBack r = r
  legible : ∀ {ms : List (String × Json)} {r : α}, IsReadFrom ms r → (Json.object ms).Legible →
    (Record.document r).Legible

instance : Codec Noun where
  readBack := Noun.readBack
  ofDocument_document := Noun.ofDocument_document
  readBack_of_read := by
    intro ms n h
    rw [Noun.readBack, ← h.schema, unlessNull_unlessNull, h.schema]
  legible := by
    intro ms n h hms
    have hschema (j : Json) (hj : n.schema = some j) := Json.legible_of_lookup hms
      (payload_of_read h.schema hj)
    exact ⟨n.wellFormed_document fun j hj => (hschema j hj).1,
      n.depth_document_le_iff.mpr fun j hj => (hschema j hj).2⟩

instance : Codec Verb where
  readBack v := v
  ofDocument_document := Verb.ofDocument_document
  readBack_of_read _ := rfl
  legible _ _ := ⟨Verb.wellFormed_document _, Verb.depth_document_le _⟩

instance : Codec Thing where
  readBack t := t
  ofDocument_document := Thing.ofDocument_document
  readBack_of_read _ := rfl
  legible := by
    intro ms t h hms
    obtain ⟨hwf, hdepth⟩ := Json.legible_of_lookup hms h.data
    exact ⟨t.wellFormed_document hwf, t.depth_document_le_iff.mpr hdepth⟩

instance : Codec Action where
  readBack := Action.readBack
  ofDocument_document := Action.ofDocument_document
  readBack_of_read := by
    intro ms a h
    rw [Action.readBack, ActionEntry.readBack, ← h.data, unlessNull_unlessNull, h.data]
  legible := by
    intro ms a h hms
    have hdata (j : Json) (hj : a.data = some j) := Json.legible_of_lookup hms
      (payload_of_read h.data hj)
    have hlimit : readingLimit = readingLimit - 1 + 1 := rfl
    refine ⟨a.wellFormed_document fun j hj => (hdata j hj).1, ?_⟩
    rw [hlimit]
    exact a.depth_document_le fun j hj => Nat.le_pred_of_lt (hdata j hj).2

instance : Codec Relationship where
  readBack := Relationship.readBack
  ofDocument_document := Relationship.ofDocument_document
  readBack_of_read := by
    intro ms r h
    rw [Relationship.readBack, ← h.data, unlessNull_unlessNull, h.data]
  legible := by
    intro ms r h hms
    have hdata (j : Json) (hj : r.data = some j) := Json.legible_of_lookup hms
      (payload_of_read h.data hj)
    exact ⟨r.wellFormed_document fun j hj => (hdata j hj).1,
      r.depth_document_le_iff.mpr fun j hj => (hdata j hj).2⟩

instance : Codec Note where
  readBack n := n
  ofDocument_document := Note.ofDocument_document
  readBack_of_read _ := rfl
  legible _ _ := ⟨Note.wellFormed_document _, Note.depth_document_le _⟩

end DocumentGraph
