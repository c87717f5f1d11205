import DocumentGraph.Proofs.Json.RoundTrip
import DocumentGraph.Proofs.Store.Collection
set_option autoImplicit false

/-!
# Documents that can be read back

A document is stored as text. It can be read back if the keys of its objects ascend and it nests no
deeper than reading goes; then a row gives the document that was put.
-/

namespace DocumentGraph

def Entry.document (e : Entry) : Document := ⟨e.id, e.data, e.createdAt, e.updatedAt⟩

/-- The document can be read back from its text. -/
def Json.Legible (doc : Json) : Prop := doc.WellFormed ∧ doc.depth ≤ readingLimit

namespace Json

def nested : Nat → Json
  | 0 => .null
  | n + 1 => .array [nested n]

theorem depth_nested (n : Nat) : (nested n).depth = n := by
  induction n with
  | zero => rfl
  | succ n ih => exact congrArg (· + 1) ((Nat.max_zero _).trans ih)

theorem wellFormed_nested (n : Nat) : (nested n).WellFormed := by
  induction n with
  | zero => trivial
  | succ n ih => exact ⟨ih, trivial⟩

end Json

namespace Entries

variable {name id : String} {es : Entries} {e : Entry}

theorem mem_of_fetch (h : es.fetch name id = some e) : e ∈ es ∧ e.collection = name ∧ e.id = id :=
  ⟨List.mem_of_find?_eq_some h, by
    simpa [isAt] using List.find?_some h⟩

theorem mem_of_find {p : Predicate} {t : Tail} (h : e ∈ es.find name p t) : e ∈ es :=
  (List.mem_filter.mp (mem_select_of_find h)).1

end Entries

namespace Collection

variable (c : Collection) {e : Entry} {es : Entries}

theorem decode_of_read {data : Json} (h : Json.read readingLimit e.data.compact = .ok data) :
    c.decode (Cursor.documentRow e) = .ok ⟨e.id, data, e.createdAt, e.updatedAt⟩ := by
  have htext : ((Cursor.documentRow e).text? Statement.dataColumn).getD "null" = e.data.compact := rfl
  unfold decode
  rw [htext, h]
  rfl

theorem decode_of_unreadable {x : Json.ReadError}
    (h : Json.read readingLimit e.data.compact = .error x) :
    c.decode (Cursor.documentRow e) = .error (.corrupted c.name e.id (.unreadable x)) := by
  have htext : ((Cursor.documentRow e).text? Statement.dataColumn).getD "null" = e.data.compact := rfl
  unfold decode
  rw [htext, h]
  rfl

theorem decode_documentRow (h : e.data.Legible) :
    c.decode (Cursor.documentRow e) = .ok e.document :=
  c.decode_of_read (Json.read_compact h.1 h.2)

theorem ok_of_decodeAll {row : SqlRow} {rest : List SqlRow} {docs : List Document}
    (h : c.decodeAll (row :: rest) = .ok docs) : ∃ doc others, c.decode row = .ok doc ∧
      c.decodeAll rest = .ok others ∧ docs = doc :: others := by
  rw [decodeAll] at h
  cases hd : c.decode row with
  | error x =>
    rw [hd] at h
    cases h
  | ok doc =>
    rw [hd] at h
    cases hrest : c.decodeAll rest with
    | error x =>
      rw [hrest] at h
      cases h
    | ok others =>
      rw [hrest] at h
      cases h
      exact ⟨doc, others, rfl, rfl, rfl⟩

theorem decodeAll_documentRows (h : ∀ e ∈ es, e.data.Legible) :
    c.decodeAll (es.map Cursor.documentRow) =
      .ok (es.map Entry.document) := by
  induction es with
  | nil => rfl
  | cons e rest ih =>
    rw [List.map_cons, decodeAll, c.decode_documentRow (h e List.mem_cons_self),
      ih fun x hx => h x (List.mem_cons_of_mem _ hx)]
    rfl

theorem fetched_legible (h : ∀ e ∈ es, e.data.Legible) (id : String) :
    c.fetched id es = .ok ((es.fetch c.name id).map Entry.document) := by
  unfold fetched
  cases hf : es.fetch c.name id with
  | none => rfl
  | some e =>
    simp only [c.decode_documentRow (h e (Entries.mem_of_fetch hf).1)]
    rfl

end Collection

end DocumentGraph
