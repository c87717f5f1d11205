import DocumentGraph.Proofs.Graph.Frame
import DocumentGraph.Proofs.Record.Filing
set_option autoImplicit false

namespace DocumentGraph.Graph

variable {α : Type} {g h : Graph}

def documentAt (c : Collection) (id : String) (g : Graph) : Option Json :=
  (g.entries.fetch c.name id).map (·.data)

theorem documentAt_of_rows {c : Collection} (hrows : h.rows c.name = g.rows c.name) (id : String) :
    documentAt c id h = documentAt c id g := by
  rw [documentAt, Entries.fetch_rows, documentAt, Entries.fetch_rows]
  exact congrArg (fun es : Entries => (es.find? fun e => e.id = id).map (·.data)) hrows

theorem onStore_of_ready {x : StoreM α} {r : Except StoreError α} {es : Entries}
    (hx : Store.Yields x g.store r es) (hready : g.store.Ready) : ∃ h, onStore x g = (r, h) := by
  obtain ⟨t, ht, -, -⟩ := hx.of_ready hready
  exact ⟨{ g with store := t }, by rw [onStore, ht]⟩

variable [Record α] (c : Collection) {id : String}

theorem getRecord_of_ok {found : Option α} (hx : onStore (c.getRecord id) g = (.ok found, h)) :
    c.recordAt id g.entries = .ok found := by
  obtain ⟨s, hget, rfl⟩ := onStore_eq hx
  exact ((c.getRecord_yields g.store id).of_ok hget).1

theorem getRecord_of_ready (hready : g.store.Ready) (id : String) :
    ∃ h, onStore (c.getRecord id : StoreM (Option α)) g = (c.recordAt id g.entries, h) :=
  onStore_of_ready (c.getRecord_yields g.store id) hready

/-- The operation gives the records of the list, in order and as they are read back, unless one of
them nests too deep; then it is an error about the first of those. -/
structure Lists (readBack : α → α) (m : GraphM (List α)) (g : Graph) (list : List α) : Prop where
  exact : ∀ rs h, m g = (.ok rs, h) → rs = list.map readBack
  complete : g.store.Ready → (∀ r ∈ list, (Record.document r).depth ≤ readingLimit) →
    ∃ h, m g = (.ok (list.map readBack), h)
  deep : g.store.Ready → ∀ before r after, list = before ++ r :: after →
    (∀ b ∈ before, (Record.document b).depth ≤ readingLimit) →
      readingLimit < (Record.document r).depth →
        ∃ cause h, m g = (.error (.corrupted c.name (Record.key r) (.unreadable cause)), h)

theorem Lists.congr {list : List α} {readBack : α → α} {m n : GraphM (List α)}
    (h : Lists c readBack n g list) (hm : m g = n g) : Lists c readBack m g list := by
  refine ⟨?_, ?_, ?_⟩ <;> rw [hm]
  · exact h.exact
  · exact h.complete
  · exact h.deep

variable {list : List α} {readBack : α → α} {filter : Filter} {test : α → Bool}

theorem lists_findRecords (hrows : g.entries.shelf c.name = list.map Record.filed)
    (hlist : Record.Readable readBack list) (hv : filter.validated = .ok ())
    (htest : ∀ r : α, filter.holds (Record.document r) = test r) :
    Lists c readBack (onStore (c.findRecords filter .unrestricted)) g (list.filter test) := by
  have hes := c.chosen_filed hrows htest
  have hkept := hlist.filter test
  have hyields := c.findRecords_yields (α := α) g.store hv
  refine ⟨fun rs h hx => ?_, fun hready hshallow => ?_, fun hready before r after hsplit hb hr => ?_⟩
  · obtain ⟨t, hfind, -⟩ := onStore_eq hx
    exact c.recordsOf_of_ok hes hkept (hyields.of_ok hfind).1
  · obtain ⟨h, hx⟩ := onStore_of_ready hyields hready
    exact ⟨h, hx.trans (congrArg (·, h) (c.recordsOf_shallow hes hkept hshallow))⟩
  · rw [hsplit] at hes hkept
    obtain ⟨h, hx⟩ := onStore_of_ready hyields hready
    obtain ⟨cause, hcause⟩ := c.recordsOf_deep hes hkept hb hr
    exact ⟨cause, h, hx.trans (congrArg (·, h) hcause)⟩

end DocumentGraph.Graph
