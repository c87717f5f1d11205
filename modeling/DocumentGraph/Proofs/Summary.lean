import DocumentGraph.CommandLine.Report
import DocumentGraph.Proofs.Text.Line
import DocumentGraph.Summary
set_option autoImplicit false

namespace DocumentGraph

theorem singleLine_summaryText {name : String} {fields : List (String × String)}
    (hname : SingleLine name) (h : ∀ f ∈ fields, SingleLine f.1 ∧ SingleLine f.2) :
    SingleLine (summaryText name fields) := by
  have hshown : ∀ t ∈ fields.map fun f => f.1 ++ ": " ++ f.2 ++ ", ", SingleLine t := by
    intro t ht
    obtain ⟨f, hf, rfl⟩ := List.mem_map.mp ht
    obtain ⟨hlabel, hvalue⟩ := h f hf
    exact ((hlabel.append (by decide)).append hvalue).append (by decide)
  exact ((hname.append (by decide)).append (.join hshown)).append (by decide)

@[simp] theorem singleLine_boolText (b : Bool) : SingleLine (boolText b) := by
  cases b <;> decide

@[simp] theorem Store.singleLine_summary (s : Store) : SingleLine s.summary :=
  singleLine_summaryText (by decide) (by simp +decide)

theorem Collection.singleLine_summary (c : Collection) (s : Store) :
    SingleLine (c.summary s) :=
  singleLine_summaryText (by decide) (by simp +decide)

theorem Graph.singleLine_summary (g : Graph) : SingleLine g.summary :=
  singleLine_summaryText (by decide) (by simp +decide)

theorem singleLine_fieldsText {name : String} {fields : List (String × String)}
    (hname : SingleLine name) (h : ∀ f ∈ fields, SingleLine f.1) :
    SingleLine (fieldsText name fields) := by
  have hshown : ∀ t ∈ fields.map fun f => f.1 ++ ": " ++ quoted f.2, SingleLine t := by
    intro t ht
    obtain ⟨f, hf, rfl⟩ := List.mem_map.mp ht
    exact ((h f hf).append (by decide)).append (singleLine_quoted f.2)
  exact ((hname.append (by decide)).append (.intercalate (by decide) hshown)).append (by decide)

theorem StorageError.singleLine_shown (e : StorageError) : SingleLine e.shown := by
  cases e with
  | closed => decide
  | refused m =>
    exact (SingleLine.append (by decide) (singleLine_quoted m)).append (by decide)
  | cannotOpen path =>
    exact (SingleLine.append (by decide) (singleLine_quoted _)).append (by decide)

theorem StoreError.singleLine_shown (e : StoreError) : SingleLine e.shown := by
  cases e with
  | storage e => exact e.singleLine_shown
  | invalidFieldName | invalidDocument | invalidId | invalidQuery | configuration
  | unknownOperator | matcher | corrupted =>
    exact singleLine_fieldsText (by decide) (by simp +decide)

/-- Whatever a command fails with, it is reported on one line. -/
theorem CommandLine.Failure.singleLine_shown (f : Failure) : SingleLine f.shown := by
  cases f with
  | store e => exact e.singleLine_shown
  | noPath | noStore | noDocument | badDocument | badFilter => exact singleLine_quoted _

end DocumentGraph
