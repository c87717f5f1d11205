import DocumentGraph.Proofs.Graph.Calls
import DocumentGraph.Proofs.Number.Digits
import DocumentGraph.Proofs.Store.Refinement
import DocumentGraph.Scenario
import Mathlib.Data.List.Nodup
set_option autoImplicit false

/-!
# What a scenario leaves

Filling a ready store puts every document of the scenario, in its order, and touches no other
collection. The people of the companies are made by calls on the graph alone, so whatever holds after
calls holds of them.
-/

namespace DocumentGraph

namespace Shelf

variable {shelf docs : Shelf}

/-- Documents with ids of their own are put behind those that are there. -/
theorem foldl_put (h : (ids (shelf ++ docs)).Nodup) :
    docs.foldl (fun shelf d => shelf.put d.1 d.2) shelf = shelf ++ docs := by
  induction docs generalizing shelf with
  | nil => exact (List.append_nil shelf).symm
  | cons d rest ih =>
    have hd : d.1 ∉ shelf.ids := by
      rw [ids, List.map_append] at h
      exact fun hmem => (List.nodup_append.mp h).2.2 d.1 hmem d.1 List.mem_cons_self rfl
    rw [List.append_cons] at h ⊢
    rw [List.foldl_cons, put, if_neg hd, ih h]

end Shelf

namespace Scenario

open Store

variable {s : Store} {name : String} {docs : Shelf}

theorem fill_puts (hs : s.Ready) (hd : s.entries.Distinct)
    (hw : ∀ d ∈ docs, writable d.1 d.2 = .ok ()) :
    ∃ t, fill (docs.map fun d => Collection.put ⟨name⟩ d.1 d.2) s = (.ok (), t) ∧
      t.shelves = Function.update s.shelves name
        (docs.foldl (fun shelf d => shelf.put d.1 d.2) (s.shelves name)) := by
  induction docs generalizing s with
  | nil => exact ⟨s, rfl, (Function.update_eq_self _ _).symm⟩
  | cons d rest ih =>
    obtain ⟨hfirst, hrest⟩ := List.forall_mem_cons.mp hw
    obtain ⟨t, hput, hkeeps, hentries⟩ := (Collection.put_yields ⟨name⟩ s hfirst).of_ready hs
    have hdistinct : t.entries.Distinct := hentries ▸ Entries.distinct_put hd _ _ _ _
    have ht : t.shelves = Function.update s.shelves name ((s.shelves name).put d.1 d.2) :=
      shelves_eq_update (hentries ▸ Entries.shelf_put_self (CollectionCall.nodup_ids hd name) _ _ _)
        fun other hn => hentries ▸ Entries.shelf_put_of_ne hn _ _ _
    obtain ⟨u, hfill, hu⟩ := ih (hkeeps.ready hs) hdistinct hrest
    refine ⟨u, (Operation.bind_of_ok hput).trans hfill, hu.trans ?_⟩
    rw [ht, Function.update_idem, Function.update_self, List.foldl_cons]

theorem fill_empty (hs : s.Ready) (hd : s.entries.Distinct) (hempty : s.shelves name = [])
    (hids : docs.ids.Nodup) (hw : ∀ d ∈ docs, writable d.1 d.2 = .ok ()) :
    ∃ t, fill (docs.map fun d => Collection.put ⟨name⟩ d.1 d.2) s = (.ok (), t) ∧
      t.shelves = Function.update s.shelves name docs := by
  obtain ⟨t, hfill, ht⟩ := fill_puts hs hd hw
  have hdocs := @Shelf.foldl_put [] docs hids
  exact ⟨t, hfill, ht.trans (by rw [hempty, hdocs, List.nil_append])⟩

def catalogDocs : Shelf := products.map fun p => (p.id, p.document)

theorem catalog_shelves (hs : s.Ready) (hd : s.entries.Distinct)
    (hempty : s.shelves "products" = []) :
    (catalog s).shelves = Function.update s.shelves "products" catalogDocs := by
  have hids : catalogDocs.ids.Nodup := by decide
  have hnamed : ∀ p ∈ products, p.id ≠ "" := by decide
  have hw : ∀ d ∈ catalogDocs, writable d.1 d.2 = .ok () :=
    List.forall_mem_map.mpr fun p hp =>
      writable_eq_ok.mpr ⟨validId_eq_ok.mpr (hnamed p hp), rfl⟩
  obtain ⟨t, hfill, ht⟩ := @fill_empty (s.opening "products") _ _ hs hd hempty hids hw
  exact (congrArg (fun x => x.2.shelves) hfill).trans ht

theorem fourDigits_injective : Function.Injective fourDigits := by
  have hvalue (n : Nat) : Json.digitsValue (fourDigits n).toList = n := by
    rw [fourDigits, String.toList_ofList, Positional.padded, List.map_append, List.map_replicate]
    exact (Layout.digitsValue_zeros_append _ _).trans (Layout.digitsValue_digitChars n)
  intro m n h
  rw [← hvalue m, h, hvalue n]

def numbered (count : Nat) : Shelf :=
  (List.range count).map fun i =>
    ("doc_" ++ fourDigits i, .object [("index", .number (.ofUInt64 (UInt64.ofNat i)))])

theorem nodup_numbered (count : Nat) : (numbered count).ids.Nodup := by
  rw [Shelf.ids, numbered, List.map_map]
  exact List.nodup_range.map fun m n h =>
    fourDigits_injective ((String.append_right_inj "doc_").mp h)

theorem populated_shelves {collection : String} (count : Nat) (hs : s.Ready)
    (hd : s.entries.Distinct) (hempty : s.shelves collection = []) :
    (populated collection count s).shelves =
      Function.update s.shelves collection (numbered count) := by
  have hw : ∀ d ∈ numbered count, writable d.1 d.2 = .ok () :=
    List.forall_mem_map.mpr fun i _ => writable_eq_ok.mpr ⟨validId_eq_ok.mpr (by simp), rfl⟩
  obtain ⟨t, hfill, ht⟩ :=
    @fill_empty (s.opening collection) _ _ hs hd hempty (nodup_numbered count) hw
  rw [numbered, List.map_map] at hfill
  exact (congrArg (fun x => x.2.shelves) hfill).trans ht

variable {α β : Type} {m : GraphM α} {calls : List GraphCall}

/-- The operation is these calls, one after the other up to the first that fails. -/
def Makes (m : GraphM α) (calls : List GraphCall) : Prop :=
  ∀ (start : Graph) (steps : List GraphStep) (g : Graph), start.Trace steps g →
    ∃ more, start.Trace (steps ++ more) (m g).2 ∧ more.map (·.call) <+: calls ∧
      ((m g).1.isOk = true → more.map (·.call) = calls)

theorem makes_pure (a : α) : Makes (pure a) [] := fun _ steps _ htrace =>
  ⟨[], (List.append_nil steps).symm ▸ htrace, List.prefix_rfl, fun _ => rfl⟩

theorem Makes.bind {f : α → GraphM β} {rest : List GraphCall} (hm : Makes m calls)
    (hf : ∀ a, Makes (f a) rest) : Makes (m >>= f) (calls ++ rest) := by
  intro start steps g htrace
  obtain ⟨done, hdone, hprefix, hall⟩ := hm start steps g htrace
  rcases hx : m g with ⟨e | a, h⟩
  · rw [hx] at hdone
    refine ⟨done, ?_, hprefix.trans (List.prefix_append _ _), ?_⟩
    · rw [Operation.bind_of_error hx]
      exact hdone
    · rw [Operation.bind_of_error hx]
      exact fun h => by cases h
  · rw [hx] at hdone hall
    obtain ⟨more, hmore, hnext, hend⟩ := hf a start _ h hdone
    refine ⟨done ++ more, ?_, ?_, ?_⟩
    · rw [Operation.bind_of_ok hx, ← List.append_assoc]
      exact hmore
    · rw [List.map_append, hall rfl]
      exact List.prefix_append_right_inj _ |>.mpr hnext
    · rw [Operation.bind_of_ok hx, List.map_append, hall rfl]
      exact fun h => congrArg _ (hend h)

theorem makes_call {call : GraphCall} {reply : α → GraphReply}
    (h : call.run = m >>= fun a => pure (reply a)) : Makes m [call] := by
  intro start steps g htrace
  have hstep : (call.run g).2 = (m g).2 := by
    rw [h, Operation.bind_apply]
    rcases m g with ⟨e | a, k⟩ <;> rfl
  exact ⟨[⟨g, call, (call.run g).1⟩], hstep ▸ htrace.snoc rfl, List.prefix_rfl, fun _ => rfl⟩

theorem makes_forIn {f : β → GraphM α} {call : β → GraphCall} (h : ∀ b, Makes (f b) [call b])
    (items : List β) : Makes (forIn items PUnit.unit fun b _ => do
      let _ ← f b
      pure (ForInStep.yield PUnit.unit)) (items.map call) := by
  induction items with
  | nil => exact makes_pure _
  | cons b rest ih =>
    rw [List.forIn_cons]
    simp only [bind_assoc, pure_bind]
    exact (h b).bind fun _ => ih

def orgCalls : List GraphCall :=
  users.map (fun u => .createThing "User" (named u.2) (some u.1)) ++
    companies.map (fun c => .createThing "Company" (named c.2) (some c.1)) ++
    jobs.map fun j => .relate j.1 "worksAt" j.2 .direct none

/-- The people of the companies are made by calls on the graph and by nothing else. -/
theorem orgChart_trace (g : Graph) :
    ∃ steps, g.Trace steps (orgChart g) ∧ steps.map (·.call) <+: orgCalls := by
  have hcreate (type : String) (u : String × String) :
      Makes (Graph.createThing type (named u.2) (some u.1))
        [.createThing type (named u.2) (some u.1)] := makes_call rfl
  have hrelate (j : String × String) : Makes (Graph.relate j.1 "worksAt" j.2 .direct none)
      [.relate j.1 "worksAt" j.2 .direct none] := makes_call rfl
  have hmakes := (makes_forIn (hcreate "User") users).bind fun _ =>
    (makes_forIn (hcreate "Company") companies).bind fun _ =>
      (makes_forIn hrelate jobs).bind fun _ => makes_pure ()
  obtain ⟨steps, htrace, hprefix, -⟩ := hmakes g [] g .nil
  exact ⟨steps, htrace, hprefix⟩

end Scenario

end DocumentGraph
