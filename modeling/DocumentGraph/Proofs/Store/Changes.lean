import DocumentGraph.Proofs.Store.Frame
set_option autoImplicit false

/-!
# What a run of calls can change

A call on a collection leaves the entries alone, puts one or takes some of its own collection away.
So stored documents stay well formed and no two entries come to share a collection and an id, and an
entry stays what it is until a call touches its id.
-/

namespace DocumentGraph

namespace Entries

/-- What holds of the entries of every store: their places are distinct and the keys of their documents
ascend. -/
structure Tidy (es : Entries) : Prop where
  distinct : es.Distinct
  wellFormed : ∀ e ∈ es, e.data.WellFormed

variable {es : Entries} {name other id key : String} {doc : Json} {now : Int64}

theorem tidy_nil : Tidy [] := ⟨List.Pairwise.nil, List.forall_mem_nil _⟩

theorem Tidy.put (h : es.Tidy) (hdoc : doc.WellFormed) : (es.put name id doc now).Tidy := by
  refine ⟨distinct_put h.distinct name id doc now, fun e he => ?_⟩
  rcases mem_put he with he | ⟨-, -, rfl⟩
  · exact h.wellFormed e he
  · exact hdoc

theorem Tidy.filter (h : es.Tidy) (keep : Entry → Bool) : Tidy (es.filter keep) :=
  ⟨distinct_filter h.distinct keep, fun e he => h.wellFormed e (List.mem_of_mem_filter he)⟩

theorem fetch_put_elsewhere (h : ¬ (other = name ∧ key = id)) :
    (es.put name id doc now).fetch other key = es.fetch other key := by
  by_cases hname : other = name
  · rw [hname]
    exact fetch_put_of_ne (fun hkey => h ⟨hname, hkey⟩) name doc now es
  · rw [fetch_rows, rows_put_of_ne (Ne.symm hname), ← fetch_rows]

theorem fetch_filter {keep : Entry → Bool}
    (h : ∀ e ∈ es, e.collection = name → e.id = id → keep e = true) :
    fetch name id (es.filter keep) = es.fetch name id := by
  induction es with
  | nil => rfl
  | cons e rest ih =>
    have hrest := ih fun x hx => h x (List.mem_cons_of_mem _ hx)
    rw [fetch, fetch] at hrest ⊢
    rw [List.find?_cons, ← hrest]
    cases hat : isAt name id e with
    | false => by_cases hkeep : keep e = true <;> simp [hkeep, hat]
    | true =>
      obtain ⟨hname, hid⟩ := isAt_iff.mp hat
      rw [List.filter_cons_of_pos (h e List.mem_cons_self hname hid), List.find?_cons_of_pos hat]

end Entries

namespace CollectionCall

/-- What is put has ascending keys, as every value that was read has. -/
def Storable : CollectionCall → Prop
  | put _ doc => doc.WellFormed
  | _ => True

/-- The call may change what lies under an id. -/
def Touches (id : String) : CollectionCall → Prop
  | put key _ => key = id
  | delete key => key = id
  | deleteWhere _ => True
  | clear => True
  | _ => False

/-- What a call on a collection may make of the entries. -/
inductive Changes (c : Collection) (call : CollectionCall) (es : Entries) : Entries → Prop where
  | nothing : Changes c call es es
  | stored (id : String) (doc : Json) (now : Int64) (h : call = .put id doc) :
      Changes c call es (es.put c.name id doc now)
  | removed (keep : Entry → Bool)
      (h : ∀ e ∈ es, keep e = false → e.collection = c.name ∧ call.Touches e.id) :
      Changes c call es (es.filter keep)

open Operation Store

def Confined (c : Collection) (call : CollectionCall) {α : Type} (m : StoreM α) : Prop :=
  Steps (fun s t => s.Keeps t ∧ call.Changes c s.entries t.entries) m

variable {α : Type} {m : StoreM α} {c : Collection} {call : CollectionCall}

theorem Confined.map {β : Type} (hm : Confined c call m) (f : α → β) :
    Confined c call (m >>= fun a => pure (f a)) := by
  intro s r t hrun
  obtain ⟨q, hq⟩ := exists_of_map hrun
  exact hm s q t hq

theorem confined_of_reads (hm : Reads m) : Confined c call m := by
  intro s r t hrun
  obtain ⟨hkeeps, hentries⟩ := hm s r t hrun
  exact ⟨hkeeps, hentries ▸ .nothing⟩

theorem confined_of_yields (h : ∀ s, (∃ e, m s = (.error e, s)) ∨
    ∃ q es, Yields m s q es ∧ call.Changes c s.entries es) : Confined c call m := by
  intro s r t hrun
  rcases h s with ⟨e, he⟩ | ⟨q, es, hyields, hes⟩
  · cases hrun.symm.trans he
    exact ⟨.refl s, .nothing⟩
  · obtain ⟨hkeeps, hentries | hentries⟩ := hyields.state hrun
    · exact ⟨hkeeps, hentries ▸ hes⟩
    · exact ⟨hkeeps, hentries ▸ .nothing⟩

theorem confined_put (id : String) (doc : Json) : Confined c (.put id doc) (c.put id doc) := by
  refine confined_of_yields fun s => ?_
  cases hw : writable id doc with
  | error e => exact .inl ⟨e, c.put_rejected s hw⟩
  | ok u => exact .inr ⟨_, _, c.put_yields s hw, .stored id doc _ rfl⟩

theorem confined_delete (id : String) : Confined c (.delete id) (c.delete id) := by
  refine confined_of_yields fun s => .inr ⟨_, _, c.delete_yields s id, .removed _ fun e _ hgone => ?_⟩
  have hat : Entries.isAt c.name id e = true := by simpa using hgone
  obtain ⟨hname, hid⟩ := Entries.isAt_iff.mp hat
  exact ⟨hname, hid.symm⟩

theorem confined_deleteWhere (filter : Filter) (htouches : ∀ id, call.Touches id) :
    Confined c call (c.deleteWhere filter) := by
  refine confined_of_yields fun s => ?_
  cases hv : filter.validated with
  | error e => exact .inl ⟨e, c.deleteWhere_rejected s (Filter.compile_of_invalid hv)⟩
  | ok u =>
    obtain ⟨p, hp, -⟩ := Filter.compile_of_valid hv
    refine .inr ⟨_, _, c.deleteWhere_yields s hp, .removed _ fun e _ hgone => ⟨?_, htouches e.id⟩⟩
    have hselected : Entries.isSelected c.name p e = true := by simpa using hgone
    exact (of_decide_eq_true hselected).1

theorem run_confined (c : Collection) (call : CollectionCall) : Confined c call (call.run c) := by
  refine run_of_parts (Confined c call) c call (fun f hm => hm.map f) confined_of_reads ?_ ?_ ?_
  · rintro id doc rfl
    exact confined_put id doc
  · rintro id rfl
    exact confined_delete id
  · rintro filter (rfl | rfl) <;> exact confined_deleteWhere filter fun _ => trivial

variable {es es' : Entries}

theorem Changes.tidy (h : call.Changes c es es') (hc : call.Storable) (hes : es.Tidy) : es'.Tidy := by
  cases h with
  | nothing => exact hes
  | stored id doc now h =>
    subst h
    exact hes.put hc
  | removed keep h => exact hes.filter keep

theorem Changes.fetch {name id : String} (h : call.Changes c es es')
    (huntouched : ¬ (c.name = name ∧ call.Touches id)) : es'.fetch name id = es.fetch name id := by
  cases h with
  | nothing => rfl
  | stored key doc now h =>
    subst h
    exact Entries.fetch_put_elsewhere fun ⟨hname, hkey⟩ => huntouched ⟨hname.symm, hkey.symm⟩
  | removed keep h =>
    refine Entries.fetch_filter fun e he hname hid => ?_
    by_contra hgone
    obtain ⟨hname', htouches⟩ := h e he (Bool.not_eq_true _ ▸ hgone)
    exact huntouched ⟨hname'.symm.trans hname, hid ▸ htouches⟩

theorem runAll_tidy {s : Store} (hs : s.entries.Tidy) (calls : List (String × CollectionCall))
    (hc : ∀ call ∈ calls, call.2.Storable) :
    s.Keeps (runAll calls s).2 ∧ (runAll calls s).2.entries.Tidy := by
  induction calls generalizing s with
  | nil => exact ⟨.refl s, hs⟩
  | cons call rest ih =>
    obtain ⟨name, call⟩ := call
    obtain ⟨hkeeps, hchanges⟩ := run_confined ⟨name⟩ call s _ _ rfl
    obtain ⟨hcall, hrest⟩ := List.forall_mem_cons.mp hc
    obtain ⟨hkeeps', htidy⟩ := ih (hchanges.tidy hcall hs) hrest
    exact ⟨hkeeps.trans hkeeps', htidy⟩

theorem runAll_fetch (s : Store) {name id : String} (calls : List (String × CollectionCall))
    (huntouched : ∀ call ∈ calls, ¬ (call.1 = name ∧ call.2.Touches id)) :
    (runAll calls s).2.entries.fetch name id = s.entries.fetch name id := by
  induction calls generalizing s with
  | nil => rfl
  | cons call rest ih =>
    obtain ⟨other, call⟩ := call
    obtain ⟨-, hchanges⟩ := run_confined ⟨other⟩ call s _ _ rfl
    obtain ⟨hcall, hrest⟩ := List.forall_mem_cons.mp huntouched
    exact (ih _ hrest).trans (hchanges.fetch hcall)

end CollectionCall

end DocumentGraph
