import DocumentGraph.Proofs.Json.Members
import DocumentGraph.Proofs.Store.Opening
import DocumentGraph.Proofs.Store.Shelf
set_option autoImplicit false

/-!
# What is read from archives

A value that is read from a text is well formed and nests no deeper than reading allows, so it can be
read again from the text that is made of it. This holds of all documents in a database that was read from
an archive, and of the documents that statements put if it holds of what is given to them. So the archive
of such a database is read back, and archives with the same text are of databases with the same entries.
-/

namespace DocumentGraph

namespace Json

variable {α β : Type} {P : α → Prop} {Q : β → Prop} {r : Except Fault (α × List Char)} {limit : Nat}

/-- If something is read it has the property. -/
def ReadsOnly (P : α → Prop) (r : Except Fault (α × List Char)) : Prop :=
  ∀ a rest, r = .ok (a, rest) → P a

theorem readsOnly_error (f : Fault) : ReadsOnly P (.error f) := by
  rintro a rest ⟨⟩

theorem readsOnly_ok {a : α} (h : P a) (rest : List Char) : ReadsOnly P (.ok (a, rest)) := by
  rintro b rest ⟨⟩
  exact h

theorem ReadsOnly.bind {f : α × List Char → Except Fault (β × List Char)} (hr : ReadsOnly P r)
    (hf : ∀ a rest, P a → ReadsOnly Q (f (a, rest))) : ReadsOnly Q (r >>= f) := by
  cases r with
  | error e => exact readsOnly_error e
  | ok x => exact hf x.1 x.2 (hr _ _ rfl)

theorem readsOnly_any (r : Except Fault (α × List Char)) : ReadsOnly (fun _ => True) r :=
  fun _ _ _ => trivial

variable {element : Reader Json} {R : Json → Prop} (he : ∀ cs, ReadsOnly R (element cs))

include he

theorem readsOnly_moreItems (fuel : Nat) (cs : List Char) :
    ReadsOnly (fun items => ∀ j ∈ items, R j) (moreItems element fuel cs) := by
  induction fuel generalizing cs with
  | zero => exact readsOnly_error _
  | succ fuel ih =>
    unfold moreItems
    split
    · exact readsOnly_error _
    split
    · exact readsOnly_ok (List.forall_mem_nil _) _
    split
    · split
      · exact readsOnly_error _
      split
      · exact readsOnly_error _
      · refine (he _).bind fun j rest hj => (ih rest).bind fun items rest hitems => ?_
        exact readsOnly_ok (List.forall_mem_cons.mpr ⟨hj, hitems⟩) rest
    · exact readsOnly_error _

theorem readsOnly_member (cs : List Char) : ReadsOnly (fun m => R m.2) (member element cs) := by
  refine (readsOnly_any (stringRest cs)).bind fun key rest _ => ?_
  dsimp only
  split
  · exact readsOnly_error _
  split
  · exact (he _).bind fun j rest hj => readsOnly_ok (a := (key, j)) hj rest
  · exact readsOnly_error _

theorem readsOnly_moreMembers (fuel : Nat) (cs : List Char) :
    ReadsOnly (fun members => ∀ m ∈ members, R m.2) (moreMembers element fuel cs) := by
  induction fuel generalizing cs with
  | zero => exact readsOnly_error _
  | succ fuel ih =>
    unfold moreMembers
    split
    · exact readsOnly_error _
    split
    · exact readsOnly_ok (List.forall_mem_nil _) _
    split
    · split
      · exact readsOnly_error _
      split
      · refine (readsOnly_member he _).bind fun m rest hm => (ih rest).bind fun members rest hms => ?_
        have hall : ∀ x ∈ m :: members, R x.2 := List.forall_mem_cons.mpr ⟨hm, hms⟩
        exact readsOnly_ok hall rest
      · split <;> exact readsOnly_error _
    · exact readsOnly_error _

omit he

theorem fits_arrayRest (he : ∀ cs, ReadsOnly (Fits limit) (element cs)) (cs : List Char) :
    ReadsOnly (Fits (limit + 1)) (arrayRest element cs) := by
  unfold arrayRest
  split
  · exact readsOnly_error _
  split
  · exact readsOnly_ok (fits_array (List.forall_mem_nil _)) _
  · refine (he _).bind fun j rest hj => ?_
    refine (readsOnly_moreItems he _ _).bind fun items rest hitems => ?_
    exact readsOnly_ok (fits_array (List.forall_mem_cons.mpr ⟨hj, hitems⟩)) rest

theorem fits_ofMembers {members : List (String × Json)} (h : ∀ m ∈ members, m.2.Fits limit) :
    (ofMembers members).Fits (limit + 1) :=
  ⟨wellFormed_ofMembers fun m hm => (h m hm).1, depth_ofMembers_le fun m hm => (h m hm).2⟩

theorem fits_objectRest (he : ∀ cs, ReadsOnly (Fits limit) (element cs)) (cs : List Char) :
    ReadsOnly (Fits (limit + 1)) (objectRest element cs) := by
  unfold objectRest
  split
  · exact readsOnly_error _
  split
  · exact readsOnly_ok (fits_ofMembers (List.forall_mem_nil _)) _
  split
  · refine (readsOnly_member he _).bind fun m rest hm => ?_
    refine (readsOnly_moreMembers he _ _).bind fun members rest hms => ?_
    exact readsOnly_ok (fits_ofMembers (List.forall_mem_cons.mpr ⟨hm, hms⟩)) rest
  · exact readsOnly_error _

theorem fits_scalar (limit : Nat) (c : Char) (cs : List Char) :
    ReadsOnly (Fits limit) (scalar c cs) := by
  have hmap {γ : Type} (x : Except Fault (γ × List Char)) (f : γ → Json)
      (hf : ∀ a, (f a).Fits limit) : ReadsOnly (Fits limit) (x.map fun r => (f r.1, r.2)) := by
    cases x with
    | error e => exact readsOnly_error e
    | ok y => exact readsOnly_ok (hf y.1) y.2
  unfold scalar
  split
  · exact hmap _ (fun _ => .null) fun _ => ⟨trivial, Nat.zero_le _⟩
  split
  · exact hmap _ (fun _ => .bool true) fun _ => ⟨trivial, Nat.zero_le _⟩
  split
  · exact hmap _ (fun _ => .bool false) fun _ => ⟨trivial, Nat.zero_le _⟩
  split
  · exact hmap _ .string fun _ => ⟨trivial, Nat.zero_le _⟩
  split
  · exact hmap _ .number fun _ => ⟨trivial, Nat.zero_le _⟩
  split
  · exact hmap _ .number fun _ => ⟨trivial, Nat.zero_le _⟩
  · exact readsOnly_error _

/-- Each container that is entered takes one from the limit. -/
theorem fits_value (limit : Nat) (cs : List Char) : ReadsOnly (Fits limit) (value limit cs) := by
  induction limit generalizing cs with
  | zero =>
    unfold value
    split
    · exact readsOnly_error _
    split
    · exact readsOnly_error _
    · exact fits_scalar 0 _ _
  | succ limit ih =>
    unfold value
    split
    · exact readsOnly_error _
    split
    · exact fits_arrayRest ih _
    split
    · exact fits_objectRest ih _
    · exact fits_scalar (limit + 1) _ _

theorem fits_of_read {text : String} {j : Json} (h : read limit text = .ok j) : j.Fits limit := by
  unfold read at h
  split at h
  · next hchars =>
    cases h
    unfold readChars at hchars
    rcases hvalue : value limit text.toList with f | ⟨i, rest⟩
    · rw [hvalue] at hchars
      cases hchars
    · rw [hvalue] at hchars
      simp only [bind, Except.bind] at hchars
      split at hchars
      · cases hchars
        exact fits_value limit _ _ _ hvalue
      · cases hchars
  · cases h

theorem Fits.mono {j : Json} {more : Nat} (h : j.Fits limit) (hle : limit ≤ more) : j.Fits more :=
  ⟨h.1, h.2.trans hle⟩

theorem Fits.item {items : List Json} (h : (Json.array items).Fits (limit + 1)) :
    ∀ j ∈ items, j.Fits limit := by
  have hdepth {is : List Json} {n : Nat} (hn : itemsDepth is ≤ n) : ∀ j ∈ is, j.depth ≤ n := by
    induction is with
    | nil => exact List.forall_mem_nil _
    | cons i rest ih =>
      obtain ⟨hi, hrest⟩ := Nat.max_le.mp hn
      exact List.forall_mem_cons.mpr ⟨hi, ih hrest⟩
  intro j hj
  exact ⟨Filter.itemsWellFormed_iff.mp h.1 j hj, hdepth (Nat.le_of_succ_le_succ h.2) j hj⟩

end Json

def Statement.Fits (limit : Nat) : Statement → Prop
  | .put _ _ data _ => data.Fits limit
  | _ => True

theorem Statement.Fits.mono {statement : Statement} {limit more : Nat} (h : statement.Fits limit)
    (hle : limit ≤ more) : statement.Fits more := by
  cases statement with
  | put collection id data now => exact Json.Fits.mono h hle
  | _ => trivial

theorem Statement.Fits.run {statement : Statement} {limit : Nat} {es : Entries}
    (h : statement.Fits limit) (hes : ∀ e ∈ es, e.data.Fits limit) :
    ∀ e ∈ (statement.run es).2, e.data.Fits limit := by
  intro e he
  cases statement with
  | put collection id data now =>
    rcases Entries.mem_put he with he | ⟨-, -, rfl⟩
    · exact hes e he
    · exact h
  | remove collection id => exact hes e (List.mem_of_mem_filter he)
  | removeWhere collection p => exact hes e (List.mem_of_mem_filter he)
  | _ => exact hes e he

namespace Database

variable {db other : Database} {limit : Nat}

def Fits (limit : Nat) (db : Database) : Prop := ∀ t ∈ db.tables, ∀ e ∈ t.2, e.data.Fits limit

theorem Fits.entries (h : db.Fits limit) (table : String) :
    ∀ e ∈ db.entries table, e.data.Fits limit := by
  obtain ⟨tables, isOpen, refusal⟩ := db
  change ∀ e ∈ findTable (tableKey table) tables, _
  induction tables with
  | nil => exact List.forall_mem_nil _
  | cons t rest ih =>
    obtain ⟨ht, hrest⟩ := List.forall_mem_cons.mp h
    unfold findTable
    split
    · exact ht
    · exact ih hrest

theorem Fits.withEntries {es : Entries} (h : db.Fits limit) (hes : ∀ e ∈ es, e.data.Fits limit)
    (table : String) : (db.withEntries table es).Fits limit := by
  obtain ⟨tables, isOpen, refusal⟩ := db
  change ∀ t ∈ setTable (tableKey table) es tables, _
  induction tables with
  | nil => exact List.forall_mem_singleton.mpr hes
  | cons t rest ih =>
    obtain ⟨ht, hrest⟩ := List.forall_mem_cons.mp h
    unfold setTable
    split
    · exact List.forall_mem_cons.mpr ⟨hes, hrest⟩
    · exact List.forall_mem_cons.mpr ⟨ht, ih hrest⟩

theorem Fits.exec {statement : Statement} (h : db.Fits limit) (hs : statement.Fits limit)
    (table : String) : (db.exec table statement).2.Fits limit := by
  unfold Database.exec
  split
  · split
    · exact h
    · exact h.withEntries (hs.run (h.entries table)) table
  · exact h

def documentLimit : Nat := archiveLimit - 4

theorem forall_of_mapM {α β : Type} {f : α → Option β} {P : β → Prop} {as : List α} {bs : List β}
    (h : as.mapM f = some bs) (hP : ∀ a ∈ as, ∀ b, f a = some b → P b) : ∀ b ∈ bs, P b := by
  induction as generalizing bs with
  | nil =>
    cases h
    exact List.forall_mem_nil _
  | cons a rest ih =>
    obtain ⟨ha, hrest⟩ := List.forall_mem_cons.mp hP
    rw [List.mapM_cons] at h
    obtain ⟨b, hb, h⟩ := Option.bind_eq_some_iff.mp h
    obtain ⟨cs, hcs, h⟩ := Option.bind_eq_some_iff.mp h
    cases h
    exact List.forall_mem_cons.mpr ⟨ha b hb, ih hcs hrest⟩

theorem fits_of_ofJson? {j : Json} {e : Entry} (h : Entry.ofJson? j = some e)
    (hj : j.Fits (limit + 1)) : e.data.Fits limit := by
  unfold Entry.ofJson? at h
  split at h
  · split at h
    · cases h
      exact hj.item _ (by simp)
    · cases h
  · cases h

theorem fits_of_table? {j : Json} {t : String × Entries} (h : table? j = some t)
    (hj : j.Fits (limit + 3)) : ∀ e ∈ t.2, e.data.Fits limit := by
  unfold table? at h
  split at h
  · next name entries =>
    obtain ⟨es, hes, rfl⟩ := Option.map_eq_some_iff.mp h
    have hentries : (Json.array entries).Fits (limit + 2) := hj.item _ (by simp)
    exact forall_of_mapM hes fun i hi e he => fits_of_ofJson? he (hentries.item i hi)
  · cases h

theorem fits_of_ofArchive? {text : String} (h : ofArchive? text = some db) :
    db.Fits documentLimit := by
  unfold ofArchive? at h
  split at h
  · next tables hread =>
    obtain ⟨ts, hts, rfl⟩ := Option.map_eq_some_iff.mp h
    have htables : (Json.array tables).Fits (documentLimit + 4) := Json.fits_of_read hread
    exact forall_of_mapM hts fun j hj t ht => fits_of_table? ht (htables.item j hj)
  · cases h

theorem Fits.ofArchive? (h : db.Fits documentLimit) :
    Database.ofArchive? db.archive = some db.reopened :=
  ofArchive?_archive (Nat.le_refl archiveLimit) h

theorem tables_of_archive (h : db.Fits documentLimit) (k : other.Fits documentLimit)
    (he : db.archive = other.archive) : db.tables = other.tables := by
  have hdb := h.ofArchive?
  rw [he, k.ofArchive?] at hdb
  have htables : db.reopened.tables = other.reopened.tables := by rw [Option.some.inj hdb]
  exact htables

theorem isOpen_of_ofArchive? {text : String} (h : Database.ofArchive? text = some db) :
    db.isOpen = true ∧ db.refusal = none := by
  unfold Database.ofArchive? at h
  split at h
  · obtain ⟨ts, -, rfl⟩ := Option.map_eq_some_iff.mp h
    exact ⟨rfl, rfl⟩
  · cases h

end Database

end DocumentGraph
