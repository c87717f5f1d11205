import DocumentGraph.Proofs.Graph.Session
set_option autoImplicit false

/-!
# Registries

A registry remembers the records of one kind that are written or looked up through it. What is
remembered is what is stored under the same name, up to what storing changes, so looking a name up
gives what reading the store would give. The stored records are those that were written, in the order
in which their names were written first.
-/

namespace DocumentGraph

open Operation DocumentGraph.Graph

variable {α : Type} [Record α]

/-- The documents of records that were defined one after the other: a record takes the place of an
earlier one with the same key. -/
def Record.registered (defined : List α) : Shelf :=
  defined.foldl (fun shelf r => shelf.put (key r) (document r)) []

namespace Record

theorem registered_snoc (defined : List α) (r : α) :
    registered (defined ++ [r]) = (registered defined).put (key r) (document r) := by
  rw [registered, List.foldl_append]
  rfl

theorem exists_of_mem_registered {defined : List α} {d : String × Json}
    (hd : d ∈ registered defined) : ∃ r ∈ defined, d = filed r := by
  induction defined using List.reverseRecOn with
  | nil => cases hd
  | append_singleton rest r ih =>
    rw [registered_snoc] at hd
    rcases Shelf.mem_put hd with hd | rfl
    · obtain ⟨s, hs, heq⟩ := ih hd
      exact ⟨s, List.mem_append_left _ hs, heq⟩
    · exact ⟨r, List.mem_append_right _ List.mem_cons_self, rfl⟩

theorem eraseDups_concat (keys : List String) (k : String) :
    (keys ++ [k]).eraseDups = if k ∈ keys then keys.eraseDups else keys.eraseDups ++ [k] := by
  rw [List.eraseDups_append]
  by_cases h : k ∈ keys
  · have hremoved : [k].removeAll keys = [] := by simp [List.removeAll, h]
    rw [if_pos h, hremoved]
    exact List.append_nil _
  · have hkept : [k].removeAll keys = [k] := by simp [List.removeAll, h]
    rw [if_neg h, hkept]
    rfl

/-- Each key that was defined stands in the place of its first definition. -/
theorem ids_registered (defined : List α) :
    (registered defined).ids = (defined.map key).eraseDups := by
  induction defined using List.reverseRecOn with
  | nil => rfl
  | append_singleton rest r ih =>
    rw [registered_snoc, Shelf.ids_put, ih, List.map_append, List.map_singleton, eraseDups_concat]
    exact if_congr List.mem_eraseDups rfl rfl

end Record

namespace Cache

variable {β : Type} {c : Cache β} {name : String} {r : β}

theorem mem_of_find? (h : c.find? name = some r) : (name, r) ∈ c := by
  obtain ⟨before, after, rfl, -⟩ := List.lookup_eq_some_iff.mp h
  exact List.mem_append_right _ List.mem_cons_self

theorem mem_insert {e : String × β} (h : e ∈ c.insert name r) :
    e = (name, r) ∨ e ∈ c ∧ e.1 ≠ name := by
  rcases List.mem_cons.mp h with rfl | h
  · exact .inl rfl
  · obtain ⟨hmem, hname⟩ := List.mem_filter.mp h
    exact .inr ⟨hmem, by simpa using hname⟩

end Cache

/-- What a graph remembers of one kind of records, and the operations that look them up. -/
structure Registry (α : Type) [Record α] [Kept α] where
  cache : Graph → Cache α
  remember : α → Graph → Graph
  get : String → GraphM (Option α)
  has : String → GraphM Bool
  list : GraphM (List α)
  store_remember : ∀ r g, (remember r g).store = g.store
  cache_remember : ∀ r g, cache (remember r g) = (cache g).insert (Record.key r) r
  cache_congr : ∀ {g h : Graph}, h.nounCache = g.nounCache → h.verbCache = g.verbCache →
    cache h = cache g
  get_recalled : ∀ {g name r}, (cache g).find? name = some r → get name g = (.ok (some r), g)
  get_unknown : ∀ {g name}, (cache g).find? name = none →
    get name g = (onStore ((Kept.collection α).getRecord name) >>= fun found : Option α =>
      match found with
      | some r => do
        Graph.modify (remember r)
        return some r
      | none => return none) g
  has_eq : ∀ name, has name = do return (← get name).isSome
  list_eq : list = onStore ((Kept.collection α).findRecords .all .unrestricted)

def nounRegistry : Registry Noun where
  cache := Graph.nounCache
  remember n g := { g with nounCache := g.nounCache.insert n.name n }
  get := noun
  has := hasNoun
  list := nouns
  store_remember _ _ := rfl
  cache_remember _ _ := rfl
  cache_congr hnouns _ := hnouns
  get_recalled {g name r} h := by
    have hrecalled : recalledNoun name g = (.ok (some r), g) := by rw [recalledNoun, h]
    exact bind_of_ok hrecalled
  get_unknown {g name} h := by
    have hrecalled : recalledNoun name g = (.ok none, g) := by rw [recalledNoun, h]
    refine (bind_of_ok hrecalled).trans ?_
    dsimp only
    rw [bind_apply, bind_apply]
    rcases onStore (nounCollection.getRecord name) g with ⟨_ | _ | r, k⟩ <;> rfl
  has_eq _ := rfl
  list_eq := rfl

def verbRegistry : Registry Verb where
  cache := Graph.verbCache
  remember v g := { g with verbCache := g.verbCache.insert v.name v }
  get := verb
  has := hasVerb
  list := verbs
  store_remember _ _ := rfl
  cache_remember _ _ := rfl
  cache_congr _ hverbs := hverbs
  get_recalled {g name r} h := by
    have hrecalled : recalledVerb name g = (.ok (some r), g) := by rw [recalledVerb, h]
    exact bind_of_ok hrecalled
  get_unknown {g name} h := by
    have hrecalled : recalledVerb name g = (.ok none, g) := by rw [recalledVerb, h]
    refine (bind_of_ok hrecalled).trans ?_
    dsimp only
    rw [bind_apply, bind_apply]
    rcases onStore (verbCollection.getRecord name) g with ⟨_ | _ | r, k⟩ <;> rfl
  has_eq _ := rfl
  list_eq := rfl

section

variable [Kept α]

/-- A remembered record is stored under its name, as it is or as it is read back. -/
def Graph.Backs (g : Graph) (e : String × α) : Prop :=
  ∃ r : α, Record.key r = e.1 ∧
    documentAt (Kept.collection α) e.1 g = some (Record.document r) ∧
      (e.2 = r ∨ e.2 = Codec.readBack r)

theorem Graph.Backs.of_document {g h : Graph} {e : String × α} (he : g.Backs e)
    (hdocument : documentAt (Kept.collection α) e.1 h = documentAt (Kept.collection α) e.1 g) :
    h.Backs e := by
  obtain ⟨r, hkey, hr, heq⟩ := he
  exact ⟨r, hkey, hdocument.trans hr, heq⟩

end

namespace Registry

variable [Kept α]

section

variable (R : Registry α)

def write (x : α) : GraphM α := do
  onStore ((Kept.collection α).putRecord x)
  Graph.modify (R.remember x)
  return x

/-- The records defined so far are stored, and those remembered are among them. -/
structure Tracks (g : Graph) (defined : List α) : Prop where
  stocked : Stocked (Kept.collection α).name g.entries
  shelf : g.entries.shelf (Kept.collection α).name = Record.registered defined
  coherent : ∀ e ∈ R.cache g, g.Backs e

end

variable {R : Registry α} {g h k : Graph} {name : String} {defined : List α} {x : α}

theorem Tracks.of_same (ht : R.Tracks g defined)
    (hrows : h.rows (Kept.collection α).name = g.rows (Kept.collection α).name)
    (hcache : R.cache h = [] ∨ R.cache h = R.cache g) : R.Tracks h defined := by
  refine ⟨ht.stocked.of_rows hrows, ?_, fun e he => ?_⟩
  · exact (congrArg (List.map Entries.pair) hrows).trans ht.shelf
  · rcases hcache with hcache | hcache
    · rw [hcache] at he
      cases he
    · exact (ht.coherent e (hcache ▸ he)).of_document (documentAt_of_rows hrows _)

theorem entries_remember (R : Registry α) (x : α) (g : Graph) :
    (R.remember x g).entries = g.entries := by
  rw [Graph.entries, R.store_remember, Graph.entries]

theorem Tracks.remember (hstocked : Stocked (Kept.collection α).name g.entries)
    (hshelf : g.entries.shelf (Kept.collection α).name = Record.registered defined)
    (hx : g.Backs (Record.key x, x))
    (hothers : ∀ e ∈ R.cache g, e.1 ≠ Record.key x → g.Backs e) :
    R.Tracks (R.remember x g) defined := by
  have hentries := R.entries_remember x g
  have hbacked {e : String × α} (he : g.Backs e) : (R.remember x g).Backs e :=
    he.of_document (documentAt_of_rows (congrArg (Entries.rows _) hentries) _)
  refine ⟨hentries ▸ hstocked, hentries ▸ hshelf, fun e he => hbacked ?_⟩
  rw [R.cache_remember] at he
  rcases Cache.mem_insert he with rfl | ⟨he, hne⟩
  · exact hx
  · exact hothers e he hne

theorem cache_onStore {β : Type} (R : Registry α) (m : StoreM β) :
    Steps (fun g h => R.cache h = R.cache g) (onStore m) := by
  intro g r h hx
  obtain ⟨t, -, rfl⟩ := onStore_eq hx
  exact R.cache_congr rfl rfl

theorem frames_cache (R : Registry α) : Frames fun g h => R.cache h = R.cache g := by
  refine ⟨fun hgh hhk => hhk.trans hgh, fun _ _ hnouns hverbs => R.cache_congr hnouns hverbs,
    fun _ => R.cache_onStore _, fun prefixName g r h hx => ?_⟩
  rw [newId_apply] at hx
  cases hx
  exact R.cache_congr rfl rfl

theorem get_cases {r : Except StoreError (Option α)} (hx : R.get name g = (r, k)) :
    (∃ x, (R.cache g).find? name = some x ∧ r = .ok (some x) ∧ k = g) ∨
      ∃ h, onStore ((Kept.collection α).getRecord name) g = (r, h) ∧
        (k = h ∨ ∃ x, r = .ok (some x) ∧ k = R.remember x h) := by
  cases hfind : (R.cache g).find? name with
  | some x =>
    rw [R.get_recalled hfind] at hx
    cases hx
    exact .inl ⟨x, rfl, rfl, rfl⟩
  | none =>
    rw [R.get_unknown hfind, bind_apply] at hx
    rcases hget : onStore ((Kept.collection α).getRecord name) g with ⟨e | _ | x, h⟩
    all_goals
      rw [hget] at hx
      cases hx
    · exact .inr ⟨_, rfl, .inl rfl⟩
    · exact .inr ⟨_, rfl, .inl rfl⟩
    · exact .inr ⟨_, rfl, .inr ⟨x, rfl, rfl⟩⟩

theorem entries_getRecord {r : Except StoreError (Option α)}
    (hx : onStore ((Kept.collection α).getRecord name) g = (r, h)) : h.entries = g.entries :=
  (reads_onStore (Collection.reads_getRecord _ name) g r h hx).2

theorem Tracks.get (ht : R.Tracks g defined) {r : Except StoreError (Option α)}
    (hx : R.get name g = (r, k)) : R.Tracks k defined := by
  obtain ⟨x, -, -, rfl⟩ | ⟨h, hget, hk⟩ := get_cases hx
  · exact ht
  · have he := entries_getRecord hget
    have hh : R.Tracks h defined :=
      ht.of_same (congrArg (Entries.rows _) he) (.inr (R.cache_onStore _ g _ h hget))
    obtain rfl | ⟨x, rfl, rfl⟩ := hk
    · exact hh
    · obtain ⟨s, hs, rfl, rfl, -⟩ := ht.stocked.exists_of_recordAt (getRecord_of_ok _ hget)
      refine .remember hh.stocked hh.shelf ⟨s, (Kept.key_readBack s).symm, ?_, .inr rfl⟩
        fun e hmem _ => hh.coherent e hmem
      rw [documentAt, he, Kept.key_readBack]
      exact hs

theorem Tracks.found (ht : R.Tracks g defined) {found : Option α}
    (hx : R.get name g = (.ok found, k)) :
    (documentAt (Kept.collection α) name g = none ∧ found = none) ∨
      ∃ r : α, Record.key r = name ∧
        documentAt (Kept.collection α) name g = some (Record.document r) ∧
          (found = some r ∨ found = some (Codec.readBack r)) := by
  obtain ⟨x, hfind, hfound, -⟩ | ⟨h, hget, -⟩ := get_cases hx
  · cases hfound
    obtain ⟨r, hkey, hr, heq⟩ := ht.coherent _ (Cache.mem_of_find? hfind)
    exact .inr ⟨r, hkey, hr, heq.imp (congrArg some) (congrArg some)⟩
  · obtain hnone | ⟨r, hr, hkey, hfound, -⟩ :=
      ht.stocked.found_of_recordAt (getRecord_of_ok _ hget)
    · exact .inl hnone
    · exact .inr ⟨r, hkey, hr, .inr hfound⟩

theorem write_cases {r : Except StoreError α} (hx : R.write x g = (r, k)) :
    (∃ h, onStore ((Kept.collection α).putRecord x) g = (.ok (), h) ∧ r = .ok x ∧
        k = R.remember x h) ∨
      ∃ e, r = .error e ∧ onStore ((Kept.collection α).putRecord x) g = (.error e, k) := by
  rw [write, bind_apply] at hx
  rcases hput : onStore ((Kept.collection α).putRecord x) g with ⟨e | u, h⟩
  all_goals
    rw [hput] at hx
    cases hx
  · exact .inr ⟨e, rfl, rfl⟩
  · exact .inl ⟨h, rfl, rfl, rfl⟩

theorem assured_write (R : Registry α) (hx : Record.key x ≠ "") :
    Assured (R.write x) fun _ => True :=
  (assured_putRecord _ hx).bind fun _ _ =>
    (assured_modify (R.store_remember x)).bind fun _ _ => assured_pure trivial

theorem Tracks.write (ht : R.Tracks g defined) (hwf : (Record.document x).WellFormed)
    {r : Except StoreError α} (hx : R.write x g = (r, k)) :
    (r = .ok x ∧ R.Tracks k (defined ++ [x])) ∨ (∃ e, r = .error e) ∧ R.Tracks k defined := by
  obtain ⟨h, hput, rfl, rfl⟩ | ⟨e, rfl, hput⟩ := write_cases hx
  · refine .inl ⟨rfl, ?_⟩
    have he := entries_putRecord hput
    have hcache : R.cache h = R.cache g := R.cache_onStore _ g _ h hput
    have hstocked : Stocked (Kept.collection α).name h.entries :=
      stocks_putRecord x (fun _ => hwf) g _ h hput ht.stocked
    refine .remember hstocked ?_ ⟨x, rfl, ?_, .inl rfl⟩ fun e hmem hne => ?_
    · rw [he, Entries.shelf_put_self ht.stocked.nodup, ht.shelf, Record.registered_snoc]
    · rw [documentAt, he, Entries.data_fetch_put]
    · refine (ht.coherent e (hcache ▸ hmem)).of_document ?_
      rw [documentAt, he, Entries.fetch_put_of_ne hne, documentAt]
  · have he := entries_of_putRecord_error hput
    exact .inr ⟨⟨e, rfl⟩,
      ht.of_same (congrArg (Entries.rows _) he) (.inr (R.cache_onStore _ g _ k hput))⟩

theorem Tracks.exists_documentAt (ht : R.Tracks g defined) {r : α} (hr : r ∈ defined) :
    ∃ s ∈ defined, Record.key s = Record.key r ∧
      documentAt (Kept.collection α) (Record.key r) g = some (Record.document s) := by
  have hids : Record.key r ∈ (g.entries.shelf (Kept.collection α).name).ids := by
    rw [ht.shelf, Record.ids_registered]
    exact List.mem_eraseDups.mpr (List.mem_map_of_mem hr)
  obtain ⟨d, hd, hkey⟩ := List.mem_map.mp hids
  have hdata := ht.stocked.data_of_mem hd
  rw [hkey] at hdata
  rw [ht.shelf] at hd
  obtain ⟨s, hs, rfl⟩ := Record.exists_of_mem_registered hd
  exact ⟨s, hs, hkey, hdata⟩

variable (R) in
/-- What a registry shows of the records defined so far: they are stored, each name in the place of its
first definition; what is remembered is backed by them; looking a name up gives what reading the store
gives, and the list gives all of them, in order. Reading fails only for a record that nests too deep. -/
structure Serves (g : Graph) (defined : List α) : Prop where
  shelf : g.entries.shelf (Kept.collection α).name = Record.registered defined
  remembered : ∀ e ∈ R.cache g, g.Backs e
  answers : ∀ (name : String) (found : Option α) (h : Graph),
    onStore ((Kept.collection α).getRecord name) g = (.ok found, h) →
      (∃ r k, R.get name g = (.ok r, k) ∧ r.map Codec.readBack = found) ∧
        ∃ k, R.has name g = (.ok found.isSome, k)
  reads : g.store.Ready → ∀ name,
    (∀ doc, documentAt (Kept.collection α) name g = some doc → doc.depth ≤ readingLimit) →
      ∃ found h, onStore ((Kept.collection α).getRecord name : StoreM (Option α)) g = (.ok found, h)
  deep : g.store.Ready → ∀ name doc,
    documentAt (Kept.collection α) name g = some doc → readingLimit < doc.depth →
      ∃ cause h, onStore ((Kept.collection α).getRecord name : StoreM (Option α)) g =
        (.error (.corrupted (Kept.collection α).name name (.unreadable cause)), h)
  listed : ∃ list : List α,
    g.entries.shelf (Kept.collection α).name = list.map Record.filed ∧
      list.map Record.key = (defined.map Record.key).eraseDups ∧
        Lists (Kept.collection α) Codec.readBack R.list g list

theorem Tracks.answers (ht : R.Tracks g defined) {found : Option α}
    (hx : onStore ((Kept.collection α).getRecord name) g = (.ok found, h)) :
    ∃ r k, R.get name g = (.ok r, k) ∧ r.map Codec.readBack = found := by
  have hfound := ht.stocked.found_of_recordAt (getRecord_of_ok _ hx)
  cases hfind : (R.cache g).find? name with
  | some x =>
    obtain ⟨r, -, hr, hread⟩ := ht.coherent _ (Cache.mem_of_find? hfind)
    refine ⟨some x, g, R.get_recalled hfind, ?_⟩
    obtain ⟨hnone, -⟩ | ⟨s, hs, -, rfl, -⟩ := hfound
    · rw [documentAt, hnone] at hr
      cases hr
    · rw [documentAt, hs] at hr
      obtain rfl := Kept.document_injective (Option.some.inj hr)
      rcases hread with rfl | rfl
      · rfl
      · exact congrArg some (Kept.readBack_readBack s)
  | none =>
    have hget := R.get_unknown hfind
    rw [bind_of_ok hx] at hget
    obtain ⟨-, rfl⟩ | ⟨s, -, -, rfl, -⟩ := hfound
    · exact ⟨none, h, hget, rfl⟩
    · exact ⟨_, _, hget, congrArg some (Kept.readBack_readBack s)⟩

theorem Tracks.serves (ht : R.Tracks g defined) : R.Serves g defined := by
  refine ⟨ht.shelf, ht.coherent, fun name found h hx => ?_, fun hready name hshallow => ?_,
    fun hready name doc hdoc hdeep => ?_, ?_⟩
  · obtain ⟨r, k, hget, hr⟩ := ht.answers hx
    refine ⟨⟨r, k, hget, hr⟩, k, ?_⟩
    rw [R.has_eq, bind_of_ok hget, ← hr, Option.isSome_map]
    rfl
  · cases hdoc : documentAt (Kept.collection α) name g with
    | none =>
      obtain ⟨h, hx⟩ := getRecord_of_ready (α := α) (Kept.collection α) hready name
      rw [Collection.recordAt_of_absent _ (Option.map_eq_none_iff.mp hdoc)] at hx
      exact ⟨none, h, hx⟩
    | some doc =>
      obtain ⟨r, rfl, rfl, -⟩ := ht.stocked.exists_of_fetch hdoc
      exact ⟨_, getRecord_of_shallow ht.stocked hready hdoc (hshallow _ hdoc)⟩
  · exact getRecord_of_deep ht.stocked hready hdoc hdeep
  · obtain ⟨list, hlist, -, hread⟩ := ht.stocked.exists_records
    have hkeys : list.map Record.key = (defined.map Record.key).eraseDups := by
      rw [← Record.ids_registered, ← ht.shelf, hlist, Shelf.ids, List.map_map]
      rfl
    have hvalid : Filter.all.validated = .ok () := rfl
    have hlists := lists_findRecords (Kept.collection α) hlist hread hvalid fun r =>
      Filter.holds_all (Record.document r)
    rw [List.filter_eq_self.mpr fun _ _ => rfl] at hlists
    exact ⟨list, hlist, hkeys, R.list_eq ▸ hlists⟩

end Registry

end DocumentGraph
