import DocumentGraph.Proofs.Graph.Edges
import DocumentGraph.Proofs.Graph.Presented
import DocumentGraph.Proofs.Graph.Searching
set_option autoImplicit false

/-!
# Records that are handed out

A call that creates or changes a record hands it out as it is stored. Until a later call changes what
lies under its key, every call that reads it gets the same record, except that a payload of null is
not set any more. A record that nests too deep stays stored, but looking it up may fail.
-/

namespace DocumentGraph

open Operation DocumentGraph.Graph

/-- The record that a call wrote and replied with. -/
def GraphStep.handed? (s : GraphStep) : Option GraphRecord :=
  match s.call, s.outcome with
  | .createThing _ _ _, .ok (.thing t) => some (.thing t)
  | .updateThing _ _, .ok (.foundThing t) => t.map .thing
  | .log _, .ok (.action a) => some (.action a)
  | .relate _ _ _ _ _, .ok (.relationship r) => some (.relationship r)
  | .fuzzyRelate _ _ _ _ _ _, .ok (.fuzzy r) => some (.relationship r.relationship)
  | .defineNoun _ _, .ok (.noun n) => some (.noun n)
  | .defineVerb _ _, .ok (.verb v) => some (.verb v)
  | _, _ => none

/-- The call changes what lies under the key of the record. -/
def GraphStep.Changes (s : GraphStep) (x : GraphRecord) : Prop :=
  documentAt x.collection x.key (s.call.run s.before).2 ≠ documentAt x.collection x.key s.before

def GraphRecord.lookup : GraphRecord → GraphCall
  | noun n => .noun n.name
  | verb v => .verb v.name
  | thing t => .thing t.id
  | action a => .action a.id
  | relationship r => .relationship r.id

/-- The call lists or finds records, and the record is among those that it asks for. -/
def GraphCall.Selects (strict : Bool) : GraphCall → GraphRecord → Prop
  | nouns, .noun _ => True
  | verbs, .verb _ => True
  | things options, .thing _ => options = .unrestricted
  | findThings type filter options, .thing t =>
    options = .unrestricted ∧ Filter.Parses strict filter ∧ t.isMatch type filter = true
  | findActions filter options, .action a =>
    options = .unrestricted ∧ Filter.Parses strict filter ∧
      (Record.document a).satisfies filter = true
  | actionsOf id, .action a => a.concerns id = true
  | relationsFrom source v, .relationship r => r.leaves source v = true
  | relationsTo target v, .relationship r => r.enters target v = true
  | _, _ => False

namespace Graph

variable {g h k : Graph} {x : GraphRecord}

theorem stores_of_putRecord {ρ : Type} [Record ρ] [Kept ρ] {r : ρ} {u : Unit}
    (hx : onStore ((Kept.collection ρ).putRecord r) g = (.ok u, h)) : h.Stores (Kept.wrap r) := by
  rw [stores_wrap, documentAt, entries_putRecord hx, Entries.data_fetch_put]

theorem stores_of_write {ρ : Type} [Record ρ] [Kept ρ] {R : Registry ρ} {r s : ρ}
    (hx : R.write r g = (.ok s, h)) : h.Stores (Kept.wrap s) := by
  obtain ⟨k, hput, hs, rfl⟩ | ⟨e, he, -⟩ := Registry.write_cases hx
  · cases hs
    exact (stores_of_putRecord hput).of_rows (congrArg (Entries.rows _) (R.entries_remember r k))
  · cases he

theorem stores_of_relate {source verb target : String} {cascade : Cascade} {data : Option Json}
    {r : Relationship} (hx : relate source verb target cascade data g = (.ok r, h)) :
    h.Stores (.relationship r) := by
  obtain ⟨-, g₁, g₂, g₃, u, a, -, -, hput, hlog⟩ := relate_of_ok hx
  have hspares : Spares relationshipCollection.name (log (.relating source verb target data)) :=
    spares_log (by decide) _
  exact (stores_of_putRecord hput).of_rows (hspares g₃ _ h hlog).2

end Graph

theorem GraphCall.run_stores {call : GraphCall} {g h : Graph} {x : GraphRecord}
    {outcome : Except StoreError GraphReply} (hx : call.run g = (outcome, h))
    (hs : GraphStep.handed? ⟨g, call, outcome⟩ = some x) : h.Stores x := by
  cases outcome with
  | error e => cases call <;> cases hs
  | ok reply =>
    cases call with
    | createThing type data id =>
      obtain ⟨t, hcreate, rfl⟩ := value_of_map hx
      obtain rfl := Option.some.inj hs
      obtain ⟨-, -, -, hput⟩ := createThing_creates hcreate
      exact hput.rewrites.stored
    | updateThing id changes =>
      obtain ⟨found, hupdate, rfl⟩ := value_of_map hx
      obtain ⟨t, rfl, rfl⟩ := Option.map_eq_some_iff.mp hs
      obtain ⟨-, old, -, hnone, hsome⟩ := updateThing_of_ok hupdate
      cases old with
      | none => cases (hnone rfl).1
      | some old =>
        obtain ⟨hfound, hrewrites⟩ := hsome old rfl
        obtain rfl := Option.some.inj hfound
        exact hrewrites.stored
    | log entry =>
      obtain ⟨a, hlog, rfl⟩ := value_of_map hx
      obtain rfl := Option.some.inj hs
      obtain ⟨-, time, he⟩ := entries_log hlog
      have hstored : documentAt actionCollection a.id h = some (Record.document a) := by
        rw [documentAt, he, Entries.data_fetch_put]
      exact hstored
    | relate source v target cascade data =>
      obtain ⟨r, hrelate, rfl⟩ := value_of_map hx
      obtain rfl := Option.some.inj hs
      exact stores_of_relate hrelate
    | fuzzyRelate source v type text data threshold =>
      obtain ⟨f, hfuzzy, rfl⟩ := value_of_map hx
      obtain rfl := Option.some.inj hs
      obtain ⟨k, -, hrelate⟩ := fuzzyRelate_of_ok hfuzzy
      exact stores_of_relate hrelate
    | defineNoun name d =>
      obtain ⟨n, hdefine, rfl⟩ := value_of_map hx
      obtain rfl := Option.some.inj hs
      obtain ⟨⟨e, he⟩, -⟩ | ⟨-, ⟨e, he, -⟩ | ⟨_, _, _, _, -, -, -, -, hwrite⟩⟩ :=
        defineNoun_cases hdefine
      · cases he
      · cases he
      · exact stores_of_write hwrite
    | defineVerb name d =>
      obtain ⟨v, hdefine, rfl⟩ := value_of_map hx
      obtain rfl := Option.some.inj hs
      obtain ⟨⟨e, he⟩, -⟩ | hwrite := defineVerb_cases hdefine
      · cases he
      · exact stores_of_write hwrite
    | _ => cases hs

namespace Graph

variable {g h : Graph} {x : GraphRecord}

theorem Session.stores {guarded : List String} {steps earlier later : List GraphStep}
    {s : GraphStep} (hsession : Session guarded steps g) (hname : x.collection.name ∈ guarded)
    (hsteps : steps = earlier ++ s :: later) (hs : s.handed? = some x)
    (hkept : ∀ c ∈ later, ¬ c.Changes x) : g.Stores x := by
  induction hsession generalizing later with
  | opened store tails empty =>
    have hmem : s ∈ earlier ++ s :: later := List.mem_append_right _ List.mem_cons_self
    rw [← hsteps] at hmem
    cases hmem
  | called init step ih =>
    rcases List.eq_nil_or_concat later with rfl | ⟨rest, last, rfl⟩
    · obtain ⟨-, hlast⟩ := List.append_inj' hsteps rfl
      cases hlast
      exact GraphCall.run_stores step hs
    · rw [List.concat_eq_append, ← List.cons_append, ← List.append_assoc] at hsteps
      obtain ⟨hinit, hlast⟩ := List.append_inj' hsteps rfl
      cases hlast
      rw [List.concat_eq_append] at hkept
      obtain ⟨hrest, hlast⟩ := List.forall_mem_append.mp hkept
      have hsame := not_not.mp (hlast _ List.mem_cons_self)
      rw [step] at hsame
      exact hsame.trans (ih hinit hrest)
  | amid store init same ih => exact (ih hsteps hkept).of_rows (same _ hname)
  | renewed store tails init same ih => exact (ih hsteps hkept).of_rows (same _ hname)

/-- The call gives one record, which comes from `x`, or `x` nests too deep and the error says so. -/
def LooksUp (call : GraphCall) (g : Graph) (x : GraphRecord) : Prop :=
  (∃ reply h y, call.run g = (.ok reply, h) ∧ reply.records = [y] ∧ y.Reflects x) ∨
    readingLimit < x.document.depth ∧ ∃ cause h, call.run g =
      (.error (.corrupted x.collection.name x.key (.unreadable cause)), h)

/-- The call gives the record as it is read back, and no other one with the same key. -/
def Enumerates (call : GraphCall) (g : Graph) (x : GraphRecord) : Prop :=
  ∃ reply h, call.run g = (.ok reply, h) ∧ x.readBack ∈ reply.records ∧
    (reply.records.map (·.key)).Nodup

section

variable {α : Type} [Record α] [Kept α] {r : α} {call : GraphCall}

theorem looksUp_getRecord {reply : Option α → GraphReply}
    (hcall : call.run = do
      return reply (← onStore ((Kept.collection α).getRecord (Record.key r))))
    (hreply : ∀ r, (reply (some r)).records = [Kept.wrap r])
    (hs : Stocked (Kept.collection α).name g.entries) (hready : g.store.Ready)
    (hr : g.Stores (Kept.wrap r)) : LooksUp call g (Kept.wrap r) := by
  have hdocument := stores_wrap.mp hr
  rw [LooksUp, hcall]
  by_cases hdepth : (Record.document r).depth ≤ readingLimit
  · obtain ⟨h, hget⟩ := getRecord_of_shallow hs hready hdocument hdepth
    exact .inl ⟨_, h, _, bind_of_ok hget, hreply _, .inl (Kept.readBack_wrap r).symm⟩
  · have hdeep := Nat.lt_of_not_le hdepth
    obtain ⟨cause, h, hget⟩ := getRecord_of_deep (α := α) hs hready hdocument hdeep
    rw [GraphRecord.document, GraphRecord.key, Kept.filed_wrap, Kept.collection_wrap]
    exact .inr ⟨hdeep, cause, h, bind_of_error hget⟩

theorem looksUp_get {R : Registry α} {defined : List α} {reply : Option α → GraphReply}
    (ht : R.Tracks g defined)
    (hcall : call.run = do return reply (← R.get (Record.key r)))
    (hreply : ∀ r, (reply (some r)).records = [Kept.wrap r])
    (hself : ∀ r : α, (Kept.wrap r).Reflects (Kept.wrap r)) (hready : g.store.Ready)
    (hr : g.Stores (Kept.wrap r)) : LooksUp call g (Kept.wrap r) := by
  have hdocument := stores_wrap.mp hr
  rw [LooksUp, hcall]
  rcases hget : R.get (Record.key r) g with ⟨e | found, k⟩
  · -- It is not remembered and could not be read.
    obtain ⟨x, -, hx, -⟩ | ⟨h, hread, -⟩ := Registry.get_cases hget
    · cases hx
    · have hdeep : readingLimit < (Record.document r).depth := by
        by_contra hdepth
        obtain ⟨l, hok⟩ := getRecord_of_shallow ht.stocked hready hdocument (Nat.le_of_not_lt hdepth)
        rw [hread] at hok
        cases hok
      obtain ⟨cause, l, herror⟩ := getRecord_of_deep (α := α) ht.stocked hready hdocument hdeep
      rw [hread] at herror
      cases herror
      rw [GraphRecord.document, GraphRecord.key, Kept.filed_wrap, Kept.collection_wrap]
      exact .inr ⟨hdeep, cause, k, bind_of_error hget⟩
  · obtain ⟨hnone, -⟩ | ⟨s, -, hs, heq⟩ := ht.found hget
    · cases hnone.symm.trans hdocument
    · obtain rfl := Kept.document_injective (Option.some.inj (hdocument.symm.trans hs))
      rcases heq with rfl | rfl
      · exact .inl ⟨_, k, _, bind_of_ok hget, hreply _, hself r⟩
      · exact .inl ⟨_, k, _, bind_of_ok hget, hreply _, .inl (Kept.readBack_wrap r).symm⟩

end

theorem Orderly.looksUp (hg : g.Orderly) (hready : g.store.Ready) (hx : g.Stores x) :
    LooksUp x.lookup g x := by
  cases x with
  | noun n =>
    obtain ⟨defined, ht⟩ := hg.nouns
    exact looksUp_get ht rfl (fun _ => rfl) (fun _ => .inr ⟨rfl, rfl⟩) hready hx
  | verb v =>
    obtain ⟨defined, ht⟩ := hg.verbs
    exact looksUp_get ht rfl (fun _ => rfl) (fun _ => .inl rfl) hready hx
  | thing t =>
    exact looksUp_getRecord (r := t) rfl (fun _ => rfl) (hg.stocked thingCollection.name (by decide))
      hready hx
  | action a =>
    exact looksUp_getRecord (r := a) rfl (fun _ => rfl) (hg.stocked actionCollection.name (by decide))
      hready hx
  | relationship r =>
    exact looksUp_getRecord (r := r) rfl (fun _ => rfl)
      (hg.stocked relationshipCollection.name (by decide)) hready hx

section

variable {α : Type} [Record α] [Kept α] {r : α} {call : GraphCall}

theorem enumerates_findRecords {m : GraphM (List α)} {reply : List α → GraphReply} {filter : Filter}
    {test : α → Bool} (hcall : call.run = do return reply (← m))
    (hm : m g = onStore ((Kept.collection α).findRecords filter .unrestricted) g)
    (hreply : ∀ rs, (reply rs).records = rs.map Kept.wrap)
    (hs : Stocked (Kept.collection α).name g.entries) (hready : g.store.Ready)
    (hshallow : ∀ d ∈ g.entries.shelf (Kept.collection α).name, d.2.depth ≤ readingLimit)
    (hr : g.Stores (Kept.wrap r)) (hv : filter.validated = .ok ())
    (htest : ∀ r : α, filter.holds (Record.document r) = test r) (hsel : test r = true) :
    Enumerates call g (Kept.wrap r) := by
  obtain ⟨rs, h, hfind, hmem, hnodup⟩ :=
    findRecords_of_shallow hs hready hshallow (stores_wrap.mp hr) hv htest hsel
  have hkeys : GraphRecord.key ∘ Kept.wrap = (Record.key : α → String) :=
    funext fun s => congrArg Prod.fst (Kept.filed_wrap s)
  refine ⟨_, h, hcall ▸ bind_of_ok (hm.trans hfind), ?_, ?_⟩
  · rw [hreply, Kept.readBack_wrap]
    exact List.mem_map_of_mem hmem
  · rw [hreply, List.map_map, hkeys]
    exact hnodup

end

theorem Orderly.enumerates (hg : g.Orderly) (hready : g.store.Ready) (hx : g.Stores x)
    (hshallow : ∀ d ∈ g.entries.shelf x.collection.name, d.2.depth ≤ readingLimit)
    {call : GraphCall} (hsel : call.Selects g.store.config.strictFilters x) :
    Enumerates call g x := by
  have hs : Stocked x.collection.name g.entries := hg.stocked _ x.collection_name_mem
  cases x with
  | noun n => cases call with
    | nouns =>
      exact enumerates_findRecords (r := n) rfl rfl (fun _ => rfl) hs hready hshallow hx rfl
        (fun _ => Filter.holds_all _) rfl
    | _ => exact False.elim hsel
  | verb v => cases call with
    | verbs =>
      exact enumerates_findRecords (r := v) rfl rfl (fun _ => rfl) hs hready hshallow hx rfl
        (fun _ => Filter.holds_all _) rfl
    | _ => exact False.elim hsel
  | thing t => cases call with
    | things options =>
      obtain rfl : options = .unrestricted := hsel
      exact enumerates_findRecords (r := t) rfl rfl (fun _ => rfl) hs hready hshallow hx rfl
        (fun _ => Filter.holds_all _) rfl
    | findThings type filter options =>
      obtain ⟨rfl, ⟨data, hdata⟩, hmatch⟩ := hsel
      exact enumerates_findRecords (r := t) rfl (findThings_of_parsed hdata type _) (fun _ => rfl) hs
        hready hshallow hx (validated_searching hdata type)
        (fun t => holds_searching hdata type t.ofDocument_document) hmatch
    | _ => exact False.elim hsel
  | action a => cases call with
    | findActions filter options =>
      obtain ⟨rfl, ⟨f, hf⟩, hmatch⟩ := hsel
      have hparsed : parsed filter g = (.ok f, g) := by
        change (Filter.ofJson g.store.config.strictFilters filter, g) = _
        rw [hf]
      have hv : f.validated = .ok () := Filter.validated_of_isPath (Filter.isPath_of_ofJson filter hf)
      exact enumerates_findRecords (r := a) (m := Graph.findActions filter .unrestricted) rfl
        (bind_of_ok hparsed) (fun _ => rfl) hs hready hshallow hx hv
        (fun _ => Filter.holds_ofJson filter hf) hmatch
    | actionsOf id =>
      exact enumerates_findRecords (r := a) rfl rfl (fun _ => rfl) hs hready hshallow hx rfl
        (fun a => a.holds_concerning id) hsel
    | _ => exact False.elim hsel
  | relationship r => cases call with
    | relationsFrom source v =>
      have hv : (Relationship.withEnd "from" source v).validated = .ok () := by cases v <;> rfl
      exact enumerates_findRecords (r := r) rfl rfl (fun _ => rfl) hs hready hshallow hx hv
        (fun r => r.holds_withEnd_from source v) hsel
    | relationsTo target v =>
      have hv : (Relationship.withEnd "to" target v).validated = .ok () := by cases v <;> rfl
      exact enumerates_findRecords (r := r) rfl rfl (fun _ => rfl) hs hready hshallow hx hv
        (fun r => r.holds_withEnd_to target v) hsel
    | _ => exact False.elim hsel

/-- The record is stored, and whatever reads it gets it: a call that reads presents nothing else under
its key; looking it up gives it unless it nests too deep; and listing or finding gives it once, if
everything in its collection can be read. -/
structure Returns (g : Graph) (x : GraphRecord) : Prop where
  stored : g.Stores x
  presented : ∀ (call : GraphCall) (reply : GraphReply) (h : Graph), call.writes = [] →
    call.run g = (.ok reply, h) → ∀ y ∈ reply.records, y.collection = x.collection →
      y.key = x.key → y.Reflects x
  lookedUp : g.store.Ready → LooksUp x.lookup g x
  enumerated : g.store.Ready →
    (∀ d ∈ g.entries.shelf x.collection.name, d.2.depth ≤ readingLimit) →
      ∀ call : GraphCall, call.Selects g.store.config.strictFilters x → Enumerates call g x

theorem Orderly.returns (hg : g.Orderly) (hx : g.Stores x) : g.Returns x :=
  ⟨hx, fun _ _ _ hreads hrun y hy hcollection hkey =>
      (hg.run_presents hreads hrun y hy).reflects hx hcollection hkey,
    fun hready => hg.looksUp hready hx,
    fun hready hshallow _ hsel => hg.enumerates hready hx hshallow hsel⟩

/-- In a session that writes to the graph's collections by its calls only, a record that a call hands
out is the one that is stored, looked up, listed and found, until a call changes what lies under its
key, and a new graph over the same store returns it too. It comes back as it was handed out, except
that a payload of null may be unset. -/
theorem returns_handed {earlier later : List GraphStep} {s : GraphStep}
    (hsession : Session collectionNames (earlier ++ s :: later) g)
    (hwf : ∀ c ∈ earlier ++ s :: later, c.call.WellFormed) (hs : s.handed? = some x)
    (hkept : ∀ c ∈ later, ¬ c.Changes x) :
    g.Returns x ∧ (∀ tails, (ofStore g.store tails).Returns x) ∧
      (x.payload ≠ some .null → ∀ y : GraphRecord, y.Reflects x → y = x) := by
  have hstored := hsession.stores x.collection_name_mem rfl hs hkept
  refine ⟨(hsession.orderly hwf).returns hstored, fun tails => ?_, fun hpayload y hy => hy.eq hpayload⟩
  have hrenewed : Session collectionNames (earlier ++ s :: later) (ofStore g.store tails) :=
    .renewed g.store tails hsession fun _ _ => rfl
  exact (hrenewed.orderly hwf).returns (hrenewed.stores x.collection_name_mem rfl hs hkept)

/-- An edge with a payload of null is handed out with it, and comes back without one. -/
theorem returns_handed_null_payload :
    ∃ (s : GraphStep) (g : Graph) (r : Relationship),
      s.call = .relate "a" "knows" "b" .direct (some .null) ∧
      Session collectionNames [s] g ∧ g.store.Ready ∧ s.handed? = some (.relationship r) ∧
      r.data = some .null ∧ ∃ h, relationship r.id g = (.ok (some { r with data := none }), h) := by
  let store : Store := ⟨.initial, .empty, .zero, [], .still 0⟩
  let start : Graph := ofStore store fun _ => 0
  have hstart : start.store.Ready := ⟨rfl, rfl⟩
  obtain ⟨r, g, hrelate, hready, -⟩ := (assured_relate (by decide : "a" ≠ "")
    (by decide : "knows" ≠ "") (by decide : "b" ≠ "") .direct (some .null)).of_ready hstart
  obtain ⟨hr, -⟩ := relate_of_ok hrelate
  let s : GraphStep :=
    ⟨start, .relate "a" "knows" "b" .direct (some .null), .ok (.relationship r)⟩
  have hrun : s.call.run start = (s.outcome, g) := bind_of_ok hrelate
  have hsession : Session collectionNames ([] ++ [s]) g :=
    .called (.opened store (fun _ => 0) fun _ _ => rfl) hrun
  have hwf : ∀ c ∈ [] ++ [s], c.call.WellFormed := by
    refine List.forall_mem_singleton.mpr ⟨?_, trivial, trivial⟩
    rintro j ⟨⟩
    trivial
  have hdata : r.data = some .null := congrArg Relationship.data hr
  refine ⟨s, g, r, rfl, hsession, hready, rfl, hdata, ?_⟩
  obtain ⟨hreturns, -⟩ := returns_handed hsession hwf
    (rfl : s.handed? = some (.relationship r)) (List.forall_mem_nil _)
  obtain ⟨reply, h, y, hlookup, hrecords, hy⟩ | ⟨hdeep, -⟩ := hreturns.lookedUp hready
  · obtain ⟨found, hget, rfl⟩ := value_of_map hlookup
    have hback : r.readBack = { r with data := none } := by
      rw [Relationship.readBack, hdata]
      rfl
    obtain rfl | ⟨hcollection, -⟩ := hy
    · cases found with
      | none => cases hrecords
      | some q =>
        cases hrecords
        exact ⟨h, hback ▸ hget⟩
    · have hne : relationshipCollection ≠ nounCollection := by decide
      exact absurd hcollection hne
  · have hshallow : r.IsShallow := by
      rw [Relationship.IsShallow, hdata]
      rintro j ⟨⟩
      decide
    exact absurd (r.depth_document_le_iff.mpr hshallow) (Nat.not_le_of_lt hdeep)

end Graph

end DocumentGraph
