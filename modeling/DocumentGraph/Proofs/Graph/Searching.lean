import DocumentGraph.Proofs.Filter.Scope
import DocumentGraph.Proofs.Filter.Written
import DocumentGraph.Proofs.Graph.Session
set_option autoImplicit false

namespace DocumentGraph

open DocumentGraph.Graph

def Thing.dataField : Field := ⟨"data", by decide⟩

def Thing.isMatch (type : Option String) (filter : Json) (t : Thing) : Bool :=
  type.all (t.type = ·) && (Json.object t.data).satisfies filter

namespace Graph

def searching (type : Option String) (data : Filter) : Filter :=
  match type with
  | some type => .and [.equals "type" type, data.within "data"]
  | none => data.within "data"

variable {g : Graph} {type : Option String} {j : Json} {data : Filter} {strict : Bool}

theorem findThings_of_parsed (h : Filter.ofJson g.store.config.strictFilters j = .ok data)
    (type : Option String) (options : QueryOptions) :
    findThings type j options g =
      onStore (thingCollection.findRecords (searching type data) options) g := by
  have hparsed : parsed j g = (.ok data, g) := by
    change (Filter.ofJson g.store.config.strictFilters j, g) = _
    rw [h]
  refine (Operation.bind_of_ok hparsed).trans ?_
  cases type <;> rfl

theorem validated_searching (h : Filter.ofJson strict j = .ok data) (type : Option String) :
    (searching type data).validated = .ok () := by
  have hpath := Filter.isPath_within Thing.dataField (Filter.isPath_of_ofJson j h)
  refine Filter.validated_of_isPath ?_
  cases type with
  | none => exact hpath
  | some type =>
    rw [searching, Filter.fields, Filter.fieldsAll_eq_flatMap]
    simpa [Filter.equals, Filter.fields] using ⟨by decide, hpath⟩

theorem holds_searching (h : Filter.ofJson strict j = .ok data) (type : Option String) {doc : Json}
    {t : Thing} (ht : Record.ofDocument doc = .ok t) :
    (searching type data).holds doc = t.isMatch type j := by
  obtain ⟨htype, hdata⟩ := Thing.members_of_ofDocument ht
  have hat : doc.at? Thing.dataField = some (.object t.data) :=
    (Filter.at?_of_plain Thing.dataField.valid (by decide) doc).trans hdata
  have hwithin : (data.within "data").holds doc = (Json.object t.data).satisfies j := by
    rw [← Filter.holds_ofJson j h]
    exact Filter.holds_within hat data
  cases type with
  | none => exact hwithin
  | some type =>
    have hequals : (Filter.equals "type" type).holds doc = decide (t.type = type) := by
      rw [Bool.eq_iff_iff, Filter.holds_equals (by decide) (by decide), htype, decide_eq_true_eq,
        Option.some_inj, Json.string.injEq]
    rw [searching, Filter.holds, Filter.holdsForAll_eq_all]
    simp [hequals, hwithin, Thing.isMatch]

theorem recordsOf_of_things {h : Graph} {ts : List Thing}
    (hx : things .unrestricted g = (.ok ts, h)) :
    thingCollection.recordsOf (g.rows thingCollection.name) = .ok ts := by
  obtain ⟨t, hfind, -⟩ := onStore_eq hx
  have hvalid : Filter.all.validated = .ok () := rfl
  have hyields := thingCollection.findRecords_yields (α := Thing) g.store hvalid
  have hall : thingCollection.chosen .all g.store.entries = g.rows thingCollection.name :=
    List.filter_eq_self.mpr fun e _ => Filter.holds_all e.data
  rw [hall] at hyields
  exact (hyields.of_ok hfind).1

/-- Whatever the collection holds, if all things can be listed then finding gives those of them that
match, and it does give them if the engine is ready. -/
theorem findThings_of_things {h : Graph} {ts : List Thing}
    (hwf : ∀ e ∈ g.rows thingCollection.name, e.data.WellFormed)
    (hx : things .unrestricted g = (.ok ts, h))
    (hj : Filter.Parses g.store.config.strictFilters j) (type : Option String) :
    (∀ found k, findThings type j .unrestricted g = (.ok found, k) →
      found = ts.filter (·.isMatch type j)) ∧
      (g.store.Ready →
        ∃ k, findThings type j .unrestricted g = (.ok (ts.filter (·.isMatch type j)), k)) := by
  obtain ⟨data, hdata⟩ := hj
  have hyields := thingCollection.findRecords_yields (α := Thing) g.store
    (validated_searching hdata type)
  have hfound := thingCollection.recordsOf_filter hwf
    (fun e _ t ht => holds_searching hdata type ht) (recordsOf_of_things hx)
  change thingCollection.recordsOf (thingCollection.chosen _ g.store.entries) = _ at hfound
  rw [hfound] at hyields
  rw [findThings_of_parsed hdata]
  refine ⟨fun found k hfind => ?_, onStore_of_ready hyields⟩
  obtain ⟨t, ht, -⟩ := onStore_eq hfind
  exact Except.ok.inj (hyields.of_ok ht).1 |>.symm

theorem lists_things (hstocked : Stocked thingCollection.name g.entries) :
    ∃ list : List Thing, g.entries.shelf thingCollection.name = list.map Record.filed ∧
      Lists thingCollection id (things .unrestricted) g list ∧
      ∀ type j, Filter.Parses g.store.config.strictFilters j →
        Lists thingCollection id (findThings type j .unrestricted) g
          (list.filter (·.isMatch type j)) := by
  obtain ⟨list, hrows, -, hread⟩ := hstocked.exists_records (α := Thing)
  refine ⟨list, hrows, ?_, fun type j hj => ?_⟩
  · have hvalid : Filter.all.validated = .ok () := rfl
    have hlists := lists_findRecords thingCollection hrows hread hvalid fun t => Filter.holds_all _
    rwa [List.filter_eq_self.mpr fun _ _ => rfl] at hlists
  · obtain ⟨data, hdata⟩ := hj
    have hlists := lists_findRecords thingCollection hrows hread (validated_searching hdata type)
      fun t => holds_searching hdata type t.ofDocument_document
    exact hlists.congr thingCollection (findThings_of_parsed hdata type .unrestricted)

/-- Moving a filter with valid fields inside of a member makes it ask of a document what it asks of
the value in that member. So finding things gives exactly the listed ones of the type whose data
satisfy the filter, in their order, whatever members the data share with the things. In a session
that writes to the things by its calls only, things can be listed and found unless one of them nests
too deep; the first one that does is the error, and only if it is listed or matches. -/
theorem findThings_exact {steps : List GraphStep} (hsession : Session [thingCollection.name] steps g)
    (hwf : ∀ s ∈ steps, s.call.WellFormed) :
    (∀ (scope : Field) (filter : Filter), (∀ name ∈ filter.fields, Field.isPath name = true) →
      ∃ p q, filter.compile = .ok p ∧ (filter.within scope.name).compile = .ok q ∧
        ∀ outer inner, outer.at? scope = some inner → q.selects outer = p.selects inner) ∧
      (∀ k : Graph, (∀ e ∈ k.rows thingCollection.name, e.data.WellFormed) →
        ∀ ts h, things .unrestricted k = (.ok ts, h) →
          ∀ type j, Filter.Parses k.store.config.strictFilters j →
            (∀ found h, findThings type j .unrestricted k = (.ok found, h) →
              found = ts.filter (·.isMatch type j)) ∧
            (k.store.Ready →
              ∃ h, findThings type j .unrestricted k = (.ok (ts.filter (·.isMatch type j)), h))) ∧
      ∃ list : List Thing, g.entries.shelf thingCollection.name = list.map Record.filed ∧
        Lists thingCollection id (things .unrestricted) g list ∧
        ∀ type j, Filter.Parses g.store.config.strictFilters j →
          Lists thingCollection id (findThings type j .unrestricted) g
            (list.filter (·.isMatch type j)) := by
  have hguarded : [thingCollection.name] ⊆ collectionNames := by decide
  refine ⟨fun scope filter => Filter.selects_within scope, fun k hk ts h hx type j hj => ?_, ?_⟩
  · exact findThings_of_things hk hx hj type
  · exact lists_things (hsession.stocked hguarded hwf List.mem_cons_self)

/-- The data of a note have a member that is named like the id of a thing, and another thing nests too
deep: the note is found by its data and not by its id, and only listing fails. -/
theorem findThings_exact_shared_name :
    let store : Store := ⟨.initial, .empty, .zero, [], .still 0⟩
    let calls : List GraphCall :=
      [.createThing "Tree" (.object [("a", .nested 126)]) (some "x"),
        .createThing "Note" (.object [("id", .string "z")]) (some "y")]
    ∃ steps g, steps.map (·.call) = calls ∧ Session [thingCollection.name] steps g ∧
      g.store.Ready ∧ g.store.config = store.config ∧
      (∃ t h, findThings (some "Note") (.object [("id", .string "z")]) .unrestricted g =
        (.ok [t], h) ∧ t.id = "y") ∧
      (∃ h, findThings none (.object [("id", .string "y")]) .unrestricted g = (.ok [], h)) ∧
      ∃ cause h, things .unrestricted g =
        (.error (.corrupted thingCollection.name "x" (.unreadable cause)), h) := by
  intro store calls
  let tree : Json := .object [("a", .nested 126)]
  let note : Json := .object [("id", .string "z")]
  let start : Graph := ofStore store fun _ => 0
  have hstart : start.store.Ready := ⟨rfl, rfl⟩
  obtain ⟨x, k, hx, hk, -⟩ := (assured_createThing (by decide : "Tree" ≠ "")
    (rfl : tree.isObject = true) (some "x") (by simp)).of_ready hstart
  obtain ⟨y, g, hy, hg, -⟩ := (assured_createThing (by decide : "Note" ≠ "")
    (rfl : note.isObject = true) (some "y") (by simp)).of_ready hk
  have hrunx : (GraphCall.createThing "Tree" tree (some "x")).run start = (.ok (.thing x), k) :=
    Operation.bind_of_ok hx
  have hruny : (GraphCall.createThing "Note" note (some "y")).run k = (.ok (.thing y), g) :=
    Operation.bind_of_ok hy
  have hsession : Session [thingCollection.name] _ g :=
    .called (.called (.opened store (fun _ => 0) (List.forall_mem_singleton.mpr rfl)) hrunx) hruny
  have hwf : ∀ s ∈ [(⟨start, .createThing "Tree" tree (some "x"), .ok (.thing x)⟩ : GraphStep),
      ⟨k, .createThing "Note" note (some "y"), .ok (.thing y)⟩], s.call.WellFormed := by
    refine List.forall_mem_cons.mpr ⟨⟨trivial, ?_, trivial⟩,
      List.forall_mem_singleton.mpr ⟨trivial, ?_, trivial⟩⟩
    · exact ⟨List.pairwise_singleton _ _, Json.wellFormed_nested 126, trivial⟩
    · exact ⟨List.pairwise_singleton _ _, trivial, trivial⟩
  have hconfig : g.store.config = store.config :=
    ((GraphCall.run_precedes hrunx).trans (GraphCall.run_precedes hruny)).keeps.config
  obtain ⟨-, -, rfl, hputx⟩ := createThing_creates hx
  obtain ⟨-, -, rfl, hputy⟩ := createThing_creates hy
  obtain ⟨-, -, list, hrows, hall, hfind⟩ := findThings_exact hsession hwf
  have hlist :
      [start.firstThing "Tree" tree (some "x"), k.firstThing "Note" note (some "y")] = list := by
    have hshelfx := hputx.shelf (show (start.entries.shelf thingCollection.name).ids.Nodup from .nil)
    have hshelfy := hputy.shelf (hshelfx ▸ List.pairwise_singleton _ _)
    rw [hshelfx] at hshelfy
    exact Kept.filed_injective.list_map (hshelfy.symm.trans hrows)
  subst hlist
  have hnote : (Json.object [("id", .string "z")]).satisfies note = true := by decide
  have hid :
      (Json.object [("id", .string "z")]).satisfies (.object [("id", .string "y")]) = false ∧
        (Json.object [("a", .nested 126)]).satisfies (.object [("id", .string "y")]) = false := by
    decide
  have hparses {id : String} :
      Filter.Parses g.store.config.strictFilters (.object [("id", .string id)]) := by
    rw [hconfig]
    exact ⟨_, rfl⟩
  refine ⟨_, g, rfl, hsession, hg, hconfig, ?_, ?_, ?_⟩
  · obtain ⟨-, hcomplete, -⟩ := hfind (some "Note") note hparses
    have hmatch : [start.firstThing "Tree" tree (some "x"),
        k.firstThing "Note" note (some "y")].filter (·.isMatch (some "Note") note) =
          [k.firstThing "Note" note (some "y")] := by
      simp [Thing.isMatch, firstThing, Thing.first, membersOf, tree, note, hnote]
    rw [hmatch] at hcomplete
    have hshallow : note.depth < readingLimit := by decide
    obtain ⟨h, hfound⟩ := hcomplete hg
      (List.forall_mem_singleton.mpr ((Thing.depth_document_le_iff _).mpr hshallow))
    exact ⟨_, h, hfound, rfl⟩
  · obtain ⟨-, hcomplete, -⟩ := hfind none (.object [("id", .string "y")]) hparses
    have hmatch : [start.firstThing "Tree" tree (some "x"),
        k.firstThing "Note" note (some "y")].filter
          (·.isMatch none (.object [("id", .string "y")])) = [] := by
      simp [Thing.isMatch, firstThing, Thing.first, membersOf, tree, note, hid]
    rw [hmatch] at hcomplete
    exact hcomplete hg (List.forall_mem_nil _)
  · have hdeep : ¬ (start.firstThing "Tree" tree (some "x")).IsShallow := by
      simp [Thing.IsShallow, firstThing, Thing.first, membersOf, tree, Json.depth,
        Json.membersDepth, Json.depth_nested, readingLimit]
    obtain ⟨cause, h, hfails⟩ := hall.deep hg [] _ _ rfl (List.forall_mem_nil _)
      (Nat.lt_of_not_le (mt (Thing.depth_document_le_iff _).mp hdeep))
    exact ⟨cause, h, hfails⟩

end Graph

end DocumentGraph
