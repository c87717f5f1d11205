import DocumentGraph.Proofs.Graph.Calls
import DocumentGraph.Proofs.Store.Finding
import DocumentGraph.Proofs.Store.Strictness
set_option autoImplicit false

namespace DocumentGraph

open Operation

namespace Graph

/-- The second graph is lenient, ready and has the contents of the first one, also in its memory. -/
structure Loosened (g h : Graph) : Prop where
  store : g.store.Loosened h.store
  nouns : h.nounCache = g.nounCache
  verbs : h.verbCache = g.verbCache

variable {α : Type}

theorem carries_onStore {x : StoreM α} (hx : Carries Store.Loosened x) : Carries Loosened (onStore x) := by
  intro g h a g' hgh hm
  obtain ⟨s, hs, rfl⟩ := onStore_eq hm
  obtain ⟨t, ht, hst⟩ := hx _ _ a s hgh.store hs
  exact ⟨{ h with store := t }, by rw [onStore, ht], hst, hgh.nouns, hgh.verbs⟩

theorem carries_parsed (filter : Json) : Carries Loosened (parsed filter) :=
  carries_onStore (Collection.carries_parsed filter)

theorem carries_countWhere (c : Collection) (filter : Filter) :
    Carries Loosened (onStore (c.countWhere filter)) :=
  carries_onStore (c.carries_countWhere filter)

theorem carries_getRecord [Record α] (c : Collection) (id : String) :
    Carries Loosened (onStore (c.getRecord id : StoreM (Option α))) :=
  carries_onStore (c.carries_getRecord id)

theorem carries_findRecords [Record α] (c : Collection) (filter : Filter) (options : QueryOptions) :
    Carries Loosened (onStore (c.findRecords filter options : StoreM (List α))) :=
  carries_onStore (c.carries_findRecords filter options)

theorem carries_findThings (type : Option String) (filter : Json) (options : QueryOptions) :
    Carries Loosened (findThings type filter options) :=
  (carries_parsed filter).bind fun _ => carries_findRecords _ _ _

theorem carries_findActions (filter : Json) (options : QueryOptions) :
    Carries Loosened (findActions filter options) :=
  (carries_parsed filter).bind fun _ => carries_findRecords _ _ _

theorem carries_countActions (filter : Json) : Carries Loosened (countActions filter) :=
  (carries_parsed filter).bind fun _ => carries_countWhere _ _

theorem carries_thingsAt (ids : List String) : Carries Loosened (thingsAt ids) := by
  induction ids with
  | nil => exact carries_pure []
  | cons id rest ih => exact (carries_getRecord _ id).bind fun _ => ih.map _

theorem carries_relationsAt (member id : String) (verb : Option String) :
    Carries Loosened (relationsAt member id verb) :=
  carries_findRecords _ _ _

theorem carries_stats : Carries Loosened stats :=
  (carries_countWhere _ _).bind fun _ => (carries_countWhere _ _).bind fun _ =>
    (carries_countWhere _ _).bind fun _ => (carries_countWhere _ _).bind fun _ =>
      (carries_countWhere _ _).map _

theorem carries_recalledNoun (name : String) : Carries Loosened (recalledNoun name) := by
  intro g h found g' hgh hm
  cases hm
  exact ⟨h, by rw [recalledNoun, hgh.nouns], hgh⟩

theorem carries_recalledVerb (name : String) : Carries Loosened (recalledVerb name) := by
  intro g h found g' hgh hm
  cases hm
  exact ⟨h, by rw [recalledVerb, hgh.verbs], hgh⟩

theorem carries_modify {f : Graph → Graph} (hf : ∀ {g h : Graph}, g.Loosened h → (f g).Loosened (f h)) :
    Carries Loosened (modify f) := by
  intro g h u g' hgh hm
  cases hm
  exact ⟨f h, rfl, hf hgh⟩

theorem carries_setMatcher (matcher : Option Matcher) :
    Carries Loosened (modify fun g => { g with matcher := matcher }) :=
  carries_modify fun hgh => ⟨hgh.store, hgh.nouns, hgh.verbs⟩

theorem carries_rememberNoun (n : Noun) : Carries Loosened (rememberNoun n) :=
  carries_modify fun hgh => ⟨hgh.store, by rw [hgh.nouns], hgh.verbs⟩

theorem carries_rememberVerb (v : Verb) : Carries Loosened (rememberVerb v) :=
  carries_modify fun hgh => ⟨hgh.store, hgh.nouns, by rw [hgh.verbs]⟩

theorem carries_noun (name : String) : Carries Loosened (noun name) := by
  refine (carries_recalledNoun name).bind fun recalled => ?_
  cases recalled with
  | some n => exact carries_pure _
  | none =>
    refine (carries_getRecord _ name).bind fun found => ?_
    cases found with
    | some n => exact (carries_rememberNoun n).map _
    | none => exact carries_pure _

theorem carries_verb (name : String) : Carries Loosened (verb name) := by
  refine (carries_recalledVerb name).bind fun recalled => ?_
  cases recalled with
  | some v => exact carries_pure _
  | none =>
    refine (carries_getRecord _ name).bind fun found => ?_
    cases found with
    | some v => exact (carries_rememberVerb v).map _
    | none => exact carries_pure _

end Graph

open DocumentGraph.Graph

/-- A call that writes nothing and succeeds gives the same on a lenient graph with the same contents. -/
theorem GraphCall.run_carries {call : GraphCall} (h : call.writes = []) : Carries Graph.Loosened call.run := by
  cases call with
  | thing id => exact (carries_getRecord _ id).map _
  | findThings type filter options => exact (carries_findThings type filter options).map _
  | countThings type => exact (carries_countWhere _ _).map _
  | things options => exact (carries_findRecords _ _ options).map _
  | action id => exact (carries_getRecord _ id).map _
  | findActions filter options => exact (carries_findActions filter options).map _
  | actionsOf id => exact (carries_findRecords _ _ _).map _
  | countActions filter => exact (carries_countActions filter).map _
  | relationship id => exact (carries_getRecord _ id).map _
  | relationsFrom source v => exact (carries_relationsAt _ source v).map _
  | relationsTo target v => exact (carries_relationsAt _ target v).map _
  | countRelationships => exact (carries_countWhere _ _).map _
  | traverse source v => exact ((carries_relationsAt _ source _).bind fun _ => carries_thingsAt _).map _
  | traverseBack target v => exact ((carries_relationsAt _ target _).bind fun _ => carries_thingsAt _).map _
  | setMatcher matcher => exact (carries_setMatcher matcher).map _
  | noun key => exact (carries_noun key).map _
  | hasNoun key => exact ((carries_noun key).map _).map _
  | nouns => exact (carries_findRecords _ _ _).map _
  | verb key => exact (carries_verb key).map _
  | hasVerb key => exact ((carries_verb key).map _).map _
  | verbs => exact (carries_findRecords _ _ _).map _
  | stats => exact carries_stats.map _
  | _ => cases h

/-- Strict reading gives the filter of lenient reading, or its error, or the error about an unknown
operator, which lenient reading never gives. So a query that succeeds on a strict store or graph gives the
same on a lenient one with the same contents. -/
theorem strictness_adds_unknownOperator :
    (∀ j, (∀ f, Filter.ofJson true j = .ok f → Filter.ofJson false j = .ok f) ∧
      (∀ e, Filter.ofJson true j = .error e → (∀ name, e ≠ .unknownOperator name) →
        Filter.ofJson false j = .error e) ∧
      (∀ e, Filter.ofJson false j = .error e → Filter.ofJson true j = .error e ∨
        ∃ name, Filter.ofJson true j = .error (.unknownOperator name)) ∧
      ∀ name, Filter.ofJson false j ≠ .error (.unknownOperator name)) ∧
    (∀ (c : Collection) (call : CollectionCall) (s t : Store), call.isQuery = true →
      s.config.strictFilters = true → s.Loosened t → ∀ reply s', call.run c s = (.ok reply, s') →
        ∃ t', call.run c t = (.ok reply, t')) ∧
    ∀ (call : GraphCall) (g h : Graph), call.writes = [] →
      g.store.config.strictFilters = true → g.Loosened h → ∀ reply g', call.run g = (.ok reply, g') →
        ∃ h', call.run h = (.ok reply, h') := by
  refine ⟨fun j => ?_, fun c call s t hquery _ hst reply s' hrun => ?_,
    fun call g h hwrites _ hgh reply g' hrun => ?_⟩
  · have htightens := Filter.tightens_ofJson j
    exact ⟨fun f => htightens.ok_of_strict, fun e => htightens.error_of_strict,
      fun e => htightens.error_of_lenient, htightens.known⟩
  · obtain ⟨t', ht', -⟩ := CollectionCall.run_carries c hquery s t reply s' hst hrun
    exact ⟨t', ht'⟩
  · obtain ⟨h', hh', -⟩ := GraphCall.run_carries hwrites g h reply g' hgh hrun
    exact ⟨h', hh'⟩

/-- A query with a literal object finds the same document on a strict and on a lenient store. In front of a bad
name, only strict reading stops at a key that looks like an operator. -/
theorem strictness_adds_unknownOperator_literal :
    let doc : Json := .object [("a", .object [("near", .null)])]
    let db : Database := Database.empty.withEntries "documents" [⟨"c", "x", doc, 0, 0⟩]
    let s : Store := ⟨{ Config.initial with strictFilters := true }, db, .zero, [], .still 0⟩
    let t : Store := ⟨.initial, db, .zero, [], .still 1⟩
    let call : CollectionCall := .find doc .unrestricted
    let j : Json := .object [("a", .object [("$near", .null)]), ("b..c", .null)]
    (∃ s', call.run ⟨"c"⟩ s = (.ok (.values [doc]), s')) ∧
      (∃ t', call.run ⟨"c"⟩ t = (.ok (.values [doc]), t')) ∧
        Filter.ofJson false j = .error (.invalidFieldName "b..c") ∧
          ∃ name, Filter.ofJson true j = .error (.unknownOperator name) := by
  intro doc db s t call j
  have hrows : s.entries.rows "c" = [⟨"c", "x", doc, 0, 0⟩] := by
    rw [show s.entries = [⟨"c", "x", doc, 0, 0⟩] from Database.entries_withEntries _ _ _]
    rfl
  have hdoc : doc.WellFormed :=
    ⟨List.pairwise_singleton _ _, ⟨List.pairwise_singleton _ _, trivial, trivial⟩, trivial⟩
  have hgives := Collection.gives_find ⟨"c"⟩ (s := s) (j := doc) ⟨_, rfl⟩ (by
    rw [hrows]
    exact List.forall_mem_singleton.mpr hdoc)
  have hfound : Collection.satisfying ⟨"c"⟩ doc s.entries = [⟨"c", "x", doc, 0, 0⟩] := by
    rw [Collection.satisfying, hrows]
    rfl
  rw [hfound] at hgives
  obtain ⟨s', hs', -⟩ := (hgives.complete (by
    simp [doc, Json.depth, Json.membersDepth, readingLimit])).of_ready ⟨rfl, rfl⟩
  have hrun : call.run ⟨"c"⟩ s = (.ok (.values [doc]), s') := Operation.bind_of_ok hs'
  obtain ⟨hread, hquery, -⟩ := strictness_adds_unknownOperator
  obtain ⟨t', ht'⟩ := hquery ⟨"c"⟩ call s t rfl rfl ⟨rfl, ⟨rfl, rfl⟩, rfl⟩ _ s' hrun
  obtain ⟨-, -, hlenient, -⟩ := hread j
  have hname : Filter.ofJson false j = .error (.invalidFieldName "b..c") := rfl
  have hstrict : Filter.ofJson true j ≠ .error (.invalidFieldName "b..c") := by
    have hunknown : Filter.ofJson true j = .error (.unknownOperator "$near") := rfl
    rw [hunknown]
    intro h
    cases h
  exact ⟨⟨s', hrun⟩, ⟨t', ht'⟩, hname, (hlenient _ hname).resolve_left hstrict⟩

end DocumentGraph
