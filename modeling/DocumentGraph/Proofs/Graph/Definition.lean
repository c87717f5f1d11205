import DocumentGraph.Proofs.Graph.Registry
set_option autoImplicit false

namespace DocumentGraph

open Operation DocumentGraph.Graph

/-- The noun that a call defined, with the time that it was given. -/
def GraphStep.definedNoun? (s : GraphStep) : Option Noun :=
  match s.call, s.outcome with
  | .defineNoun name d, .ok (.noun n) => some ⟨name, d.description, d.schema, n.createdAt⟩
  | _, _ => none

def GraphStep.definedVerb? (s : GraphStep) : Option Verb :=
  match s.call, s.outcome with
  | .defineVerb name d, .ok (.verb _) =>
    some ⟨name, d.description, d.cascade, d.fromTypes, d.toTypes⟩
  | _, _ => none

/-- Nouns that were defined under the same name have the same time. -/
def Noun.Dated (defined : List Noun) : Prop :=
  ∀ m ∈ defined, ∀ n ∈ defined, m.name = n.name → m.createdAt = n.createdAt

theorem Noun.Dated.snoc {defined : List Noun} (hd : Dated defined) {n : Noun}
    (hn : ∀ m ∈ defined, m.name = n.name → m.createdAt = n.createdAt) : Dated (defined ++ [n]) := by
  have hcases {m : Noun} (hm : m ∈ defined ++ [n]) : m ∈ defined ∨ m = n :=
    (List.mem_append.mp hm).imp_right List.mem_singleton.mp
  intro l hl m hm hname
  rcases hcases hl with hlold | rfl <;> rcases hcases hm with hmold | rfl
  · exact hd l hlold m hmold hname
  · exact hn l hlold hname
  · exact (hn m hmold hname.symm).symm
  · rfl

variable {g k : Graph} {name : String}

theorem defineNoun_cases {d : NounDefinition} {r : Except StoreError Noun}
    (hx : defineNoun name d g = (r, k)) :
    ((∃ e, r = .error e) ∧ k = g) ∨ name ≠ "" ∧
      ((∃ e, r = .error e ∧ noun name g = (.error e, k)) ∨
        ∃ (found : Option Noun) (h : Graph) (t : Store) (time : Int64),
          noun name g = (.ok found, h) ∧ h.store.Keeps t ∧ t.entries = h.entries ∧
            (∀ old, found = some old → time = old.createdAt) ∧
              nounRegistry.write ⟨name, d.description, d.schema, time⟩ { h with store := t } =
                (r, k)) := by
  have hcheck : check (validId name) g = (validId name, g) := rfl
  rw [defineNoun, bind_apply, hcheck] at hx
  cases hname : validId name with
  | error e =>
    rw [hname] at hx
    cases hx
    exact .inl ⟨⟨e, rfl⟩, rfl⟩
  | ok u =>
    rw [hname] at hx
    dsimp only at hx
    refine .inr ⟨validId_eq_ok.mp hname, ?_⟩
    rw [bind_apply] at hx
    rcases hnoun : noun name g with ⟨e | found, h⟩
    · rw [hnoun] at hx
      cases hx
      exact .inl ⟨e, rfl, rfl⟩
    · rw [hnoun] at hx
      cases found with
      | some old =>
        exact .inr ⟨_, h, h.store, old.createdAt, rfl, .refl _, rfl, by rintro _ ⟨⟩; rfl, hx⟩
      | none =>
        obtain ⟨t, hclock, hk, ht⟩ := Store.ends_readClock h.store
        have hnow : now h = (.ok h.store.clock.now, { h with store := t }) := by
          rw [now, onStore, hclock]
        refine .inr ⟨_, h, t, _, rfl, hk, ht, ?_, (bind_of_ok hnow).symm.trans hx⟩
        rintro _ ⟨⟩

theorem defineVerb_cases {d : VerbDefinition} {r : Except StoreError Verb}
    (hx : defineVerb name d g = (r, k)) :
    ((∃ e, r = .error e) ∧ k = g) ∨
      verbRegistry.write ⟨name, d.description, d.cascade, d.fromTypes, d.toTypes⟩ g = (r, k) := by
  have hcheck : check (validId name) g = (validId name, g) := rfl
  rw [defineVerb, bind_apply, hcheck] at hx
  cases hname : validId name with
  | error e =>
    rw [hname] at hx
    cases hx
    exact .inl ⟨⟨e, rfl⟩, rfl⟩
  | ok u =>
    rw [hname] at hx
    exact .inr hx

namespace Registry

/-- The time of a noun that is written is that of the one that was defined before. -/
theorem Tracks.defineNoun {defined : List Noun} (ht : nounRegistry.Tracks g defined)
    (hdated : Noun.Dated defined) {d : NounDefinition} (hd : ∀ j, d.schema = some j → j.WellFormed)
    {r : Except StoreError Noun} (hx : defineNoun name d g = (r, k)) :
    (∃ n : Noun, r = .ok n ∧ n = ⟨name, d.description, d.schema, n.createdAt⟩ ∧
        nounRegistry.Tracks k (defined ++ [n]) ∧ Noun.Dated (defined ++ [n])) ∨
      (∃ e, r = .error e) ∧ nounRegistry.Tracks k defined := by
  obtain ⟨herror, rfl⟩ | ⟨-, ⟨e, rfl, hnoun⟩ | ⟨found, h, t, time, hnoun, hk, he, htime, hwrite⟩⟩ :=
    defineNoun_cases hx
  · exact .inr ⟨herror, ht⟩
  · exact .inr ⟨⟨e, rfl⟩, ht.get hnoun⟩
  · have htracks : nounRegistry.Tracks { h with store := t } defined :=
      (ht.get hnoun).of_same (congrArg (Entries.rows _) he) (.inr rfl)
    refine (htracks.write (Noun.wellFormed_document _ hd) hwrite).imp_left fun ⟨hr, hwritten⟩ => ?_
    refine ⟨_, hr, rfl, hwritten, hdated.snoc fun m hm hname => ?_⟩
    obtain ⟨s, hs, hkey, hstored⟩ := ht.exists_documentAt hm
    have hsame : s.createdAt = time := by
      have hm : m.name = name := hname
      obtain ⟨hnone, -⟩ | ⟨q, -, hq, hread⟩ := ht.found hnoun
      · rw [← hm] at hnone
        cases hnone.symm.trans hstored
      · rw [← hm] at hq
        obtain rfl := Noun.document_injective (Option.some.inj (hstored.symm.trans hq))
        rcases hread with rfl | rfl
        · exact (htime _ rfl).symm
        · exact (htime _ rfl).symm
    exact (hdated m hm s hs hkey.symm).trans hsame

theorem Tracks.defineVerb {defined : List Verb} (ht : verbRegistry.Tracks g defined)
    {d : VerbDefinition} {r : Except StoreError Verb} (hx : defineVerb name d g = (r, k)) :
    (∃ v : Verb, r = .ok v ∧ v = ⟨name, d.description, d.cascade, d.fromTypes, d.toTypes⟩ ∧
        verbRegistry.Tracks k (defined ++ [v])) ∨
      (∃ e, r = .error e) ∧ verbRegistry.Tracks k defined := by
  obtain ⟨herror, rfl⟩ | hwrite := defineVerb_cases hx
  · exact .inr ⟨herror, ht⟩
  · exact (ht.write (Verb.wellFormed_document _) hwrite).imp_left fun ⟨hr, hwritten⟩ =>
      ⟨_, hr, rfl, hwritten⟩

end Registry

theorem noun_of_defineNoun {d : NounDefinition} {n : Noun}
    (hx : defineNoun name d g = (.ok n, k)) :
    n = ⟨name, d.description, d.schema, n.createdAt⟩ ∧ noun name k = (.ok (some n), k) := by
  obtain ⟨⟨e, he⟩, -⟩ | ⟨-, ⟨e, he, -⟩ | ⟨found, h, t, time, -, -, -, -, hwrite⟩⟩ :=
    defineNoun_cases hx
  · cases he
  · cases he
  · obtain ⟨l, -, hn, rfl⟩ | ⟨e, he, -⟩ := nounRegistry.write_cases hwrite
    · cases hn
      exact ⟨rfl, nounRegistry.get_recalled (Cache.find?_insert_self _ _ _)⟩
    · cases he

theorem defineNoun_of_found {found : Option Noun} {h : Graph} (hready : g.store.Ready)
    (hname : name ≠ "") (hfound : noun name g = (.ok found, h)) (d : NounDefinition) :
    ∃ n k, defineNoun name d g = (.ok n, k) ∧ k.store.Ready := by
  have hcheck : check (validId name) g = (.ok (), g) := by rw [check, validId_eq_ok.mpr hname]
  have hh : h.store.Ready := (reads_noun name g _ h hfound).1.keeps.ready hready
  have hwrite (time : Int64) :
      Assured (nounRegistry.write ⟨name, d.description, d.schema, time⟩) fun _ => True :=
    nounRegistry.assured_write hname
  cases found with
  | some old =>
    obtain ⟨n, k, hx, hk, -⟩ := (hwrite old.createdAt).of_ready hh
    exact ⟨n, k, (bind_of_ok hcheck).trans ((bind_of_ok hfound).trans hx), hk⟩
  | none =>
    obtain ⟨n, k, hx, hk, -⟩ := (assured_now.bind fun time _ => hwrite time).of_ready hh
    exact ⟨n, k, (bind_of_ok hcheck).trans ((bind_of_ok hfound).trans hx), hk⟩

/-- If the engine refuses nothing while it is open then a definition that fails has not even read. -/
theorem defineNoun_of_error {d : NounDefinition} {e : StoreError}
    (hx : defineNoun name d g = (.error e, k)) :
    k.entries = g.entries ∧ k.verbCache = g.verbCache ∧
      (g.store.database.refusal = none → k.nounCache = g.nounCache) := by
  have hverbs : k.verbCache = g.verbCache :=
    verbRegistry.frames_cache.defineNoun (fun _ _ => verbRegistry.cache_onStore _)
      (fun n _ _ _ hx => by cases hx; rfl) g _ k hx
  obtain ⟨-, rfl⟩ | ⟨hname, ⟨e, -, hnoun⟩ | ⟨found, h, t, time, hnoun, hk, he, -, hwrite⟩⟩ :=
    defineNoun_cases hx
  · exact ⟨rfl, rfl, fun _ => rfl⟩
  · refine ⟨(reads_noun name g _ k hnoun).2, hverbs, fun _ => ?_⟩
    obtain ⟨x, -, hfound, -⟩ | ⟨h, hget, rfl | ⟨x, hfound, -⟩⟩ :=
      nounRegistry.get_cases (show nounRegistry.get name g = _ from hnoun)
    · cases hfound
    · exact nounRegistry.cache_onStore _ g _ k hget
    · cases hfound
  · obtain ⟨hprecedes, hread⟩ := reads_noun name g _ h hnoun
    obtain ⟨-, -, hok, -⟩ | ⟨e, -, hput⟩ := nounRegistry.write_cases hwrite
    · cases hok
    · refine ⟨((entries_of_putRecord_error hput).trans he).trans hread, hverbs, fun hrefusal => ?_⟩
      have hcache := nounRegistry.cache_onStore _ _ _ k hput
      obtain ⟨x, -, -, rfl⟩ | ⟨l, hget, -⟩ :=
        nounRegistry.get_cases (show nounRegistry.get name g = _ from hnoun)
      · exact hcache
      · -- The engine has read the noun, so it is ready and writes the new one.
        obtain ⟨s, hs, -⟩ := onStore_eq hget
        have hready : t.Ready := hk.ready (hprecedes.keeps.ready
          ⟨Collection.isOpen_of_getRecord _ hs, hrefusal⟩)
        have hassured := nounRegistry.assured_write
          (x := ⟨name, d.description, d.schema, time⟩) hname
        obtain ⟨_, _, hok, -⟩ := hassured.of_ready (g := { h with store := t }) hready
        cases hok.symm.trans hwrite

theorem defineVerb_of_error {d : VerbDefinition} {e : StoreError}
    (hx : defineVerb name d g = (.error e, k)) :
    k.entries = g.entries ∧ k.nounCache = g.nounCache ∧ k.verbCache = g.verbCache := by
  obtain ⟨-, rfl⟩ | hwrite := defineVerb_cases hx
  · exact ⟨rfl, rfl, rfl⟩
  · obtain ⟨-, -, hok, -⟩ | ⟨e, -, hput⟩ := verbRegistry.write_cases hwrite
    · cases hok
    · exact ⟨entries_of_putRecord_error hput, nounRegistry.cache_onStore _ g _ k hput,
        verbRegistry.cache_onStore _ g _ k hput⟩

namespace GraphCall

variable {call : GraphCall} {outcome : Except StoreError GraphReply}

theorem untouched_nouns (hcall : call.isAboutNouns = false) (hx : call.run g = (outcome, k)) :
    k.rows nounCollection.name = g.rows nounCollection.name ∧ k.nounCache = g.nounCache := by
  have hwrites : nounCollection.name ∉ call.writes := by
    cases call with
    | defineNoun name d => cases hcall
    | elsewhere name outside call => exact not_mem_writes_elsewhere (by decide)
    | _ => simp [writes, nounCollection, verbCollection, thingCollection, actionCollection,
        relationshipCollection]
  refine ⟨(run_spares hwrites g _ k hx).2, ?_⟩
  refine run_remembers nounRegistry.frames_cache nounRegistry.cache_onStore ?_ ?_ g _ k hx
  · intro habout
    cases hcall.symm.trans habout
  · rintro - v g r h ⟨⟩
    rfl

theorem untouched_verbs (hcall : call.isAboutVerbs = false) (hx : call.run g = (outcome, k)) :
    k.rows verbCollection.name = g.rows verbCollection.name ∧ k.verbCache = g.verbCache := by
  have hwrites : verbCollection.name ∉ call.writes := by
    cases call with
    | defineVerb name d => cases hcall
    | elsewhere name outside call => exact not_mem_writes_elsewhere (by decide)
    | _ => simp [writes, nounCollection, verbCollection, thingCollection, actionCollection,
        relationshipCollection]
  refine ⟨(run_spares hwrites g _ k hx).2, ?_⟩
  refine run_remembers verbRegistry.frames_cache verbRegistry.cache_onStore ?_ ?_ g _ k hx
  · rintro - n g r h ⟨⟩
    rfl
  · intro habout
    cases hcall.symm.trans habout

theorem run_nouns {defined : List Noun} (ht : nounRegistry.Tracks g defined)
    (hdated : Noun.Dated defined) (hwf : call.WellFormed) (hx : call.run g = (outcome, k)) :
    nounRegistry.Tracks k (defined ++ (GraphStep.definedNoun? ⟨g, call, outcome⟩).toList) ∧
      Noun.Dated (defined ++ (GraphStep.definedNoun? ⟨g, call, outcome⟩).toList) := by
  have hsame {other : Option Noun} (hother : other = none) (hk : nounRegistry.Tracks k defined) :
      nounRegistry.Tracks k (defined ++ other.toList) ∧ Noun.Dated (defined ++ other.toList) := by
    rw [hother, Option.toList_none, List.append_nil]
    exact ⟨hk, hdated⟩
  cases hcall : call.isAboutNouns with
  | false =>
    obtain ⟨hrows, hcache⟩ := untouched_nouns hcall hx
    refine hsame ?_ (ht.of_same hrows (.inr hcache))
    cases call with
    | defineNoun name d => cases hcall
    | _ => rfl
  | true =>
    cases call with
    | defineNoun name d =>
      rw [run, bind_apply] at hx
      rcases hdefine : Graph.defineNoun name d g with ⟨e | n, h⟩
      all_goals
        rw [hdefine] at hx
        cases hx
        obtain ⟨m, hm, heq, htracks, hdated'⟩ | ⟨⟨e, he⟩, htracks⟩ :=
          ht.defineNoun hdated hwf.schema hdefine
      · cases hm
      · exact hsame rfl htracks
      · cases hm
        have hdefined : GraphStep.definedNoun? ⟨g, .defineNoun name d, .ok (.noun n)⟩ = some n :=
          congrArg some heq.symm
        rw [hdefined]
        exact ⟨htracks, hdated'⟩
      · cases he
    | noun name =>
      obtain ⟨r, hget⟩ := exists_of_map hx
      exact hsame rfl (ht.get hget)
    | hasNoun name =>
      obtain ⟨r, hhas⟩ := exists_of_map hx
      obtain ⟨q, hget⟩ := exists_of_map hhas
      exact hsame rfl (ht.get hget)
    | _ => cases hcall

theorem run_verbs {defined : List Verb} (ht : verbRegistry.Tracks g defined)
    (hx : call.run g = (outcome, k)) :
    verbRegistry.Tracks k (defined ++ (GraphStep.definedVerb? ⟨g, call, outcome⟩).toList) := by
  have hsame {other : Option Verb} (hother : other = none) (hk : verbRegistry.Tracks k defined) :
      verbRegistry.Tracks k (defined ++ other.toList) := by
    rwa [hother, Option.toList_none, List.append_nil]
  cases hcall : call.isAboutVerbs with
  | false =>
    obtain ⟨hrows, hcache⟩ := untouched_verbs hcall hx
    refine hsame ?_ (ht.of_same hrows (.inr hcache))
    cases call with
    | defineVerb name d => cases hcall
    | _ => rfl
  | true =>
    cases call with
    | defineVerb name d =>
      rw [run, bind_apply] at hx
      rcases hdefine : Graph.defineVerb name d g with ⟨e | v, h⟩
      all_goals
        rw [hdefine] at hx
        cases hx
        obtain ⟨w, hw, heq, htracks⟩ | ⟨⟨e, he⟩, htracks⟩ := ht.defineVerb hdefine
      · cases hw
      · exact hsame rfl htracks
      · cases hw
        have hdefined : GraphStep.definedVerb? ⟨g, .defineVerb name d, .ok (.verb v)⟩ = some v :=
          congrArg some heq.symm
        rw [hdefined]
        exact htracks
      · cases he
    | verb name =>
      obtain ⟨r, hget⟩ := exists_of_map hx
      exact hsame rfl (ht.get hget)
    | hasVerb name =>
      obtain ⟨r, hhas⟩ := exists_of_map hx
      obtain ⟨q, hget⟩ := exists_of_map hhas
      exact hsame rfl (ht.get hget)
    | _ => cases hcall

end GraphCall

namespace Graph

variable {guarded : List String} {steps : List GraphStep} {α : Type} [Record α] [Kept α]

theorem tracks_of_empty {R : Registry α} (hempty : g.rows (Kept.collection α).name = [])
    (hcache : R.cache g = []) : R.Tracks g [] := by
  refine ⟨.of_empty hempty, congrArg (List.map Entries.pair) hempty, ?_⟩
  rw [hcache]
  exact List.forall_mem_nil _

theorem Session.nouns (hsession : Session guarded steps g)
    (hname : nounCollection.name ∈ guarded) (hwf : ∀ s ∈ steps, s.call.WellFormed) :
    nounRegistry.Tracks g (steps.filterMap GraphStep.definedNoun?) ∧
      Noun.Dated (steps.filterMap GraphStep.definedNoun?) := by
  induction hsession with
  | opened store tails empty => exact ⟨tracks_of_empty (empty _ hname) rfl, nofun⟩
  | called init step ih =>
    obtain ⟨hinit, hlast⟩ := List.forall_mem_append.mp hwf
    obtain ⟨ht, hdated⟩ := ih hinit
    rw [List.filterMap_append]
    exact GraphCall.run_nouns ht hdated (hlast _ List.mem_cons_self) step
  | amid store init same ih =>
    exact (ih hwf).imp_left fun ht => ht.of_same (same _ hname) (.inr rfl)
  | renewed store tails init same ih =>
    exact (ih hwf).imp_left fun ht => ht.of_same (same _ hname) (.inl rfl)

theorem Session.verbs (hsession : Session guarded steps g)
    (hname : verbCollection.name ∈ guarded) :
    verbRegistry.Tracks g (steps.filterMap GraphStep.definedVerb?) := by
  induction hsession with
  | opened store tails empty => exact tracks_of_empty (empty _ hname) rfl
  | called init step ih =>
    rw [List.filterMap_append]
    exact GraphCall.run_verbs ih step
  | amid store init same ih => exact ih.of_same (same _ hname) (.inr rfl)
  | renewed store tails init same ih => exact ih.of_same (same _ hname) (.inl rfl)

/-- Between the calls of a session both registries serve what has been defined so far, and all nouns
that were defined under one name have the same time. A definition that fails changes no entry and
nothing that is remembered; only if the engine is told to refuse a statement, it may be remembered what
was stored before. -/
theorem registries_serve (hsession : Session [nounCollection.name, verbCollection.name] steps g)
    (hwf : ∀ s ∈ steps, s.call.WellFormed) :
    nounRegistry.Serves g (steps.filterMap GraphStep.definedNoun?) ∧
      verbRegistry.Serves g (steps.filterMap GraphStep.definedVerb?) ∧
      Noun.Dated (steps.filterMap GraphStep.definedNoun?) ∧
      (∀ name d e k, defineNoun name d g = (.error e, k) →
        k.entries = g.entries ∧ k.verbCache = g.verbCache ∧
          (g.store.database.refusal = none → k.nounCache = g.nounCache)) ∧
      ∀ name d e k, defineVerb name d g = (.error e, k) →
        k.entries = g.entries ∧ k.nounCache = g.nounCache ∧ k.verbCache = g.verbCache := by
  obtain ⟨hnouns, hdated⟩ := hsession.nouns List.mem_cons_self hwf
  have hverbs := hsession.verbs (List.mem_cons_of_mem _ List.mem_cons_self)
  exact ⟨hnouns.serves, hverbs.serves, hdated, fun _ _ _ _ => defineNoun_of_error,
    fun _ _ _ _ => defineVerb_of_error⟩

/-- A noun whose schema nests too deep is looked up while it is remembered, but neither reading it from
the store nor listing succeeds. -/
theorem registries_serve_deep_schema :
    let d : NounDefinition := ⟨none, some (.nested 127)⟩
    ∃ (steps : List GraphStep) (g : Graph) (n : Noun),
      steps.map (·.call) = [.defineNoun "Note" d] ∧
      Session [nounCollection.name, verbCollection.name] steps g ∧ g.store.Ready ∧
      n.schema = d.schema ∧ noun "Note" g = (.ok (some n), g) ∧
      (∃ cause h, onStore (nounCollection.getRecord "Note" : StoreM (Option Noun)) g =
        (.error (.corrupted nounCollection.name "Note" (.unreadable cause)), h)) ∧
      ∃ cause h, nouns g =
        (.error (.corrupted nounCollection.name "Note" (.unreadable cause)), h) := by
  intro d
  let store : Store := ⟨.initial, .empty, .zero, [], .still 0⟩
  let start : Graph := ofStore store fun _ => 0
  have hopened : Session [nounCollection.name, verbCollection.name] [] start :=
    .opened store (fun _ => 0) fun _ _ => rfl
  have hstart : start.store.Ready := ⟨rfl, rfl⟩
  obtain ⟨hempty, -⟩ := registries_serve hopened (List.forall_mem_nil _)
  obtain ⟨found, h, hread⟩ := hempty.reads hstart "Note" (by rintro doc ⟨⟩)
  obtain ⟨⟨r, k, hget, -⟩, -⟩ := hempty.answers "Note" found h hread
  obtain ⟨n, g, hdefine, hready⟩ := defineNoun_of_found hstart (by decide) hget d
  obtain ⟨hn, hrecalled⟩ := noun_of_defineNoun hdefine
  have hrun : (GraphCall.defineNoun "Note" d).run start = (.ok (.noun n), g) := bind_of_ok hdefine
  have hsession : Session [nounCollection.name, verbCollection.name] _ g := .called hopened hrun
  have hwf : ∀ s ∈ [(⟨start, .defineNoun "Note" d, .ok (.noun n)⟩ : GraphStep)],
      s.call.WellFormed := by
    refine List.forall_mem_singleton.mpr ⟨trivial, trivial, ?_⟩
    rintro j ⟨⟩
    exact Json.wellFormed_nested 127
  obtain ⟨hserves, -⟩ := registries_serve hsession hwf
  have hdefined : GraphStep.definedNoun? ⟨start, .defineNoun "Note" d, .ok (.noun n)⟩ = some n :=
    congrArg some hn.symm
  have hshelf : g.entries.shelf nounCollection.name = [Record.filed n] := by
    have hregistered := hserves.shelf
    rw [List.nil_append, List.filterMap_cons_some hdefined] at hregistered
    exact hregistered
  have hdeep : readingLimit < (Record.document n).depth := by
    refine Nat.lt_of_not_le (mt n.depth_document_le_iff.mp fun hshallow => ?_)
    have hdepth := hshallow (.nested 127) (congrArg Noun.schema hn)
    rw [Json.depth_nested] at hdepth
    exact absurd hdepth (by decide)
  have hstored : documentAt nounCollection "Note" g = some (Record.document n) := by
    rw [documentAt, Entries.fetch_pair, hshelf, hn]
    rfl
  refine ⟨_, g, n, rfl, hsession, hready, congrArg Noun.schema hn, hrecalled, ?_, ?_⟩
  · exact hserves.deep hready "Note" _ hstored hdeep
  · obtain ⟨list, hlist, -, hlists⟩ := hserves.listed
    obtain ⟨m, rfl, hm⟩ := List.map_eq_singleton_iff.mp (hlist.symm.trans hshelf)
    obtain rfl := Kept.filed_injective hm
    obtain ⟨cause, l, hfails⟩ := hlists.deep hready [] m [] rfl (List.forall_mem_nil _) hdeep
    have hname : Record.key m = "Note" := congrArg Noun.name hn
    rw [hname] at hfails
    exact ⟨cause, l, hfails⟩

end Graph

end DocumentGraph
