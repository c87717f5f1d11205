import DocumentGraph.Proofs.Graph.Rejection
set_option autoImplicit false

namespace DocumentGraph

open Operation DocumentGraph.Graph

namespace Graph

variable {g h k : Graph}

def Created (t : Thing) (g h : Graph) : Prop :=
  ∃ (a : Action) (filed logged : Int64), a.toActionEntry = .about "created" t.id ∧
    h.entries = (g.entries.put thingCollection.name t.id (Record.document t) filed).put
      actionCollection.name a.id (Record.document a) logged

theorem entries_putRecord {c : Collection} {ρ : Type} [Record ρ] {r : ρ} {u : Unit}
    (hx : onStore (c.putRecord r) g = (.ok u, h)) :
    h.entries = g.entries.put c.name (Record.key r) (Record.document r) g.store.clock.now := by
  obtain ⟨t, hput, rfl⟩ := onStore_eq hx
  exact (c.put_of_ok g.store hput).2

theorem entries_log {entry : ActionEntry} {a : Action} (hx : log entry g = (.ok a, h)) :
    a.toActionEntry = entry ∧ ∃ time : Int64,
      h.entries = g.entries.put actionCollection.name a.id (Record.document a) time := by
  obtain ⟨id, g₁, hid, hx⟩ := ok_of_bind hx
  obtain ⟨time, g₂, htime, hx⟩ := ok_of_bind hx
  obtain ⟨u, g₃, hput, hx⟩ := ok_of_bind hx
  cases hx
  refine ⟨rfl, g₂.store.clock.now, ?_⟩
  rw [entries_putRecord hput, (reads_now g₁ _ g₂ htime).2, (reads_newId "act" g _ g₁ hid).2]
  rfl

theorem createThing_of_ok {type : String} {data : Json} {t : Thing}
    (hx : createThing type data none g = (.ok t, h)) :
    data.isObject = true ∧ type ≠ "" ∧ t.id ≠ "" ∧ Created t g h := by
  obtain ⟨u, g₁, hdata, hx⟩ := ok_of_bind hx
  obtain ⟨v, g₂, htype, hx⟩ := ok_of_bind hx
  obtain ⟨id, g₃, hid, hx⟩ := ok_of_bind hx
  obtain ⟨time, g₄, htime, hx⟩ := ok_of_bind hx
  obtain ⟨w, g₅, hput, hx⟩ := ok_of_bind hx
  obtain ⟨a, g₆, hlog, hx⟩ := ok_of_bind hx
  have he₄ : g₄.entries = g.entries :=
    calc g₄.entries = g₃.entries := (reads_now _ _ _ htime).2
      _ = g₂.entries := (reads_newId _ _ _ _ hid).2
      _ = g₁.entries := (reads_check _ _ _ _ htype).2
      _ = g.entries := (reads_check _ _ _ _ hdata).2
  cases hx
  refine ⟨?_, ?_, (assured_newId _).of_ok hid, ?_⟩
  · exact validDocument_eq_ok.mp (congrArg Prod.fst hdata)
  · rintro rfl
    cases htype
  · obtain ⟨hentry, logged, hlogged⟩ := entries_log hlog
    refine ⟨a, g₄.store.clock.now, logged, hentry, ?_⟩
    rw [hlogged, entries_putRecord hput, he₄]
    rfl

theorem entries_createThing_ne {type : String} {data : Json} {id : Option String} {t : Thing}
    (hg : g.Audited) (hx : createThing type data id g = (.ok t, h)) : h.entries ≠ g.entries := by
  obtain ⟨-, actions, ⟨new, hnew, hpairs⟩, hlogged⟩ := logs_createThing type data id g t h hg hx
  intro he
  have hrows : h.logRows = g.logRows := congrArg (fun es => es.rows actionCollection.name) he
  obtain rfl : new = [] := by
    rw [hrows, List.self_eq_append_right] at hnew
    exact hnew
  obtain rfl : actions = [] := List.map_eq_nil_iff.mp hpairs.symm
  cases hlogged

def question (g : Graph) (type text : String) (threshold : Option Binary64) : Question :=
  ⟨type, text, threshold.getD g.store.config.effectiveThreshold⟩

/-- The matcher answers, but with nothing similar enough. -/
def Unmatched (g : Graph) (q : Question) : Prop :=
  ∃ (m : Matcher) (candidates : List Candidate), g.matcher = some m ∧ m q = .ok candidates ∧
    Candidate.best q.threshold candidates = none

variable {source verb type text : String} {data : Option Json} {threshold : Option Binary64}
  {candidates : List Candidate} {t : Binary64}

theorem ask_of_ok (hx : ask type text threshold g = (.ok (t, candidates), h)) :
    t = (g.question type text threshold).threshold ∧
      ∃ m, g.matcher = some m ∧ m (g.question type text threshold) = .ok candidates := by
  unfold ask at hx
  split at hx
  · cases hx
  · rename_i m hm
    dsimp only at hx
    split at hx
    · rename_i cs hcs
      cases hx
      exact ⟨rfl, m, hm, hcs⟩
    · cases hx

theorem ask_of_answer {m : Matcher} (hmatcher : g.matcher = some m)
    (hanswer : m (g.question type text threshold) = .ok candidates) :
    ask type text threshold g = (.ok ((g.question type text threshold).threshold, candidates),
      { g with asked := g.asked ++ [g.question type text threshold] }) := by
  unfold ask
  unfold question at hanswer
  rw [hmatcher]
  dsimp only
  rw [hanswer]
  rfl

theorem ask_of_unmatched (hq : g.Unmatched (g.question type text threshold)) :
    ∃ candidates k,
      ask type text threshold g =
        (.ok ((g.question type text threshold).threshold, candidates), k) ∧
      Candidate.best (g.question type text threshold).threshold candidates = none := by
  obtain ⟨m, cs, hm, hcs, hbest⟩ := hq
  exact ⟨cs, _, ask_of_answer hm hcs, hbest⟩

def createRelated (source verb type : String) (data : Json) : GraphM FuzzyRelation := do
  let thing ← createThing type data none
  let relationship ← relate source verb thing.id .fuzzy none
  return ⟨true, thing, relationship⟩

def dataOf (text : String) (data : Option Json) : Json :=
  data.getD (.object [("text", .string text)])

theorem fuzzyRelate_of_none (hask : ask type text threshold g = (.ok (t, candidates), k))
    (hbest : Candidate.best t candidates = none) :
    fuzzyRelate source verb type text data threshold g =
      createRelated source verb type (dataOf text data) k := by
  refine (bind_of_ok hask).trans ?_
  dsimp only
  rw [hbest]
  rfl

theorem relate_rejected (target : String) (cascade : Cascade) (payload : Option Json) (g : Graph)
    (h : source = "" ∨ verb = "") :
    relate source verb target cascade payload g = (.error (.invalidId .emptyId), g) := by
  by_cases hs : source = ""
  · subst hs
    exact bind_of_error rfl
  · obtain rfl := h.resolve_left hs
    have hsource : check (validId source) g = (.ok (), g) := by rw [check, validId_eq_ok.mpr hs]
    exact (bind_of_ok hsource).trans (bind_of_error rfl)

theorem fuzzyRelate_of_some {c : Candidate}
    (hask : ask type text threshold g = (.ok (t, candidates), k))
    (hbest : Candidate.best t candidates = some c) :
    fuzzyRelate source verb type text data threshold g = (do
      let relationship ← relate source verb c.thing.id .fuzzy none
      return (⟨false, c.thing, relationship⟩ : FuzzyRelation) : GraphM FuzzyRelation) k := by
  refine (bind_of_ok hask).trans ?_
  dsimp only
  rw [hbest]
  rfl

theorem fuzzyRelate_cautious {e : StoreError}
    (hends : (source = "" ∨ verb = "") → type ≠ "" → (dataOf text data).isObject = true →
      ¬ g.Unmatched (g.question type text threshold))
    (hx : fuzzyRelate source verb type text data threshold g = (.error e, h))
    (he : e.isRejection = true) : h.entries = g.entries := by
  rcases error_of_bind hx with hask | ⟨⟨t, candidates⟩, k, hask, -⟩
  · exact (reads_ask type text threshold g _ h hask).2
  · have hk : k.entries = g.entries := (reads_ask type text threshold g _ k hask).2
    rw [← hk]
    cases hbest : Candidate.best t candidates with
    | some c =>
      rw [fuzzyRelate_of_some hask hbest] at hx
      exact (atomic_relate source verb c.thing.id .fuzzy none).cautious.before (fun _ => sure_pure _)
        k e h hx he
    | none =>
      rw [fuzzyRelate_of_none hask hbest] at hx
      rcases error_of_bind hx with hcreate | ⟨thing, l, hcreate, hrelate⟩
      · exact (atomic_createThing type _ none).cautious k e h hcreate he
      · obtain ⟨hdata, htype, hid, -⟩ := createThing_of_ok hcreate
        -- The thing is there now, and what is left is to relate it.
        by_cases hempty : source = "" ∨ verb = ""
        · obtain ⟨rfl, m, hm, hanswer⟩ := ask_of_ok hask
          exact absurd ⟨m, candidates, hm, hanswer, hbest⟩ (hends hempty htype hdata)
        · obtain ⟨hs, hv⟩ := not_or.mp hempty
          have hsure := (assured_relate hs hv hid .fuzzy none).sure.bind fun r =>
            sure_pure (⟨true, thing, r⟩ : FuzzyRelation)
          rw [hsure l e h hrelate] at he
          cases he

theorem createRelated_rejected {data : Json} (hempty : source = "" ∨ verb = "") (htype : type ≠ "")
    (hdata : data.isObject = true) (hready : g.store.Ready) :
    ∃ h, createRelated source verb type data g = (.error (.invalidId .emptyId), h) := by
  obtain ⟨thing, h, hcreate, -, -⟩ := (assured_createThing htype hdata none nofun).of_ready hready
  refine ⟨h, (bind_of_ok hcreate).trans ?_⟩
  exact bind_of_error (relate_rejected thing.id .fuzzy none h hempty)

theorem createRelated_creates {data : Json} {e : StoreError} (hempty : source = "" ∨ verb = "")
    (htype : type ≠ "") (hdata : data.isObject = true)
    (hx : createRelated source verb type data g = (.error e, h)) (he : e.isRejection = true) :
    e = .invalidId .emptyId ∧ ∃ thing, createThing type data none g = (.ok thing, h) := by
  rcases error_of_bind hx with hcreate | ⟨thing, k, hcreate, hrelate⟩
  · rw [(assured_createThing htype hdata none nofun).sure g e h hcreate] at he
    cases he
  · rw [bind_of_error (relate_rejected thing.id .fuzzy none k hempty)] at hrelate
    cases hrelate
    exact ⟨rfl, thing, hcreate⟩

theorem fuzzyRelate_creates {e : StoreError} (hempty : source = "" ∨ verb = "") (htype : type ≠ "")
    (hdata : (dataOf text data).isObject = true) (hq : g.Unmatched (g.question type text threshold))
    (hx : fuzzyRelate source verb type text data threshold g = (.error e, h))
    (he : e.isRejection = true) :
    e = .invalidId .emptyId ∧ (∃ t, Created t g h) ∧ (g.Audited → h.entries ≠ g.entries) := by
  obtain ⟨candidates, k, hask, hbest⟩ := ask_of_unmatched hq
  obtain ⟨hp, hk⟩ := reads_ask type text threshold g _ k hask
  rw [fuzzyRelate_of_none hask hbest] at hx
  obtain ⟨rfl, thing, hcreate⟩ := createRelated_creates hempty htype hdata hx he
  obtain ⟨-, -, -, a, filed, logged, hentry, hentries⟩ := createThing_of_ok hcreate
  refine ⟨rfl, ⟨thing, a, filed, logged, hentry, ?_⟩, fun hg => ?_⟩
  · rw [hentries, hk]
  · have hrows : k.logRows = g.logRows := congrArg (fun es => es.rows actionCollection.name) hk
    rw [← hk]
    exact entries_createThing_ne (hg.of_spared hp hrows) hcreate

theorem fuzzyRelate_rejected (hempty : source = "" ∨ verb = "") (htype : type ≠ "")
    (hdata : (dataOf text data).isObject = true) (hq : g.Unmatched (g.question type text threshold))
    (hready : g.store.Ready) :
    ∃ h, fuzzyRelate source verb type text data threshold g =
      (.error (.invalidId .emptyId), h) := by
  obtain ⟨candidates, k, hask, hbest⟩ := ask_of_unmatched hq
  have hk := (reads_ask type text threshold g _ k hask).1.keeps.ready hready
  rw [fuzzyRelate_of_none hask hbest]
  exact createRelated_rejected hempty htype hdata hk

end Graph

/-- Relating by similarity creates a thing although the other end or the verb is empty. -/
def GraphCall.CreatesFirst (g : Graph) : GraphCall → Prop
  | fuzzyRelate source v type text data threshold =>
    (source = "" ∨ v = "") ∧ type ≠ "" ∧ (Graph.dataOf text data).isObject = true ∧
      g.Unmatched (g.question type text threshold)
  | _ => False

/-- A call on a graph, on a collection of its store, be it one of the graph's own, or on the records
of one. -/
inductive AnyCall : Type 1 where
  | graph (call : GraphCall)
  | collection (name : String) (call : CollectionCall)
  | putRecord {α : Type} [Record α] (name : String) (r : α)
  | getRecord (α : Type) [Record α] (name id : String)
  | findRecords (α : Type) [Record α] (name : String) (filter : Filter) (options : QueryOptions)

namespace AnyCall

def run : AnyCall → GraphM Unit
  | graph call => do let _ ← call.run
  | collection name call => do let _ ← onStore (call.run ⟨name⟩)
  | putRecord name r => onStore (Collection.putRecord ⟨name⟩ r)
  | getRecord α name id => do
    let _ ← onStore (Collection.getRecord ⟨name⟩ id : StoreM (Option α))
  | findRecords α name filter options => do
    let _ ← onStore (Collection.findRecords ⟨name⟩ filter options : StoreM (List α))

def CreatesFirst (g : Graph) : AnyCall → Prop
  | graph call => call.CreatesFirst g
  | _ => False

theorem CreatesFirst.isFuzzy {call : AnyCall} {g : Graph} (h : call.CreatesFirst g) :
    ∃ source v type text data threshold,
      call = .graph (.fuzzyRelate source v type text data threshold) := by
  cases call with
  | graph call =>
    cases call with
    | fuzzyRelate source v type text data threshold => exact ⟨_, _, _, _, _, _, rfl⟩
    | _ => exact h.elim
  | _ => exact h.elim

theorem run_cautious {call : AnyCall} {g h : Graph} {e : StoreError} (hfirst : ¬ call.CreatesFirst g)
    (hx : call.run g = (.error e, h)) (he : e.isRejection = true) : h.entries = g.entries := by
  have hread {α β : Type} {m : StoreM α} (hm : Store.Reads m) (f : α → β) :
      Cautious Graph.entries (onStore m >>= fun a => pure (f a)) :=
    (reads_onStore hm).cautious.before fun a => sure_pure (f a)
  cases call with
  | graph call =>
    have hcall := error_of_map hx
    cases call with
    | fuzzyRelate source v type text data threshold =>
      refine fuzzyRelate_cautious (fun hempty htype hdata hq => ?_) (error_of_map hcall) he
      exact hfirst ⟨hempty, htype, hdata, hq⟩
    | _ => exact GraphCall.run_cautious rfl g e h hcall he
  | collection name call =>
    have hcall := cautious_onStore (call.run_cautious ⟨name⟩)
    exact hcall g e h (error_of_map hx) he
  | putRecord name r =>
    exact cautious_onStore (Collection.cautious_putRecord ⟨name⟩ r) g e h hx he
  | getRecord α name id => exact hread (Collection.reads_getRecord ⟨name⟩ id) _ g e h hx he
  | findRecords α name filter options =>
    exact hread (Collection.reads_findRecords ⟨name⟩ filter options) _ g e h hx he

/-- A rejected call changes no entry unless it creates a thing first. A call that does so is refused
because of an empty id, and what creating the thing has written is there; and if the engine is
ready the call comes to this end. -/
theorem entries_of_rejected (call : AnyCall) (g : Graph) :
    (∀ e h, call.run g = (.error e, h) → e.isRejection = true →
      (¬ call.CreatesFirst g → h.entries = g.entries) ∧
      (call.CreatesFirst g → e = .invalidId .emptyId ∧ (∃ t, Created t g h) ∧
        (g.Audited → h.entries ≠ g.entries))) ∧
    (call.CreatesFirst g → g.store.Ready →
      ∃ h, call.run g = (.error (.invalidId .emptyId), h)) := by
  refine ⟨fun e h hx he => ⟨fun hfirst => run_cautious hfirst hx he, fun hfirst => ?_⟩,
    fun hfirst hready => ?_⟩
  · obtain ⟨source, v, type, text, data, threshold, rfl⟩ := hfirst.isFuzzy
    obtain ⟨hempty, htype, hdata, hq⟩ := hfirst
    exact fuzzyRelate_creates hempty htype hdata hq (error_of_map (error_of_map hx)) he
  · obtain ⟨source, v, type, text, data, threshold, rfl⟩ := hfirst.isFuzzy
    obtain ⟨hempty, htype, hdata, hq⟩ := hfirst
    obtain ⟨h, hx⟩ := fuzzyRelate_rejected hempty htype hdata hq hready
    exact ⟨h, bind_of_error (bind_of_error hx)⟩

/-- In a new graph whose matcher finds nothing, the thing stays when the source is empty. -/
theorem entries_of_rejected_source :
    let store : Store := ⟨.initial, .empty, .zero, [], .still 0⟩
    let g : Graph := { ofStore store fun _ => 0 with matcher := some fun _ => .ok [] }
    let call : AnyCall := .graph (.fuzzyRelate "" "likes" "Note" "x" none none)
    ∃ h, call.run g = (.error (.invalidId .emptyId), h) ∧ (∃ t, Created t g h) ∧
      h.entries ≠ g.entries := by
  intro store g call
  have hfirst : call.CreatesFirst g :=
    ⟨.inl rfl, by decide, rfl, fun _ => .ok [], [], rfl, rfl, rfl⟩
  have haudited : g.Audited := by
    have hzero : (0 : Int64).toInt.toNat < 36 ^ Identifier.timeWidth := by decide
    have hstart := @audited_ofStore store (fun _ => 0) (fun _ => hzero) rfl
    exact hstart.1.of_spared (.of_keeps (.refl _) rfl) rfl
  obtain ⟨h, hx⟩ := (entries_of_rejected call g).2 hfirst ⟨rfl, rfl⟩
  obtain ⟨-, hcreated, hne⟩ := ((entries_of_rejected call g).1 _ h hx rfl).2 hfirst
  exact ⟨h, hx, hcreated, hne haudited⟩

end AnyCall

end DocumentGraph
