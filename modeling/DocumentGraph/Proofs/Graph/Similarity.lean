import DocumentGraph.Proofs.Graph.Edges
import DocumentGraph.Proofs.Graph.Lifecycle
set_option autoImplicit false

namespace DocumentGraph

open Identifier Operation DocumentGraph.Graph

namespace Candidate

variable {t : Binary64} {cs : List Candidate} {c : Candidate}

def Reaches (t : Binary64) (c : Candidate) : Prop := t.atMost c.similarity = true

instance (t : Binary64) : DecidablePred (Reaches t) :=
  fun c => inferInstanceAs (Decidable (t.atMost c.similarity = true))

/-- Of the candidates that reach the threshold, those before this one are less similar and those after
it not more similar. -/
def Picks (t : Binary64) (cs : List Candidate) (c : Candidate) : Prop :=
  ∃ before after, cs = before ++ c :: after ∧ c.Reaches t ∧
    (∀ b ∈ before, b.Reaches t → b.similarity.less c.similarity = true) ∧
    ∀ a ∈ after, a.Reaches t → a.similarity.atMost c.similarity = true

theorem Picks.mem (h : Picks t cs c) : c ∈ cs := by
  obtain ⟨before, after, rfl, -⟩ := h
  exact List.mem_append_right before List.mem_cons_self

theorem Picks.reaches (h : Picks t cs c) : c.Reaches t := by
  obtain ⟨-, -, -, hc, -⟩ := h
  exact hc

theorem Picks.atMost (h : Picks t cs c) :
    ∀ d ∈ cs, d.Reaches t → d.similarity.atMost c.similarity = true := by
  obtain ⟨before, after, rfl, hc, hbefore, hafter⟩ := h
  intro d hd hreach
  rcases List.mem_append.mp hd with hd | hd
  · exact Binary64.atMost_of_less (hbefore d hd hreach)
  · rcases List.mem_cons.mp hd with rfl | hd
    · exact Binary64.atMost_refl (Binary64.isNaN_of_atMost hc).2
    · exact hafter d hd hreach

theorem eq_of_split {before after middle rest : List Candidate} {d : Candidate} (hc : c.Reaches t)
    (hd : d.Reaches t) (hsplit : c :: after = middle ++ d :: rest)
    (hbefore : ∀ b ∈ before ++ middle, b.Reaches t → b.similarity.less d.similarity = true)
    (hafter : ∀ a ∈ after, a.Reaches t → a.similarity.atMost c.similarity = true) : c = d := by
  cases middle with
  | nil => exact (List.cons.inj hsplit).1
  | cons first middle =>
    obtain ⟨rfl, rfl⟩ := List.cons.inj hsplit
    have hless := hbefore c (List.mem_append_right before List.mem_cons_self) hc
    have hatMost := hafter d (List.mem_append_right middle List.mem_cons_self) hd
    have hself := Binary64.less_of_atMost_of_less hatMost hless
    rw [Binary64.less_irrefl] at hself
    cases hself

theorem Picks.unique {d : Candidate} (hc : Picks t cs c) (hd : Picks t cs d) : c = d := by
  obtain ⟨before, after, rfl, hc, hcbefore, hcafter⟩ := hc
  obtain ⟨before', after', hsplit, hd, hdbefore, hdafter⟩ := hd
  rcases List.append_eq_append_iff.mp hsplit with ⟨middle, rfl, hrest⟩ | ⟨middle, rfl, hrest⟩
  · exact eq_of_split hc hd hrest hdbefore hcafter
  · exact (eq_of_split hd hc hrest hcbefore hdafter).symm

theorem Picks.snoc (h : Picks t cs c) {d : Candidate}
    (hd : d.Reaches t → d.similarity.atMost c.similarity = true) : Picks t (cs ++ [d]) c := by
  obtain ⟨before, after, rfl, hc, hbefore, hafter⟩ := h
  refine ⟨before, after ++ [d], by simp, hc, hbefore, ?_⟩
  exact List.forall_mem_append.mpr ⟨hafter, List.forall_mem_singleton.mpr hd⟩

theorem picks_last (hc : c.Reaches t)
    (hless : ∀ b ∈ cs, b.Reaches t → b.similarity.less c.similarity = true) :
    Picks t (cs ++ [c]) c :=
  ⟨cs, [], rfl, hc, hless, List.forall_mem_nil _⟩

theorem best_snoc_of_not_reaches (hc : ¬ c.Reaches t) : best t (cs ++ [c]) = best t cs := by
  have hc : t.atMost c.similarity = false := Bool.not_eq_true _ ▸ hc
  have hfilter : (cs ++ [c]).filter (fun c => t.atMost c.similarity) =
      cs.filter fun c => t.atMost c.similarity := by simp [hc]
  rw [best, hfilter, best]

theorem best_snoc_of_reaches (hc : c.Reaches t) :
    best t (cs ++ [c]) = some ((best t cs).elim c fun b => better b c) := by
  have hc : t.atMost c.similarity = true := hc
  have hfilter : (cs ++ [c]).filter (fun c => t.atMost c.similarity) =
      cs.filter (fun c => t.atMost c.similarity) ++ [c] := by simp [hc]
  rw [best, hfilter, best]
  cases cs.filter fun c => t.atMost c.similarity with
  | nil => rfl
  | cons b rest =>
    change some ((rest ++ [c]).foldl better b) = some (better (rest.foldl better b) c)
    rw [List.foldl_append]
    rfl

theorem Picks.better {d : Candidate} (hc : Picks t cs c) (hd : d.Reaches t) :
    Picks t (cs ++ [d]) (better c d) := by
  by_cases hless : c.similarity.less d.similarity = true
  · rw [Candidate.better, if_pos hless]
    refine picks_last hd fun b hb hreach => ?_
    exact Binary64.less_of_atMost_of_less (hc.atMost b hb hreach) hless
  · rw [Candidate.better, if_neg hless]
    refine hc.snoc fun _ => ?_
    exact Binary64.atMost_of_not_less (Binary64.isNaN_of_atMost hc.reaches).2
      (Binary64.isNaN_of_atMost hd).2 hless

theorem best_cases (t : Binary64) (cs : List Candidate) :
    (best t cs = none ∧ ∀ c ∈ cs, ¬ c.Reaches t) ∨ ∃ c, best t cs = some c ∧ Picks t cs c := by
  -- The best of the candidates so far is compared with each further one, so they are added at the end.
  induction cs using List.reverseRecOn with
  | nil => exact .inl ⟨rfl, List.forall_mem_nil _⟩
  | append_singleton cs d ih =>
    by_cases hd : d.Reaches t
    · rw [best_snoc_of_reaches hd]
      rcases ih with ⟨hbest, hnone⟩ | ⟨c, hbest, hc⟩
      · rw [hbest]
        exact .inr ⟨d, rfl, picks_last hd fun b hb hreach => absurd hreach (hnone b hb)⟩
      · rw [hbest]
        exact .inr ⟨better c d, rfl, hc.better hd⟩
    · rw [best_snoc_of_not_reaches hd]
      rcases ih with ⟨hbest, hnone⟩ | ⟨c, hbest, hc⟩
      · exact .inl ⟨hbest, List.forall_mem_append.mpr ⟨hnone, List.forall_mem_singleton.mpr hd⟩⟩
      · exact .inr ⟨c, hbest, hc.snoc fun hreach => absurd hreach hd⟩

end Candidate

namespace Graph

variable {g h k : Graph}

section

variable {α β : Type} {m : GraphM α}

def Quiet (m : GraphM α) : Prop := Steps (fun g h => h.asked = g.asked) m

theorem Quiet.bind {f : α → GraphM β} (hm : Quiet m) (hf : ∀ a, Quiet (f a)) : Quiet (m >>= f) :=
  Steps.bind (fun h k => k.trans h) hm hf

theorem quiet_pure (a : α) : Quiet (pure a) :=
  steps_pure (R := fun g h : Graph => h.asked = g.asked) (fun _ => rfl) a

theorem quiet_check (r : Except StoreError α) : Quiet (check r) := by
  intro g q h hx
  cases hx
  rfl

theorem quiet_onStore (x : StoreM α) : Quiet (onStore x) := by
  intro g r h hx
  obtain ⟨t, -, rfl⟩ := onStore_eq hx
  rfl

theorem quiet_newId (name : String) : Quiet (newId name) := by
  intro g r h hx
  rw [newId_apply] at hx
  cases hx
  rfl

theorem quiet_log (entry : ActionEntry) : Quiet (log entry) :=
  (quiet_newId _).bind fun _ => (quiet_onStore _).bind fun _ => (quiet_onStore _).bind fun _ =>
    quiet_pure _

theorem quiet_relate (source verb target : String) (cascade : Cascade) (data : Option Json) :
    Quiet (relate source verb target cascade data) :=
  (quiet_check _).bind fun _ => (quiet_check _).bind fun _ => (quiet_check _).bind fun _ =>
    (quiet_newId _).bind fun _ => (quiet_onStore _).bind fun _ => (quiet_onStore _).bind fun _ =>
      (quiet_log _).bind fun _ => quiet_pure _

theorem quiet_createThing (type : String) (data : Json) : Quiet (createThing type data none) :=
  (quiet_check _).bind fun _ => (quiet_check _).bind fun _ => (quiet_newId _).bind fun _ =>
    (quiet_onStore _).bind fun _ => (quiet_onStore _).bind fun _ => (quiet_log _).bind fun _ =>
      quiet_pure _

end

section

variable {ρ : Type} [Record ρ] {c : Collection} {r : ρ}

/-- One record is stored, under an id that was not made before; the others of its collection stay as
they are, and it goes behind them if nothing lies under its id. -/
structure Adds (c : Collection) (r : ρ) (g h : Graph) : Prop where
  stored : documentAt c (Record.key r) h = some (Record.document r)
  others : ∀ id, id ≠ Record.key r → h.entries.fetch c.name id = g.entries.fetch c.name id
  appended : documentAt c (Record.key r) g = none → ∃ time : Int64, h.rows c.name =
    g.rows c.name ++ [⟨c.name, Record.key r, Record.document r, time, time⟩]
  fresh : g.Timely → ∀ name, ¬ g.Made name (Record.key r)

theorem absent_of_documentAt {id : String} (habsent : documentAt c id g = none) :
    ∀ e ∈ g.rows c.name, e.id ≠ id := by
  rw [documentAt, Option.map_eq_none_iff, Entries.fetch_rows] at habsent
  exact fun e he hid => List.find?_eq_none.mp habsent e he (decide_eq_true hid)

theorem Adds.of_put {now : Int64}
    (hrows : h.rows c.name =
      (g.entries.put c.name (Record.key r) (Record.document r) now).rows c.name)
    (hfresh : g.Timely → ∀ name, ¬ g.Made name (Record.key r)) : Adds c r g h := by
  obtain ⟨hstored, hothers⟩ := fetch_of_put hrows
  refine ⟨hstored, hothers, fun habsent => ⟨now, ?_⟩, hfresh⟩
  exact hrows.trans (Entries.rows_put_of_absent (absent_of_documentAt habsent) _ _)

theorem Adds.after (ha : Adds c r k h) (hp : g.Precedes k) (hrows : k.rows c.name = g.rows c.name) :
    Adds c r g h := by
  refine ⟨ha.stored, fun id hid => (ha.others id hid).trans (fetch_of_rows hrows id),
    fun habsent => ?_, fun ht name hmade => ha.fresh (hp.timely ht) name (hmade.mono hp)⟩
  rw [← hrows]
  exact ha.appended ((documentAt_of_rows hrows _).trans habsent)

theorem Adds.before (ha : Adds c r g k) (hrows : h.rows c.name = k.rows c.name) : Adds c r g h := by
  refine ⟨(documentAt_of_rows hrows _).trans ha.stored,
    fun id hid => (fetch_of_rows hrows id).trans (ha.others id hid), fun habsent => ?_, ha.fresh⟩
  rw [hrows]
  exact ha.appended habsent

end

variable {source verb type text target : String} {cascade : Cascade} {payload data : Option Json}
  {threshold : Option Binary64}

theorem adds_relate {e : Relationship}
    (hx : relate source verb target cascade payload g = (.ok e, h)) :
    Adds relationshipCollection e g h := by
  obtain ⟨-, g₁, g₂, g₃, u, a, hid, hnow, hput, hlog⟩ := relate_of_ok hx
  have he : g₂.entries = g.entries := (reads_now g₁ _ g₂ hnow).2.trans (newId_eq hid).2.1
  have hlogged : h.rows relationshipCollection.name = g₃.rows relationshipCollection.name :=
    (spares_log (by decide) _ g₃ _ h hlog).2
  have hrows : h.rows relationshipCollection.name = (g.entries.put relationshipCollection.name
      (Record.key e) (Record.document e) g₂.store.clock.now).rows relationshipCollection.name := by
    rw [hlogged, rows, entries_putRecord hput, he]
  refine Adds.of_put hrows fun ht name => ?_
  rw [show Record.key e = g.nextId "rel" from (newId_eq hid).1]
  exact not_made_next ht "rel" name _

theorem adds_createThing {j : Json} {t : Thing} (hx : createThing type j none g = (.ok t, h)) :
    Adds thingCollection t g h := by
  obtain ⟨-, -, rfl, now, hrows⟩ := createThing_creates hx
  exact Adds.of_put hrows fun ht name => not_made_next ht _ name _

theorem object_membersOf {j : Json} (h : j.isObject = true) : .object (membersOf j) = j := by
  cases j with
  | object ms => rfl
  | _ => cases h

/-- What relating by similarity has done: a candidate is reused and no thing written, or none is
similar enough and one thing is added; then one edge to that thing is added and what was done is
logged. -/
structure Decided (source verb type text : String) (data : Option Json) (t : Binary64)
    (candidates : List Candidate) (f : FuzzyRelation) (g h : Graph) : Prop where
  reused : (∃ c ∈ candidates, c.Reaches t) → f.created = false ∧
    (∃ c, Candidate.Picks t candidates c ∧ f.thing = c.thing) ∧
    h.rows thingCollection.name = g.rows thingCollection.name
  created : (∀ c ∈ candidates, ¬ c.Reaches t) → f.created = true ∧ f.thing.type = type ∧
    f.thing.version = 1 ∧ .object f.thing.data = dataOf text data ∧
    (∃ suffix, f.thing.id = Unicode.lowercase type ++ "_" ++ suffix) ∧
    Adds thingCollection f.thing g h
  edge : f.relationship = ⟨f.relationship.id, source, verb, f.thing.id, .fuzzy, none,
    f.relationship.createdAt⟩
  related : Adds relationshipCollection f.relationship g h
  edged : ∀ edges, g.Edged edges → h.Edged (edges ++ [f.relationship])
  logged : g.Audited → ∃ actions : List Action, g.Appends h actions ∧
    actions.map (·.toActionEntry) = (if f.created then [.about "created" f.thing.id] else []) ++
      [.relating source verb f.thing.id none]
  elsewhere : ∀ name, name ∉ [thingCollection.name, relationshipCollection.name,
    actionCollection.name] → h.rows name = g.rows name

variable {t : Binary64} {candidates : List Candidate}

theorem asked_fuzzyRelate {r : Except StoreError FuzzyRelation}
    (hask : ask type text threshold g = (.ok (t, candidates), k))
    (hx : fuzzyRelate source verb type text data threshold g = (r, h)) : h.asked = k.asked := by
  have hrelate (created : Bool) (found : Thing) : Quiet (do
      let relationship ← relate source verb found.id .fuzzy none
      return (⟨created, found, relationship⟩ : FuzzyRelation)) :=
    (quiet_relate _ _ _ _ _).bind fun _ => quiet_pure _
  cases hbest : Candidate.best t candidates with
  | some c =>
    rw [fuzzyRelate_of_some hask hbest] at hx
    exact hrelate false c.thing k r h hx
  | none =>
    rw [fuzzyRelate_of_none hask hbest] at hx
    exact ((quiet_createThing type _).bind fun found => hrelate true found) k r h hx

theorem relate_ends {found : Thing} {created : Bool} {f : FuzzyRelation}
    (hx : (do
      let relationship ← relate source verb found.id .fuzzy none
      return (⟨created, found, relationship⟩ : FuzzyRelation) : GraphM FuzzyRelation) k =
        (.ok f, h)) :
    f.created = created ∧ f.thing = found ∧
      relate source verb found.id .fuzzy none k = (.ok f.relationship, h) := by
  obtain ⟨e, l, he, hpure⟩ := ok_of_bind hx
  cases hpure
  exact ⟨rfl, rfl, he⟩

theorem reuses_of_best {c : Candidate} {f : FuzzyRelation}
    (hask : ask type text threshold g = (.ok (t, candidates), k))
    (hbest : Candidate.best t candidates = some c)
    (hx : fuzzyRelate source verb type text data threshold g = (.ok f, h)) :
    f.created = false ∧ f.thing = c.thing ∧
      h.rows thingCollection.name = k.rows thingCollection.name := by
  rw [fuzzyRelate_of_some hask hbest] at hx
  obtain ⟨hcreated, hthing, hrelate⟩ := relate_ends hx
  exact ⟨hcreated, hthing, (spares_relate (by decide) (by decide) _ _ _ _ _ k _ h hrelate).2⟩

theorem creates_of_no_best {f : FuzzyRelation}
    (hask : ask type text threshold g = (.ok (t, candidates), k))
    (hbest : Candidate.best t candidates = none)
    (hx : fuzzyRelate source verb type text data threshold g = (.ok f, h)) :
    f.created = true ∧ f.thing.type = type ∧ f.thing.version = 1 ∧
      .object f.thing.data = dataOf text data ∧
      (∃ suffix, f.thing.id = Unicode.lowercase type ++ "_" ++ suffix) ∧
      Adds thingCollection f.thing k h := by
  rw [fuzzyRelate_of_none hask hbest] at hx
  obtain ⟨made, l, hcreate, hx⟩ := ok_of_bind hx
  obtain ⟨hcreated, rfl, hrelate⟩ := relate_ends hx
  have hadds := (adds_createThing hcreate).before
    (spares_relate (by decide) (by decide) _ _ _ _ _ l _ h hrelate).2
  obtain ⟨hobject, -, hmade, -⟩ := createThing_creates hcreate
  rw [hmade] at hadds ⊢
  exact ⟨hcreated, rfl, rfl, object_membersOf hobject, ⟨_, rfl⟩, hadds⟩

theorem Decided.of_ok {f : FuzzyRelation}
    (hask : ask type text threshold g = (.ok (t, candidates), k))
    (hx : fuzzyRelate source verb type text data threshold g = (.ok f, h)) :
    Decided source verb type text data t candidates f g h := by
  obtain ⟨hgk, hk⟩ := reads_ask type text threshold g _ k hask
  have hrows (name : String) : k.rows name = g.rows name := congrArg (Entries.rows name) hk
  obtain ⟨l, ⟨hgl, hedges⟩, hrelate⟩ := fuzzyRelate_of_ok hx
  have hlogs := logs_fuzzyRelate source verb type text data threshold
  have hcases := Candidate.best_cases t candidates
  refine ⟨fun ⟨d, hd, hreach⟩ => ?_, fun hnone => ?_, (relate_of_ok hrelate).1,
    (adds_relate hrelate).after hgl hedges, fun edges hg => hg.fuzzyRelate hx,
    fun hg => (hlogs g f h hg hx).2, fun name hname => ?_⟩
  · obtain ⟨-, hnone⟩ | ⟨c, hbest, hpicks⟩ := hcases
    · exact absurd hreach (hnone d hd)
    · obtain ⟨hcreated, hthing, hthings⟩ := reuses_of_best hask hbest hx
      exact ⟨hcreated, ⟨c, hpicks, hthing⟩, hthings.trans (hrows _)⟩
  · obtain ⟨hbest, -⟩ | ⟨c, -, hpicks⟩ := hcases
    · obtain ⟨hcreated, htype, hversion, hdata, hid, hadds⟩ := creates_of_no_best hask hbest hx
      exact ⟨hcreated, htype, hversion, hdata, hid, hadds.after hgk (hrows _)⟩
    · exact absurd hpicks.reaches (hnone c hpicks.mem)
  · simp only [List.mem_cons, List.not_mem_nil, or_false, not_or] at hname
    obtain ⟨hthings, hrelationships, hactions⟩ := hname
    exact (spares_fuzzyRelate (Ne.symm hthings) (Ne.symm hrelationships) (Ne.symm hactions) source
      verb type text data threshold g _ h hx).2

theorem fuzzyRelate_ends (hsource : source ≠ "") (hverb : verb ≠ "") (htype : type ≠ "")
    (hdata : (dataOf text data).isObject = true) (hids : ∀ c ∈ candidates, c.thing.id ≠ "")
    (hask : ask type text threshold g = (.ok (t, candidates), k)) (hready : k.store.Ready) :
    ∃ f h, fuzzyRelate source verb type text data threshold g = (.ok f, h) := by
  obtain ⟨hbest, -⟩ | ⟨c, hbest, hpicks⟩ := Candidate.best_cases t candidates
  · rw [fuzzyRelate_of_none hask hbest]
    obtain ⟨made, l, hcreate, hl, -⟩ := (assured_createThing htype hdata none nofun).of_ready hready
    obtain ⟨-, -, hid, -⟩ := createThing_of_ok hcreate
    obtain ⟨e, h, hrelate, -, -⟩ := (assured_relate hsource hverb hid .fuzzy none).of_ready hl
    exact ⟨_, h, (bind_of_ok hcreate).trans (bind_of_ok hrelate)⟩
  · rw [fuzzyRelate_of_some hask hbest]
    obtain ⟨e, h, hrelate, -, -⟩ :=
      (assured_relate hsource hverb (hids c hpicks.mem) .fuzzy none).of_ready hready
    exact ⟨_, h, bind_of_ok hrelate⟩

/-- With a matcher that answers, relating by similarity asks it once and decides by its answer,
whatever the similarities and the threshold are; it ends well unless the engine refuses a
statement. -/
theorem fuzzyRelate_decides {m : Matcher} (hmatcher : g.matcher = some m) (hsource : source ≠ "")
    (hverb : verb ≠ "") (htype : type ≠ "") (hdata : ∀ j, data = some j → j.isObject = true)
    (hanswer : m ⟨type, text, threshold.getD
      (g.store.config.defaultThreshold.getD Config.builtInThreshold)⟩ = .ok candidates)
    (hids : ∀ c ∈ candidates, c.thing.id ≠ "") :
    let t := threshold.getD (g.store.config.defaultThreshold.getD Config.builtInThreshold)
    (∀ r h, fuzzyRelate source verb type text data threshold g = (r, h) →
      h.asked = g.asked ++ [⟨type, text, t⟩]) ∧
    (∀ f h, fuzzyRelate source verb type text data threshold g = (.ok f, h) →
      Decided source verb type text data t candidates f g h) ∧
    (g.store.Ready →
      ∃ f h, fuzzyRelate source verb type text data threshold g = (.ok f, h)) := by
  intro t
  have hask := ask_of_answer hmatcher hanswer
  have hobject : (dataOf text data).isObject = true := by
    cases data with
    | none => rfl
    | some j => exact hdata j rfl
  exact ⟨fun r h hx => asked_fuzzyRelate hask hx, fun f h hx => Decided.of_ok hask hx,
    fun hready => fuzzyRelate_ends hsource hverb htype hobject hids hask hready⟩

/-- Of a candidate that is not a number and two zeros of different sign the first zero is reused if the
threshold is zero; if the threshold is not a number a thing is created. -/
theorem fuzzyRelate_decides_zeros :
    let store : Store := ⟨.initial, .empty, .zero, [], .still 0⟩
    let note (id : String) : Thing := .first id "Note" [] 0
    let candidates : List Candidate :=
      [⟨note "x", .notANumber⟩, ⟨note "a", .zero⟩, ⟨note "b", .signedZero true⟩]
    let g : Graph := { ofStore store fun _ => 0 with matcher := some fun _ => .ok candidates }
    (∃ f h, fuzzyRelate "s" "likes" "Note" "x" none (some .zero) g = (.ok f, h) ∧
      f.created = false ∧ f.thing = note "a" ∧ h.asked = [⟨"Note", "x", .zero⟩]) ∧
    ∃ f h, fuzzyRelate "s" "likes" "Note" "x" none (some .notANumber) g = (.ok f, h) ∧
      f.created = true ∧ f.thing.data = [("text", .string "x")] := by
  intro store note candidates g
  have hids : ∀ c ∈ candidates, c.thing.id ≠ "" := by decide
  have hdata : ∀ j : Json, none = some j → j.isObject = true := nofun
  have hdecides (t : Binary64) := @fuzzyRelate_decides g "s" "likes" "Note" "x" none (some t) candidates
    (fun _ => .ok candidates) rfl (by decide) (by decide) (by decide) hdata rfl hids
  constructor
  · obtain ⟨hasked, hdecided, hends⟩ := hdecides .zero
    obtain ⟨f, h, hx⟩ := hends ⟨rfl, rfl⟩
    have hzero : Candidate.Picks .zero candidates ⟨note "a", .zero⟩ := by
      refine ⟨[⟨note "x", .notANumber⟩], [⟨note "b", .signedZero true⟩], rfl, ?_, ?_, ?_⟩
      · decide
      · decide
      · decide
    obtain ⟨hcreated, ⟨c, hpicks, hthing⟩, -⟩ :=
      (hdecided f h hx).reused ⟨_, hzero.mem, hzero.reaches⟩
    rw [hpicks.unique hzero] at hthing
    exact ⟨f, h, hx, hcreated, hthing, hasked _ h hx⟩
  · obtain ⟨-, hdecided, hends⟩ := hdecides .notANumber
    obtain ⟨f, h, hx⟩ := hends ⟨rfl, rfl⟩
    have hnone : ∀ c ∈ candidates, ¬ c.Reaches .notANumber := by decide
    obtain ⟨hcreated, -, -, hobject, -⟩ := (hdecided f h hx).created hnone
    exact ⟨f, h, hx, hcreated, Json.object.inj hobject⟩

end Graph

end DocumentGraph
