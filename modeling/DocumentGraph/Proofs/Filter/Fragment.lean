import DocumentGraph.Proofs.Filter.Meaning
import DocumentGraph.Proofs.Sql.Reading
set_option autoImplicit false

/-!
# The text of compiled filters

A formula that was read is evaluated as the condition whose text it was read from, and the condition
of a compiled filter is readable. So the text of a compiled filter, read as SQL, selects the
documents that satisfy the filter.
-/

namespace DocumentGraph

namespace Sql

def Connective.unit : Connective → Truth
  | .and => some true
  | .or => some false

theorem Connective.eval_unit (k : Connective) (t : Truth) : k.eval t k.unit = t := by
  cases k <;> rcases t with _ | _ | _ <;> rfl

theorem Connective.eval_assoc (k : Connective) (s t u : Truth) :
    k.eval (k.eval s t) u = k.eval s (k.eval t u) := by
  cases k <;> rcases s with _ | _ | _ <;> rcases t with _ | _ | _ <;> rcases u with _ | _ | _ <;> rfl

variable {doc : Json}

def evalAll (doc : Json) : Connective → List Condition → List SqlValue → Truth × List SqlValue
  | .and => Condition.evalAllOf doc
  | .or => Condition.evalAnyOf doc

theorem evalAll_nil (k : Connective) (ps : List SqlValue) : evalAll doc k [] ps = (k.unit, ps) := by
  cases k <;> rfl

theorem evalAll_cons (k : Connective) (c : Condition) (rest : List Condition) (ps : List SqlValue) :
    evalAll doc k (c :: rest) ps =
      (k.eval (c.eval doc ps).1 (evalAll doc k rest (c.eval doc ps).2).1,
        (evalAll doc k rest (c.eval doc ps).2).2) := by
  cases k <;> rfl

/-- Formulas grouped to the left are as true as the conditions grouped to the right. -/
theorem eval_foldl (k : Connective) {cs : List Condition}
    (h : ∀ c ∈ cs, ∀ ps, (formula c).eval doc ps = c.eval doc ps) (p : Formula)
    (ps : List SqlValue) :
    ((formulas cs).foldl (.join k) p).eval doc ps =
      (k.eval (p.eval doc ps).1 (evalAll doc k cs (p.eval doc ps).2).1,
        (evalAll doc k cs (p.eval doc ps).2).2) := by
  induction cs generalizing p with
  | nil =>
    rw [evalAll_nil, Connective.eval_unit]
    rfl
  | cons c rest ih =>
    have hc := h c List.mem_cons_self
    have hjoin : (Formula.join k p (formula c)).eval doc ps =
        (k.eval (p.eval doc ps).1 (c.eval doc (p.eval doc ps).2).1,
          (c.eval doc (p.eval doc ps).2).2) := by
      rw [← hc]
      rfl
    rw [formulas, List.foldl_cons, ih fun d hd => h d (List.mem_cons_of_mem _ hd), hjoin,
      evalAll_cons, Connective.eval_assoc]

theorem eval_joined (k : Connective) {cs : List Condition} (hne : cs ≠ [])
    (h : ∀ c ∈ cs, ∀ ps, (formula c).eval doc ps = c.eval doc ps) (ps : List SqlValue) :
    (joined k (formulas cs)).eval doc ps = evalAll doc k cs ps := by
  obtain ⟨c, rest, rfl⟩ := List.exists_cons_of_ne_nil hne
  rw [formulas, joined, eval_foldl k (fun d hd => h d (List.mem_cons_of_mem _ hd)),
    h c List.mem_cons_self, evalAll_cons]

theorem name_inj {j k : JsonKind} : k.name = j.name ↔ j = k := by
  constructor
  · intro h
    cases j <;> cases k <;> first | rfl | (revert h; decide)
  · rintro rfl
    rfl

theorem eval_plain (ps : List SqlValue) :
    Term.eval doc (.placeholder .plain) ps = Condition.next ps := by
  cases ps with
  | nil => rfl
  | cons p ps => cases p <;> rfl

def kindValue (k : Option JsonKind) : SqlValue := .ofOption (fun k => .text k.name) k

theorem order_kindValue (j k : JsonKind) :
    decide ((kindValue (some j)).order (.text k.name) = .eq) = decide (j = k) :=
  decide_eq_decide.mpr ((SqlValue.order_text_eq_iff k.name j.name).trans name_inj)

theorem eval_kindIs (f : Field) (k : JsonKind) (ps : List SqlValue) :
    (formula (.kindIs f k)).eval doc ps = (Condition.kindIs f k).eval doc ps := by
  have h (found : Option JsonKind) :
      (kindValue found).compared (· = .eq) (.text k.name) = found.map fun x => decide (x = k) := by
    cases found with
    | none => rfl
    | some j => exact congrArg some (order_kindValue j k)
  exact congrArg (fun t => (t, ps)) (h (doc.kindAt f))

theorem eval_kindIsAnyOf (f : Field) (ks : List JsonKind) (ps : List SqlValue) :
    (formula (.kindIsAnyOf f ks)).eval doc ps = (Condition.kindIsAnyOf f ks).eval doc ps := by
  have hany (j : JsonKind) : ((ks.map (·.name)).any fun o =>
      decide ((kindValue (some j)).order (.text o) = .eq)) = ks.contains j := by
    rw [List.any_map, List.contains_eq_any_beq]
    exact congrArg (fun p => ks.any p) (funext fun k => order_kindValue j k)
  have h (found : Option JsonKind) : (if (kindValue found).isNull then none
      else some ((ks.map (·.name)).any fun o => decide ((kindValue found).order (.text o) = .eq))) =
        found.map fun x => ks.contains x := by
    cases found with
    | none => rfl
    | some j => exact congrArg some (hany j)
  exact congrArg (fun t => (t, ps)) (h (doc.kindAt f))

theorem readable_of_isComparison {c : Condition} (hc : IsComparison c) : Readable c := by
  cases c with
  | kindIsAnyOf f ks => exact hc
  | both c d => exact hc.elim
  | allOf cs => exact hc.elim
  | anyOf cs => exact hc.elim
  | fails c => exact hc.elim
  | constant b => trivial
  | isNull f => trivial
  | isNotNull f => trivial
  | kindIs f k => trivial
  | equals f p => trivial
  | compares f op p => trivial
  | matching f => trivial

mutual

theorem eval_formula (c : Condition) (hc : Readable c) (ps : List SqlValue) :
    (formula c).eval doc ps = c.eval doc ps := by
  cases c with
  | kindIs f k => exact eval_kindIs f k ps
  | kindIsAnyOf f ks => exact eval_kindIsAnyOf f ks ps
  | matching f =>
    rw [formula, Formula.eval, Condition.eval]
    simp only [eval_plain]
    rfl
  | both c d =>
    have hleft := eval_formula c (readable_of_isComparison hc.1)
    have hright := eval_formula d (readable_of_isComparison hc.2)
    rw [formula, Formula.eval, Condition.eval, hleft]
    simp only [hright]
    rfl
  | allOf cs => exact eval_joined .and hc.1 (eval_formulas cs hc.2) ps
  | anyOf cs => exact eval_joined .or hc.1 (eval_formulas cs hc.2) ps
  | fails c =>
    have hc' : Readable c := hc
    rw [formula, Formula.eval, Formula.eval, Condition.eval, eval_formula c hc' ps]
    rcases c.eval doc ps with ⟨_ | _ | _, rest⟩ <;> rfl
  | constant b => rfl
  | isNull f => rfl
  | isNotNull f => rfl
  | equals f p => rfl
  | compares f op p => rfl

theorem eval_formulas (cs : List Condition) (hcs : ReadableAll cs) :
    ∀ c ∈ cs, ∀ ps, (formula c).eval doc ps = c.eval doc ps := by
  cases cs with
  | nil =>
    intro c hc
    cases hc
  | cons d rest =>
    have hd := eval_formula d hcs.1
    have hrest := eval_formulas rest hcs.2
    intro c hc
    rcases List.mem_cons.mp hc with rfl | hc
    · exact hd
    · exact hrest c hc

end

end Sql

open Sql

namespace Predicate

variable {p : Predicate} {ps : List Predicate} {f : Field}

theorem readable_typedMatch (f : Field) (value : Json) :
    Readable (typedMatch f value).condition := by
  cases value with
  | null => trivial
  | bool b => cases b <;> trivial
  | number n => exact ⟨List.cons_ne_nil _ _, trivial⟩
  | string s => exact ⟨trivial, trivial⟩
  | array items => exact ⟨trivial, trivial⟩
  | object members => exact ⟨trivial, trivial⟩

theorem readable_equality (f : Field) (value : Json) (negated : Bool) :
    Readable (equality f value negated).condition := by
  unfold equality
  split
  · split <;> trivial
  · split
    · exact readable_typedMatch f value
    · exact readable_typedMatch f value

theorem readableAll (h : ∀ p ∈ ps, Readable p.condition) : ReadableAll (ps.map condition) := by
  induction ps with
  | nil => trivial
  | cons p ps ih =>
    exact ⟨h p List.mem_cons_self, ih fun q hq => h q (List.mem_cons_of_mem _ hq)⟩

theorem readable_allOf (h : ∀ p ∈ ps, Readable p.condition) : Readable (allOf ps).condition := by
  cases ps with
  | nil => trivial
  | cons p ps => exact ⟨List.cons_ne_nil _ _, readableAll h⟩

theorem readable_anyOf (h : ∀ p ∈ ps, Readable p.condition) : Readable (anyOf ps).condition := by
  cases ps with
  | nil => trivial
  | cons p ps => exact ⟨List.cons_ne_nil _ _, readableAll h⟩

theorem readable_membership (f : Field) (values : List Json) (negated : Bool) :
    Readable (membership f values negated).condition := by
  have hall : ∀ p ∈ values.map (typedMatch f), Readable p.condition := by
    intro p hp
    obtain ⟨value, -, rfl⟩ := List.mem_map.mp hp
    exact readable_typedMatch f value
  unfold membership
  split
  · trivial
  · rename_i p hp
    have hp' : Readable p.condition := hall p (by rw [hp]; exact List.mem_singleton_self p)
    split <;> exact hp'
  · split <;> exact readable_anyOf hall

end Predicate

namespace Filter

theorem ok_of_compileAll {filter : Filter} {rest : List Filter} {ps : List Predicate}
    (h : compileAll (filter :: rest) = .ok ps) :
    ∃ p qs, ps = p :: qs ∧ filter.compile = .ok p ∧ compileAll rest = .ok qs := by
  rw [compileAll] at h
  cases hp : filter.compile with
  | error e =>
    rw [hp] at h
    cases h
  | ok p =>
    cases hqs : compileAll rest with
    | error e =>
      rw [hp, hqs] at h
      cases h
    | ok qs =>
      rw [hp, hqs] at h
      cases h
      exact ⟨p, qs, rfl, rfl, rfl⟩

mutual

theorem compile_readable (filter : Filter) {p : Predicate} (h : filter.compile = .ok p) :
    Readable p.condition := by
  have hfield {name : String} {make : Field → Predicate}
      (h : (validField name).map make = .ok p) (hmake : ∀ f, Readable (make f).condition) :
      Readable p.condition := by
    obtain ⟨f, -, rfl⟩ := ok_of_map h
    exact hmake f
  cases filter with
  | implicit field value => exact hfield h fun f => Predicate.readable_equality f value false
  | equality field value negated =>
    exact hfield h fun f => Predicate.readable_equality f value negated
  | comparison field op value => exact hfield h fun f => trivial
  | membership field values negated =>
    exact hfield h fun f => Predicate.readable_membership f values negated
  | existence field present => exact hfield h fun f => by cases present <;> trivial
  | pattern field text => exact hfield h fun f => trivial
  | and children =>
    obtain ⟨ps, hps, rfl⟩ := ok_of_map h
    exact Predicate.readable_allOf (compileAll_readable children hps)
  | or children =>
    obtain ⟨ps, hps, rfl⟩ := ok_of_map h
    exact Predicate.readable_anyOf (compileAll_readable children hps)

theorem compileAll_readable (filters : List Filter) {ps : List Predicate}
    (h : compileAll filters = .ok ps) : ∀ p ∈ ps, Readable p.condition := by
  cases filters with
  | nil =>
    cases h
    intro p hp
    cases hp
  | cons filter rest =>
    obtain ⟨p, qs, rfl, hp, hqs⟩ := ok_of_compileAll h
    have hfirst := compile_readable filter hp
    have hothers := compileAll_readable rest hqs
    intro q hq
    rcases List.mem_cons.mp hq with rfl | hq
    · exact hfirst
    · exact hothers q hq

end

/-- The text of a compiled filter reads as a formula that takes exactly the parameters of the
filter, from left to right, and is true of the documents that satisfy the filter and of no
others. -/
theorem compile_selects (filter : Filter) (hf : ∀ n ∈ filter.fields, Field.isPath n = true) :
    ∃ p q, filter.compile = .ok p ∧ Formula.ofText? "data" (p.sql "data") = some q ∧
      ∀ doc : Json, (q.eval doc p.params).2 = [] ∧
        ((q.eval doc p.params).1 = some true ↔ filter.holds doc = true) := by
  obtain ⟨p, hp, hd⟩ := compile_decides filter hf
  have hreadable := compile_readable filter hp
  refine ⟨p, formula p.condition, hp, ofText?_text isColumn_data hreadable, fun doc => ?_⟩
  obtain ⟨t, heval, ht⟩ := hd doc []
  rw [List.append_nil] at heval
  rw [eval_formula p.condition hreadable, heval, ← ht, Truth.isTrue, decide_eq_true_eq]
  exact ⟨rfl, Iff.rfl⟩

/-- A filter that excludes one value selects a document without the field. -/
theorem compile_selects_absent : Field.isPath "a.b" = true ∧
    ∃ p q, (equality "a.b" (.string "x") true).compile = .ok p ∧
      Formula.ofText? "data" (p.sql "data") = some q ∧
      (q.eval (.object []) p.params).1 = some true := by
  have hpath : Field.isPath "a.b" = true := by decide
  have hfields : ∀ n ∈ (equality "a.b" (.string "x") true).fields, Field.isPath n = true := by
    intro n hn
    obtain rfl := List.mem_singleton.mp hn
    exact hpath
  obtain ⟨p, q, hp, hq, hselects⟩ := compile_selects (equality "a.b" (.string "x") true) hfields
  have hholds : (equality "a.b" (.string "x") true).holds (.object []) = true := by decide
  exact ⟨hpath, p, q, hp, hq, (hselects (.object [])).2.mpr hholds⟩

end Filter

end DocumentGraph
