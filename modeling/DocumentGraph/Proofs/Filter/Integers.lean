import DocumentGraph.Proofs.Filter.Written
import DocumentGraph.Proofs.Number.Integers
import DocumentGraph.Proofs.Sql.Comparison
import DocumentGraph.Proofs.Store.Frame
set_option autoImplicit false

/-!
# Filters on integers

The engine has 64-bit integers with a sign and holds what is beyond them as binary64 data, in a
document as well as in a filter. So a field with an integer is compared exactly, but for two
integers that are held as the same datum: these are equal to the engine.
-/

namespace DocumentGraph

open Binary64

namespace Json

/-- The value is an integer, not a float of the same value. -/
def IsInteger (j : Json) (n : Int) : Prop := ∃ low high, j = .number (.int n low high)

variable {value literal : Json} {a b : Int}

theorem IsInteger.number (h : value.IsInteger a) : ∃ n, value = .number n := by
  obtain ⟨low, high, rfl⟩ := h
  exact ⟨_, rfl⟩

theorem IsInteger.scaled (h : value.IsInteger a) :
    (∃ q, value.sqlValue.number? = some q) ∧ value.sqlValue.scaled = held a * (unitScale : Int) := by
  obtain ⟨low, high, rfl⟩ := h
  rw [sqlValue, Number.sqlValue]
  by_cases hlt : a < 9223372036854775808
  · have hexact : (Int64.ofInt a).toInt = a := Int64.toInt_ofInt_of_le low hlt
    rw [if_pos hlt, SqlValue.scaled, hexact, held_of_lt hlt]
    exact ⟨⟨_, rfl⟩, rfl⟩
  · rw [if_neg hlt, SqlValue.scaled, scaled_ofInt (Int.not_lt.mp hlt) high]
    exact ⟨⟨_, rfl⟩, rfl⟩

theorem order_integers (hvalue : value.IsInteger a) (hliteral : literal.IsInteger b) :
    value.sqlValue.order literal.sqlValue = compare (held a) (held b) := by
  obtain ⟨⟨q, hq⟩, ha⟩ := hvalue.scaled
  obtain ⟨⟨r, hr⟩, hb⟩ := hliteral.scaled
  rw [SqlValue.order_numbers hq hr, ha, hb, compare_mul_unitScale]

theorem equalsAt_integers (hvalue : value.IsInteger a) (hliteral : literal.IsInteger b) :
    literal.equalsAt (some value) = true ↔ a = b ∨ Merges a b := by
  have horder := order_integers hvalue hliteral
  obtain ⟨m, rfl⟩ := hliteral.number
  obtain ⟨n, rfl⟩ := hvalue.number
  change decide ((Json.number n).sqlValue.order (Json.number m).sqlValue = .eq) = true ↔ _
  rw [decide_eq_true_eq, horder, compare_eq_iff_eq, held_eq_iff]

theorem comparesTo_integers (op : Comparison) (hvalue : value.IsInteger a)
    (hliteral : literal.IsInteger b) :
    comparesTo op value.sqlValue literal = op.holds (compare (held a) (held b)) := by
  rw [comparesTo, order_integers hvalue hliteral]
  obtain ⟨m, rfl⟩ := hliteral.number
  obtain ⟨n, rfl⟩ := hvalue.number
  have hnull : (Json.number n).sqlValue.isNull = false := isNull_sqlValue _
  rw [hnull]
  rfl

end Json

namespace Filter

/-- Read and compiled, the filter selects the document if and only if the condition holds. -/
def SelectsIff (strict : Bool) (j doc : Json) (condition : Prop) : Prop :=
  ∃ filter p, ofJson strict j = .ok filter ∧ filter.compile = .ok p ∧
    (p.selects doc = true ↔ condition)

variable {strict : Bool} {j doc value literal operand : Json} {operator : String} {a b : Int}

theorem selectsIff_of_parses (h : Parses strict j) {condition : Prop}
    (hcondition : doc.satisfies j = true ↔ condition) : SelectsIff strict j doc condition := by
  obtain ⟨filter, hfilter⟩ := h
  obtain ⟨p, hp, hselects⟩ :=
    compile_of_valid (validated_of_isPath (isPath_of_ofJson j hfilter))
  refine ⟨filter, p, hfilter, hp, ?_⟩
  rw [hselects, holds_ofJson j hfilter]
  exact hcondition

theorem SelectsIff.congr {condition other : Prop} (h : SelectsIff strict j doc condition)
    (hiff : condition ↔ other) : SelectsIff strict j doc other := by
  obtain ⟨filter, p, hfilter, hp, hselects⟩ := h
  exact ⟨filter, p, hfilter, hp, hselects.trans hiff⟩

theorem selectsIff_literal (f : Field) (hliteral : literal.IsInteger b) {condition : Prop}
    (hcondition : literal.equalsAt (doc.at? f) = true ↔ condition) :
    SelectsIff strict (.object [(f.name, literal)]) doc condition := by
  have hname : Field.IsDotted f.name := Field.isPath_iff_isDotted.mp f.valid
  obtain ⟨n, rfl⟩ := hliteral.number
  refine selectsIff_of_parses ?_ ?_
  · rw [parses_object, List.forall_mem_singleton]
    exact clause_of_acceptable (.field hname fun _ => List.forall_mem_nil _)
  · rw [Json.satisfies_single,
      Json.satisfiesMember_of_not_isCombinator (not_isCombinator_of_isDotted hname),
      onField_of_isPath f.valid]
    exact hcondition

theorem selectsIff_operator (f : Field) (hoperator : isOperator operator = true) {condition : Prop}
    (hcondition : doc.passes f operator operand = true ↔ condition) :
    SelectsIff strict (.object [(f.name, .object [(operator, operand)])]) doc condition := by
  have hname : Field.IsDotted f.name := Field.isPath_iff_isDotted.mp f.valid
  have hsingle := @areOperators_single (operator, operand) hoperator
  refine selectsIff_of_parses ((parses_operators hsingle).mpr hname) ?_
  rw [satisfies_operators hsingle, List.all_cons, List.all_nil, Bool.and_true,
    onField_of_isPath f.valid]
  exact hcondition

def equalities (f : Field) (literal : Json) : List Json :=
  [.object [(f.name, literal)], .object [(f.name, .object [("$eq", literal)])],
    .object [(f.name, .object [("$in", .array [literal])])]]

def comparing (f : Field) (operator : String) (literal : Json) : Json :=
  .object [(f.name, .object [(operator, literal)])]

theorem selectsIff_equalities {f : Field} (hat : doc.at? f = some value) (hvalue : value.IsInteger a)
    (hliteral : literal.IsInteger b) :
    ∀ j ∈ equalities f literal, SelectsIff strict j doc (a = b ∨ Merges a b) := by
  have hequals : literal.equalsAt (doc.at? f) = true ↔ a = b ∨ Merges a b := by
    rw [hat]
    exact Json.equalsAt_integers hvalue hliteral
  have hamong : doc.passes f "$in" (.array [literal]) = literal.equalsAt (doc.at? f) :=
    Bool.or_false _
  refine List.forall_mem_cons.mpr ⟨selectsIff_literal f hliteral hequals, ?_⟩
  refine List.forall_mem_cons.mpr ⟨selectsIff_operator f (by decide) hequals, ?_⟩
  refine List.forall_mem_singleton.mpr (selectsIff_operator f (by decide) ?_)
  rw [hamong, hequals]

theorem selectsIff_differs {f : Field} (hat : doc.at? f = some value) (hvalue : value.IsInteger a)
    (hliteral : literal.IsInteger b) :
    SelectsIff strict (comparing f "$ne" literal) doc (a ≠ b ∧ ¬ Merges a b) := by
  have hdiffers : doc.passes f "$ne" literal = !literal.equalsAt (doc.at? f) := rfl
  refine selectsIff_operator f (by decide) ?_
  rw [hdiffers, hat, Bool.not_eq_true', ← Bool.not_eq_true, Json.equalsAt_integers hvalue hliteral,
    not_or]

theorem selectsIff_comparing {f : Field} (hat : doc.at? f = some value) (hvalue : value.IsInteger a)
    (hliteral : literal.IsInteger b) :
    SelectsIff strict (comparing f "$lt" literal) doc (a < b ∧ ¬ Merges a b) ∧
    SelectsIff strict (comparing f "$lte" literal) doc (a ≤ b ∨ Merges a b) ∧
    SelectsIff strict (comparing f "$gt" literal) doc (b < a ∧ ¬ Merges a b) ∧
    SelectsIff strict (comparing f "$gte" literal) doc (b ≤ a ∨ Merges a b) := by
  have hcompared (op : Comparison) : Json.comparesTo op (doc.extract f) literal =
      op.holds (compare (held a) (held b)) := by
    rw [Json.extract_of_at? hat, Json.comparesTo_integers op hvalue hliteral]
  refine ⟨selectsIff_operator f (by decide) ?_, selectsIff_operator f (by decide) ?_,
    selectsIff_operator f (by decide) ?_, selectsIff_operator f (by decide) ?_⟩
  · change Json.comparesTo .lt (doc.extract f) literal = true ↔ _
    rw [hcompared, Comparison.holds, decide_eq_true_eq, compare_lt_iff_lt, held_lt_iff]
  · change Json.comparesTo .lte (doc.extract f) literal = true ↔ _
    rw [hcompared, Comparison.holds, decide_eq_true_eq, ne_eq, compare_gt_iff_gt, not_lt, held_le_iff]
  · change Json.comparesTo .gt (doc.extract f) literal = true ↔ _
    rw [hcompared, Comparison.holds, decide_eq_true_eq, compare_gt_iff_gt, held_lt_iff, merges_comm]
  · change Json.comparesTo .gte (doc.extract f) literal = true ↔ _
    rw [hcompared, Comparison.holds, decide_eq_true_eq, ne_eq, compare_lt_iff_lt, not_lt, held_le_iff,
      merges_comm]

end Filter

namespace Collection

variable {c : Collection} {s t : Store} {r : Except StoreError Nat} {filter : Filter} {p : Predicate}
  {e : Entry}

theorem selected_of_deleteWhere (hp : filter.compile = .ok p) (hdelete : c.deleteWhere filter s = (r, t))
    (he : e ∈ s.entries) (hgone : e ∉ t.entries) : e.collection = c.name ∧ p.selects e.data = true := by
  obtain ⟨-, hentries | hentries⟩ := (c.deleteWhere_yields s hp).state hdelete
  · rw [hentries, Entries.removeWhere, List.mem_filter] at hgone
    simpa [he, Entries.isSelected] using hgone
  · rw [hentries] at hgone
    exact absurd he hgone

theorem deleteWhere_of_selected (hp : filter.compile = .ok p) (hdelete : c.deleteWhere filter s = (r, t))
    (hready : s.Ready) (hcollection : e.collection = c.name) (hselects : p.selects e.data = true) :
    e ∉ t.entries := by
  obtain ⟨u, hu, -, hentries⟩ := (c.deleteWhere_yields s hp).of_ready hready
  cases hu.symm.trans hdelete
  rw [hentries, Entries.removeWhere, List.mem_filter]
  simp [Entries.isSelected, hcollection, hselects]

end Collection

namespace Filter

/-- A filter on an integer compares it exactly to the integers that documents have at the field,
except for two integers beyond 63 bits that have the same nearest binary64 datum: these count as
equal. Deleting by equality removes a different integer only if it counts as equal. -/
theorem integers_compared (strict : Bool) (f : Field) {literal : Json} {b : Int}
    (hliteral : literal.IsInteger b) :
    (∀ doc value a, doc.at? f = some value → value.IsInteger a →
      (∀ j ∈ equalities f literal, SelectsIff strict j doc (a = b ∨ Merges a b)) ∧
      SelectsIff strict (comparing f "$ne" literal) doc (a ≠ b ∧ ¬ Merges a b) ∧
      SelectsIff strict (comparing f "$lt" literal) doc (a < b ∧ ¬ Merges a b) ∧
      SelectsIff strict (comparing f "$lte" literal) doc (a ≤ b ∨ Merges a b) ∧
      SelectsIff strict (comparing f "$gt" literal) doc (b < a ∧ ¬ Merges a b) ∧
      SelectsIff strict (comparing f "$gte" literal) doc (b ≤ a ∨ Merges a b)) ∧
    ∀ j ∈ equalities f literal, ∀ filter, ofJson strict j = .ok filter →
      ∀ (c : Collection) s r t, c.deleteWhere filter s = (r, t) →
      ∀ e ∈ s.entries, ∀ value a, e.data.at? f = some value → value.IsInteger a →
        (e ∉ t.entries → e.collection = c.name ∧ (a = b ∨ Merges a b)) ∧
        (s.Ready → e.collection = c.name → a = b ∨ Merges a b → e ∉ t.entries) := by
  refine ⟨fun doc value a hat hvalue => ⟨?_, ?_, ?_⟩,
    fun j hj filter hfilter c s r t hdelete e he value a hat hvalue => ?_⟩
  · exact selectsIff_equalities hat hvalue hliteral
  · exact selectsIff_differs hat hvalue hliteral
  · exact selectsIff_comparing hat hvalue hliteral
  · obtain ⟨g, p, hg, hp, hselects⟩ := selectsIff_equalities hat hvalue hliteral j hj
    cases hfilter.symm.trans hg
    refine ⟨fun hgone => ?_, fun hready hcollection hequal => ?_⟩
    · obtain ⟨hcollection, hselected⟩ := Collection.selected_of_deleteWhere hp hdelete he hgone
      exact ⟨hcollection, hselects.mp hselected⟩
    · exact Collection.deleteWhere_of_selected hp hdelete hready hcollection (hselects.mpr hequal)

/-- The first integer beyond 63 bits is told apart from the one below it, not from the one above. -/
theorem integers_compared_beyond_words :
    let literal : Json := .number (.int 9223372036854775808 (by decide) (by decide))
    let below : Json := .number (.int 9223372036854775807 (by decide) (by decide))
    let above : Json := .number (.int 9223372036854775809 (by decide) (by decide))
    literal.IsInteger 9223372036854775808 ∧
    SelectsIff true (comparing ⟨"n", by decide⟩ "$lt" literal) (.object [("n", below)]) True ∧
    SelectsIff true (comparing ⟨"n", by decide⟩ "$gt" literal) (.object [("n", above)]) False := by
  intro literal below above
  have hliteral : literal.IsInteger 9223372036854775808 := ⟨_, _, rfl⟩
  obtain ⟨hcompared, -⟩ := integers_compared true ⟨"n", by decide⟩ hliteral
  obtain ⟨-, -, hless, -⟩ := hcompared (.object [("n", below)]) below _ rfl ⟨_, _, rfl⟩
  obtain ⟨-, -, -, -, hmore, -⟩ := hcompared (.object [("n", above)]) above _ rfl ⟨_, _, rfl⟩
  have hapart : ¬ Merges 9223372036854775807 9223372036854775808 := fun h => absurd h.1 (by decide)
  exact ⟨hliteral, hless.congr (iff_true_intro ⟨by decide, hapart⟩),
    hmore.congr (iff_false_intro fun h => h.2 merges_least)⟩

/-- Of two different integers beyond 63 bits the filter for one selects the document with the other
one, and deleting by it removes that document. -/
theorem different_integer_deleted :
    let literal : Json := .number (.int 9223372036854775808 (by decide) (by decide))
    let doc : Json := .object [("n", .number (.int 9223372036854775809 (by decide) (by decide)))]
    let c : Collection := ⟨"c"⟩
    let s : Store := ⟨.initial, Database.empty.withEntries "documents" [⟨"c", "x", doc, 0, 0⟩], .zero, [],
      .still 0⟩
    (9223372036854775809 : Int) ≠ 9223372036854775808 ∧
    ∃ filter p, ofJson false (.object [("n", literal)]) = .ok filter ∧ filter.compile = .ok p ∧
      p.selects doc = true ∧ ∃ t, c.deleteWhere filter s = (.ok 1, t) ∧ t.entries = [] := by
  intro literal doc c s
  have hliteral : literal.IsInteger 9223372036854775808 := ⟨_, _, rfl⟩
  have hvalue : Json.IsInteger (.number (.int 9223372036854775809 (by decide) (by decide)))
      9223372036854775809 := ⟨_, _, rfl⟩
  have hat : doc.at? ⟨"n", by decide⟩ =
    some (.number (.int 9223372036854775809 (by decide) (by decide))) := rfl
  obtain ⟨filter, p, hfilter, hp, hselects⟩ :=
    selectsIff_equalities hat hvalue hliteral _ List.mem_cons_self
  have hselected : p.selects doc = true := hselects.mpr (.inr merges_least)
  have hentries : s.entries = [⟨"c", "x", doc, 0, 0⟩] := Database.entries_withEntries _ _ _
  obtain ⟨t, ht, -, hleft⟩ := (c.deleteWhere_yields s hp).of_ready ⟨rfl, rfl⟩
  have hlength : (s.entries.select c.name p).length = 1 := by
    rw [hentries]
    simp [Entries.select, Entries.isSelected, hselected, c]
  rw [hlength] at ht
  refine ⟨by decide, filter, p, hfilter, hp, hselected, t, ht, ?_⟩
  rw [hleft, hentries]
  simp [Entries.removeWhere, Entries.isSelected, hselected, c]

end Filter

end DocumentGraph
