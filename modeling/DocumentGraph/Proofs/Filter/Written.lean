import DocumentGraph.Proofs.Filter.Grammar
import DocumentGraph.Proofs.Filter.Validation
import DocumentGraph.Proofs.Json.RoundTrip
set_option autoImplicit false

/-!
# Filters as they are written

What a document has to be like is read off the JSON of a filter here, without the tree that it is
parsed to: every member of an object asks something of the document, and what a field is compared
with is operators only if it says so throughout. A filter that is parsed holds of exactly the
documents that are like this. Rewriting a filter into conjunctions of single members, or changing
the order of a list in it, changes neither whether it is parsed nor what it asks for.
-/

namespace DocumentGraph

namespace Json

def has (doc : Json) (f : Field) : Bool := (doc.at? f).any fun j => !j.isNull

def isAmong (doc : Json) (f : Field) (candidates : List Json) : Bool :=
  candidates.any fun j => j.equalsAt (doc.at? f)

def areOperators (members : List (String × Json)) : Bool :=
  !members.isEmpty && members.all fun m => Filter.isOperator m.1

/-- What an operator with its operand says about the value at a field. -/
def passes (doc : Json) (f : Field) (operator : String) (operand : Json) : Bool :=
  if operator = "$eq" then operand.equalsAt (doc.at? f)
  else if operator = "$ne" then !operand.equalsAt (doc.at? f)
  else if operator = "$gt" then comparesTo .gt (doc.extract f) operand
  else if operator = "$gte" then comparesTo .gte (doc.extract f) operand
  else if operator = "$lt" then comparesTo .lt (doc.extract f) operand
  else if operator = "$lte" then comparesTo .lte (doc.extract f) operand
  else if operator = "$in" then doc.isAmong f (Filter.candidates operand)
  else if operator = "$nin" then !doc.isAmong f (Filter.candidates operand)
  else if operator = "$exists" then doc.has f == Filter.truthy operand
  else (SqlValue.text (Filter.patternText operand)).contains (doc.extract f)

/-- What a field is compared with: a literal, or operators that all have to be passed. -/
def fits (doc : Json) (f : Field) : Json → Bool
  | .object members =>
    if areOperators members then members.all fun m => doc.passes f m.1 m.2
    else (Json.object members).equalsAt (doc.at? f)
  | literal => literal.equalsAt (doc.at? f)

mutual

/-- The document is as the filter asks. -/
def satisfies (doc : Json) : Json → Bool
  | .null => true
  | .object members => satisfiesMembers doc members
  | _ => false

def satisfiesMembers (doc : Json) : List (String × Json) → Bool
  | [] => true
  | (key, value) :: rest => satisfiesMember doc key value && satisfiesMembers doc rest

def satisfiesMember (doc : Json) (key : String) : Json → Bool
  | .array items =>
    if key = "$and" then satisfiesAll doc items
    else if key = "$or" then items.isEmpty || satisfiesAny doc items
    else Filter.onField key fun f => doc.fits f (.array items)
  | value => Filter.onField key fun f => doc.fits f value

def satisfiesAll (doc : Json) : List Json → Bool
  | [] => true
  | j :: rest => satisfies doc j && satisfiesAll doc rest

def satisfiesAny (doc : Json) : List Json → Bool
  | [] => false
  | j :: rest => satisfies doc j || satisfiesAny doc rest

end

variable {doc : Json}

theorem satisfiesMembers_eq_all (doc : Json) (members : List (String × Json)) :
    doc.satisfiesMembers members = members.all fun m => doc.satisfiesMember m.1 m.2 := by
  induction members with
  | nil => rfl
  | cons m rest ih => rw [satisfiesMembers, ih, List.all_cons]

theorem satisfiesAll_eq_all (doc : Json) (items : List Json) :
    doc.satisfiesAll items = items.all doc.satisfies := by
  induction items with
  | nil => rfl
  | cons j rest ih => rw [satisfiesAll, ih, List.all_cons]

theorem satisfiesAny_eq_any (doc : Json) (items : List Json) :
    doc.satisfiesAny items = items.any doc.satisfies := by
  induction items with
  | nil => rfl
  | cons j rest ih => rw [satisfiesAny, ih, List.any_cons]

theorem satisfies_object (doc : Json) (members : List (String × Json)) :
    doc.satisfies (.object members) = members.all fun m => doc.satisfiesMember m.1 m.2 :=
  doc.satisfiesMembers_eq_all members

theorem satisfies_single (doc : Json) (key : String) (value : Json) :
    doc.satisfies (.object [(key, value)]) = doc.satisfiesMember key value := by
  rw [satisfies_object, List.all_cons, List.all_nil, Bool.and_true]

theorem satisfiesMember_and (doc : Json) (items : List Json) :
    doc.satisfiesMember "$and" (.array items) = items.all doc.satisfies := by
  rw [satisfiesMember, if_pos rfl, satisfiesAll_eq_all]

theorem satisfiesMember_or (doc : Json) (items : List Json) :
    doc.satisfiesMember "$or" (.array items) = (items.isEmpty || items.any doc.satisfies) := by
  rw [satisfiesMember, if_neg (by decide), if_pos rfl, satisfiesAny_eq_any]

theorem satisfiesMember_of_not_isCombinator {key : String} (h : ¬ Filter.IsCombinator key)
    (value : Json) :
    doc.satisfiesMember key value = Filter.onField key fun f => doc.fits f value := by
  obtain ⟨hand, hor⟩ := not_or.mp h
  cases value with
  | array items => rw [satisfiesMember, if_neg hand, if_neg hor]
  | _ => rfl

theorem compact_injective {i j : Json} (hi : i.WellFormed) (hj : j.WellFormed)
    (h : i.compact = j.compact) : i = j := by
  have hread := read_compact hi (Nat.le_max_left i.depth j.depth)
  rw [h, read_compact hj (Nat.le_max_right i.depth j.depth)] at hread
  cases hread
  rfl

theorem equalsAt_iff_eq {literal value : Json} (hl : literal.WellFormed) (hv : value.WellFormed)
    (hnumber : ∀ n, literal ≠ .number n) : literal.equalsAt (some value) = true ↔ literal = value := by
  have hcompact : literal.compact = value.compact ↔ literal = value :=
    ⟨compact_injective hl hv, congrArg compact⟩
  cases literal with
  | number n => exact absurd rfl (hnumber n)
  | array items =>
    cases value with
    | array _ => exact decide_eq_true_iff.trans hcompact
    | _ => simp [equalsAt]
  | object members =>
    cases value with
    | object _ => exact decide_eq_true_iff.trans hcompact
    | _ => simp [equalsAt]
  | _ => cases value <;> simp [equalsAt]

theorem has_eq_not_isNull (doc : Json) (f : Field) : doc.has f = !(doc.extract f).isNull := by
  unfold has extract
  cases doc.at? f with
  | none => rfl
  | some j => rw [Option.any_some, isNull_sqlValue]

end Json

namespace Filter

variable {strict : Bool} {doc : Json}

theorem holds_conjunction (doc : Json) (fs : List Filter) :
    (conjunction fs).holds doc = fs.all (holds doc) := by
  rcases fs with _ | ⟨f, _ | ⟨g, rest⟩⟩
  · rfl
  · rw [conjunction, List.all_cons, List.all_nil, Bool.and_true]
  · rw [conjunction, holds, holdsForAll_eq_all]
    nofun

theorem holds_operatorClause (doc : Json) (field operator : String) (operand : Json) :
    (operatorClause field operator operand).holds doc =
      onField field fun f => doc.passes f operator operand := by
  have hpresent (f : Field) (present : Bool) :
      ((doc.extract f).isNull != present) = (doc.has f == present) := by
    rw [Json.has_eq_not_isNull]
    cases (doc.extract f).isNull <;> cases present <;> rfl
  unfold operatorClause
  simp only [apply_ite (holds doc), holds, Bool.bne_false, Bool.bne_true, hpresent]
  cases hfield : Field.ofName? field with
  | none => simp only [onField, hfield, ite_self]
  | some f =>
    simp only [onField, hfield]
    rfl

theorem onField_all {α : Type} (name : String) (test : Field → α → Bool) {xs : List α}
    (hne : xs ≠ []) :
    (onField name fun f => xs.all (test f)) = xs.all fun x => onField name fun f => test f x := by
  unfold onField
  cases Field.ofName? name with
  | some f => rfl
  | none =>
    obtain ⟨x, rest, rfl⟩ := List.exists_cons_of_ne_nil hne
    rfl

theorem areOperators_iff {members : List (String × Json)} :
    Json.areOperators members = true ↔
      members ≠ [] ∧ ∀ m ∈ members, isOperator m.1 = true := by
  rw [Json.areOperators, Bool.and_eq_true, List.all_eq_true, Bool.not_eq_true',
    List.isEmpty_eq_false_iff]

theorem fieldClause_of_operators {members : List (String × Json)} {field : String}
    (h : Json.areOperators members = true) :
    fieldClause strict field (.object members) =
      .ok (conjunction (members.map fun m => operatorClause field m.1 m.2)) := by
  rw [fieldClause]
  exact if_pos h

theorem holds_fieldClause {field : String} {value : Json} {f : Filter}
    (h : fieldClause strict field value = .ok f) :
    f.holds doc = onField field fun k => doc.fits k value := by
  have hliteral {f : Filter} (hf : Except.ok (.implicit field value) = (.ok f : Except StoreError _))
      (hfits : ∀ k, doc.fits k value = value.equalsAt (doc.at? k)) :
      f.holds doc = onField field fun k => doc.fits k value := by
    cases hf
    simp only [holds, hfits]
  cases value with
  | object members =>
    cases hops : Json.areOperators members with
    | true =>
      rw [fieldClause_of_operators hops] at h
      cases h
      simp only [Json.fits, if_pos hops]
      rw [holds_conjunction, List.all_map, onField_all _ _ (areOperators_iff.mp hops).1]
      exact congrArg members.all (funext fun m => holds_operatorClause _ _ _ _)
    | false =>
      have hfits : ∀ k, doc.fits k (.object members) = (Json.object members).equalsAt (doc.at? k) :=
        fun k => by simp only [Json.fits, hops]; rfl
      have hliterally : (!members.isEmpty && members.all fun m => isOperator m.1) = false := hops
      rw [fieldClause, hliterally, if_neg Bool.false_ne_true] at h
      split at h
      · split at h
        · cases h
        · exact hliteral h hfits
      · exact hliteral h hfits
  | _ => exact hliteral h fun _ => rfl

theorem holds_plainClause {key : String} {value : Json} {f : Filter}
    (h : plainClause strict key value = .ok f) :
    f.holds doc = onField key fun k => doc.fits k value := by
  unfold plainClause at h
  cases hkey : validField key with
  | error e =>
    rw [hkey] at h
    cases h
  | ok k =>
    rw [hkey] at h
    exact holds_fieldClause h

theorem ok_of_bind {α β : Type} {x : Except StoreError α} {f : α → Except StoreError β} {b : β}
    (h : (x >>= f) = .ok b) : ∃ a, x = .ok a ∧ f a = .ok b := by
  cases x with
  | error e => cases h
  | ok a => exact ⟨a, rfl, h⟩

theorem ok_of_clauses {key : String} {value : Json} {rest : List (String × Json)} {fs : List Filter}
    (h : clauses strict ((key, value) :: rest) = .ok fs) :
    ∃ f gs, fs = f :: gs ∧ clause strict key value = .ok f ∧ clauses strict rest = .ok gs := by
  rw [clauses] at h
  obtain ⟨f, hf, h⟩ := ok_of_bind h
  obtain ⟨gs, hgs, h⟩ := ok_of_bind h
  cases h
  exact ⟨f, gs, rfl, hf, hgs⟩

theorem ok_of_children {j : Json} {rest : List Json} {fs : List Filter}
    (h : children strict (j :: rest) = .ok fs) :
    ∃ f gs, fs = f :: gs ∧ ofJson strict j = .ok f ∧ children strict rest = .ok gs := by
  rw [children] at h
  obtain ⟨f, hf, h⟩ := ok_of_bind h
  obtain ⟨gs, hgs, h⟩ := ok_of_bind h
  cases h
  exact ⟨f, gs, rfl, hf, hgs⟩

mutual

/-- A parsed filter holds of the documents that satisfy it as it is written. -/
theorem holds_ofJson (j : Json) {f : Filter} (h : ofJson strict j = .ok f) :
    f.holds doc = doc.satisfies j := by
  cases j with
  | null =>
    cases h
    exact holds_all doc
  | object members =>
    obtain ⟨fs, hfs, rfl⟩ := ok_of_map h
    rw [holds_conjunction, holds_clauses members hfs, Json.satisfies]
  | _ => cases h

theorem holds_clauses (members : List (String × Json)) {fs : List Filter}
    (h : clauses strict members = .ok fs) : fs.all (holds doc) = doc.satisfiesMembers members := by
  match members with
  | [] =>
    cases h
    rfl
  | (key, value) :: rest =>
    obtain ⟨f, gs, rfl, hf, hgs⟩ := ok_of_clauses h
    rw [List.all_cons, holds_clause key value hf, holds_clauses rest hgs, Json.satisfiesMembers]

theorem holds_clause (key : String) (value : Json) {f : Filter}
    (h : clause strict key value = .ok f) : f.holds doc = doc.satisfiesMember key value := by
  by_cases hkey : IsCombinator key
  · cases value with
    | array items =>
      rw [clause_of_isCombinator hkey] at h
      obtain ⟨fs, hfs, rfl⟩ := ok_of_map h
      obtain ⟨hall, hany, hempty⟩ := holds_children items hfs
      rcases hkey with rfl | rfl
      · rw [if_pos rfl, holds, holdsForAll_eq_all, hall, Json.satisfiesMember, if_pos rfl]
      · rw [if_neg (by decide), holds, holdsForAny_eq_any, hany, hempty, Json.satisfiesMember,
          if_neg (by decide), if_pos rfl]
    | _ =>
      rw [clause_of_not_isArray hkey rfl] at h
      cases h
  · rw [clause_of_not_isCombinator hkey] at h
    rw [Json.satisfiesMember_of_not_isCombinator hkey, holds_plainClause h]

theorem holds_children (items : List Json) {fs : List Filter}
    (h : children strict items = .ok fs) :
    fs.all (holds doc) = doc.satisfiesAll items ∧ fs.any (holds doc) = doc.satisfiesAny items ∧
      fs.isEmpty = items.isEmpty := by
  match items with
  | [] =>
    cases h
    exact ⟨rfl, rfl, rfl⟩
  | j :: rest =>
    obtain ⟨f, gs, rfl, hf, hgs⟩ := ok_of_children h
    obtain ⟨hall, hany, -⟩ := holds_children rest hgs
    rw [List.all_cons, List.any_cons, holds_ofJson j hf, hall, hany]
    exact ⟨rfl, rfl, rfl⟩

end

theorem fields_conjunction (fs : List Filter) : (conjunction fs).fields = fs.flatMap fields := by
  rcases fs with _ | ⟨f, _ | ⟨g, rest⟩⟩
  · rfl
  · rw [conjunction, List.flatMap_singleton]
  · rw [conjunction, fields, fieldsAll_eq_flatMap]
    nofun

theorem fields_operatorClause (field operator : String) (operand : Json) :
    (operatorClause field operator operand).fields = [field] := by
  simp only [operatorClause, apply_ite fields, fields, ite_self]

theorem fields_fieldClause {field : String} {value : Json} {f : Filter}
    (h : fieldClause strict field value = .ok f) : ∀ n ∈ f.fields, n = field := by
  have hliteral {f : Filter} (hf : Except.ok (.implicit field value) = (.ok f : Except StoreError _)) :
      ∀ n ∈ f.fields, n = field := by
    cases hf
    exact fun n hn => List.mem_singleton.mp hn
  cases value with
  | object members =>
    rw [fieldClause] at h
    split at h
    · cases h
      intro n hn
      rw [fields_conjunction, List.flatMap_map] at hn
      obtain ⟨m, -, hn⟩ := List.mem_flatMap.mp hn
      rw [fields_operatorClause] at hn
      exact List.mem_singleton.mp hn
    · split at h
      · split at h
        · cases h
        · exact hliteral h
      · exact hliteral h
  | _ => exact hliteral h

theorem isPath_of_plainClause {key : String} {value : Json} {f : Filter}
    (h : plainClause strict key value = .ok f) : ∀ n ∈ f.fields, Field.isPath n = true := by
  obtain ⟨k, hk, h⟩ := ok_of_bind h
  intro n hn
  rw [fields_fieldClause h n hn, ← name_of_validField hk]
  exact k.valid

mutual

theorem isPath_of_ofJson (j : Json) {f : Filter} (h : ofJson strict j = .ok f) :
    ∀ n ∈ f.fields, Field.isPath n = true := by
  cases j with
  | null =>
    cases h
    exact List.forall_mem_nil _
  | object members =>
    obtain ⟨fs, hfs, rfl⟩ := ok_of_map h
    rw [fields_conjunction]
    exact isPath_of_clauses members hfs
  | _ => cases h

theorem isPath_of_clauses (members : List (String × Json)) {fs : List Filter}
    (h : clauses strict members = .ok fs) : ∀ n ∈ fs.flatMap fields, Field.isPath n = true := by
  match members with
  | [] =>
    cases h
    exact List.forall_mem_nil _
  | (key, value) :: rest =>
    obtain ⟨f, gs, rfl, hf, hgs⟩ := ok_of_clauses h
    rw [List.flatMap_cons]
    exact List.forall_mem_append.mpr ⟨isPath_of_clause key value hf, isPath_of_clauses rest hgs⟩

theorem isPath_of_clause (key : String) (value : Json) {f : Filter}
    (h : clause strict key value = .ok f) : ∀ n ∈ f.fields, Field.isPath n = true := by
  by_cases hkey : IsCombinator key
  · cases value with
    | array items =>
      rw [clause_of_isCombinator hkey] at h
      obtain ⟨fs, hfs, rfl⟩ := ok_of_map h
      have hfields := isPath_of_children items hfs
      rw [← fieldsAll_eq_flatMap] at hfields
      split <;> exact hfields
    | _ =>
      rw [clause_of_not_isArray hkey rfl] at h
      cases h
  · rw [clause_of_not_isCombinator hkey] at h
    exact isPath_of_plainClause h

theorem isPath_of_children (items : List Json) {fs : List Filter}
    (h : children strict items = .ok fs) : ∀ n ∈ fs.flatMap fields, Field.isPath n = true := by
  match items with
  | [] =>
    cases h
    exact List.forall_mem_nil _
  | j :: rest =>
    obtain ⟨f, gs, rfl, hf, hgs⟩ := ok_of_children h
    rw [List.flatMap_cons]
    exact List.forall_mem_append.mpr ⟨isPath_of_ofJson j hf, isPath_of_children rest hgs⟩

end

def Parses (strict : Bool) (j : Json) : Prop := ∃ f, ofJson strict j = .ok f

/-- One filter is the other one with the members of an object or the operators of a field split into
a conjunction, or with a list in another order, outside or inside of combinators. -/
inductive Rephrases : Json → Json → Prop where
  | refl (j : Json) : Rephrases j j
  | symm {i j : Json} (h : Rephrases i j) : Rephrases j i
  | trans {i j k : Json} (h : Rephrases i j) (h' : Rephrases j k) : Rephrases i k
  | members (ms : List (String × Json)) :
      Rephrases (.object ms) (.object [("$and", .array (ms.map fun m => .object [m]))])
  | operators (key : String) {ms : List (String × Json)} (h : Json.areOperators ms = true) :
      Rephrases (.object [(key, .object ms)])
        (.object [("$and", .array (ms.map fun m => .object [(key, .object [m])]))])
  | order {key : String} (hkey : IsCombinator key) {xs ys : List Json} (h : xs.Perm ys) :
      Rephrases (.object [(key, .array xs)]) (.object [(key, .array ys)])
  | candidates (key : String) {operator : String} (hop : operator = "$in" ∨ operator = "$nin")
      {xs ys : List Json} (h : xs.Perm ys) :
      Rephrases (.object [(key, .object [(operator, .array xs)])])
        (.object [(key, .object [(operator, .array ys)])])
  | inside {key : String} (hkey : IsCombinator key) (before after : List Json) {i j : Json}
      (h : Rephrases i j) :
      Rephrases (.object [(key, .array (before ++ i :: after))])
        (.object [(key, .array (before ++ j :: after))])

variable {key : String} {items : List Json}

theorem parses_object {members : List (String × Json)} :
    Parses strict (.object members) ↔ ∀ m ∈ members, ∃ f, clause strict m.1 m.2 = .ok f := by
  constructor
  · rintro ⟨f, hf⟩
    rw [ofJson] at hf
    obtain ⟨fs, hfs, -⟩ := ok_of_map hf
    clear hf
    induction members generalizing fs with
    | nil => exact List.forall_mem_nil _
    | cons m rest ih =>
      obtain ⟨g, gs, -, hg, hgs⟩ := ok_of_clauses hfs
      exact List.forall_mem_cons.mpr ⟨⟨g, hg⟩, ih gs hgs⟩
  · intro h
    obtain ⟨fs, hfs⟩ := clauses_of_forall h
    exact ⟨conjunction fs, by rw [ofJson, hfs]; rfl⟩

theorem parses_combined (hkey : IsCombinator key) :
    Parses strict (.object [(key, .array items)]) ↔ ∀ j ∈ items, Parses strict j := by
  rw [parses_object, List.forall_mem_singleton]
  constructor
  · rintro ⟨f, hf⟩
    rw [clause_of_isCombinator hkey] at hf
    obtain ⟨fs, hfs, -⟩ := ok_of_map hf
    clear hf
    induction items generalizing fs with
    | nil => exact List.forall_mem_nil _
    | cons j rest ih =>
      obtain ⟨g, gs, -, hg, hgs⟩ := ok_of_children hfs
      exact List.forall_mem_cons.mpr ⟨⟨g, hg⟩, ih gs hgs⟩
  · intro h
    obtain ⟨fs, hfs⟩ := children_of_forall h
    exact ⟨_, by rw [clause_of_isCombinator hkey, hfs]; rfl⟩

theorem parses_operators {members : List (String × Json)} (h : Json.areOperators members = true) :
    Parses strict (.object [(key, .object members)]) ↔ Field.IsDotted key := by
  rw [parses_object, List.forall_mem_singleton]
  constructor
  · rintro ⟨f, hf⟩
    by_contra hpath
    by_cases hkey : IsCombinator key
    · rw [clause_of_not_isArray hkey rfl] at hf
      cases hf
    · rw [clause_of_not_isCombinator hkey, plainClause_of_not_isDotted hpath] at hf
      cases hf
  · intro hkey
    refine clause_of_acceptable (.field hkey fun _ k hk => ?_)
    obtain ⟨m, hm, rfl⟩ := List.mem_map.mp hk
    rw [isStrangeOperator, (areOperators_iff.mp h).2 m hm, Bool.not_true, Bool.and_false]

theorem areOperators_single {m : String × Json} (h : isOperator m.1 = true) :
    Json.areOperators [m] = true :=
  areOperators_iff.mpr ⟨List.cons_ne_nil _ _, List.forall_mem_singleton.mpr h⟩

theorem isOperator_of_membership {operator : String} (h : operator = "$in" ∨ operator = "$nin") :
    isOperator operator = true := by
  rcases h with rfl | rfl <;> decide

theorem satisfies_operators {members : List (String × Json)}
    (h : Json.areOperators members = true) :
    doc.satisfies (.object [(key, .object members)]) =
      members.all fun m => onField key fun f => doc.passes f m.1 m.2 := by
  have hfits (f : Field) : doc.fits f (.object members) = members.all fun m => doc.passes f m.1 m.2 :=
    if_pos h
  rw [Json.satisfies_single]
  change (onField key fun f => doc.fits f (.object members)) = _
  simp only [hfits]
  exact onField_all key _ (areOperators_iff.mp h).1

theorem satisfies_combined (hkey : IsCombinator key) {xs ys : List Json}
    (hall : xs.all doc.satisfies = ys.all doc.satisfies)
    (hany : xs.any doc.satisfies = ys.any doc.satisfies) (hempty : xs.isEmpty = ys.isEmpty) :
    doc.satisfies (.object [(key, .array xs)]) = doc.satisfies (.object [(key, .array ys)]) := by
  rw [Json.satisfies_single, Json.satisfies_single]
  rcases hkey with rfl | rfl
  · rw [Json.satisfiesMember_and, Json.satisfiesMember_and, hall]
  · rw [Json.satisfiesMember_or, Json.satisfiesMember_or, hany, hempty]

/-- What is asked for does not change, and neither does whether it is parsed. -/
theorem Rephrases.same (strict : Bool) {i j : Json} (h : Rephrases i j) :
    (Parses strict i ↔ Parses strict j) ∧ ∀ doc : Json, doc.satisfies i = doc.satisfies j := by
  induction h with
  | refl j => exact ⟨Iff.rfl, fun doc => rfl⟩
  | symm _ ih => exact ⟨ih.1.symm, fun doc => (ih.2 doc).symm⟩
  | trans _ _ ih ih' => exact ⟨ih.1.trans ih'.1, fun doc => (ih.2 doc).trans (ih'.2 doc)⟩
  | members ms =>
    refine ⟨?_, fun doc => ?_⟩
    · rw [parses_combined (.inl rfl), List.forall_mem_map, parses_object]
      simp only [parses_object, List.forall_mem_singleton]
    · rw [Json.satisfies_single, Json.satisfiesMember_and, List.all_map, Json.satisfies_object]
      exact congrArg ms.all (funext fun m => (doc.satisfies_single m.1 m.2).symm)
  | @operators key ms h =>
    obtain ⟨hne, hms⟩ := areOperators_iff.mp h
    refine ⟨?_, fun doc => ?_⟩
    · rw [parses_operators h, parses_combined (.inl rfl), List.forall_mem_map]
      constructor
      · exact fun hkey m hm => (parses_operators (areOperators_single (hms m hm))).mpr hkey
      · intro hall
        obtain ⟨m, hm⟩ := List.exists_mem_of_ne_nil ms hne
        exact (parses_operators (areOperators_single (hms m hm))).mp (hall m hm)
    · rw [satisfies_operators h, Json.satisfies_single, Json.satisfiesMember_and, List.all_map]
      rw [Bool.eq_iff_iff, List.all_eq_true, List.all_eq_true]
      refine forall₂_congr fun m hm => ?_
      rw [Function.comp_apply, satisfies_operators (areOperators_single (hms m hm)), List.all_cons,
        List.all_nil, Bool.and_true]
  | order hkey h =>
    refine ⟨?_, fun doc => satisfies_combined hkey (h.all_eq) (h.any_eq) ?_⟩
    · rw [parses_combined hkey, parses_combined hkey]
      exact forall_congr' fun j => imp_congr_left h.mem_iff
    · exact h.isEmpty_eq
  | @candidates key operator hop xs ys h =>
    have hsingle (zs : List Json) : Json.areOperators [(operator, .array zs)] = true :=
      areOperators_single (isOperator_of_membership hop)
    refine ⟨?_, fun doc => ?_⟩
    · rw [parses_operators (hsingle xs), parses_operators (hsingle ys)]
    · have hamong (f : Field) : doc.isAmong f xs = doc.isAmong f ys := h.any_eq
      rw [satisfies_operators (hsingle xs), satisfies_operators (hsingle ys)]
      rcases hop with rfl | rfl <;> simp [Json.passes, Filter.candidates, hamong]
  | @inside key hkey before after i j _ ih =>
    refine ⟨?_, fun doc => satisfies_combined hkey ?_ ?_ ?_⟩
    · rw [parses_combined hkey, parses_combined hkey]
      simp only [List.forall_mem_append, List.forall_mem_cons, ih.1]
    · simp only [List.all_append, List.all_cons, ih.2]
    · simp only [List.any_append, List.any_cons, ih.2]
    · cases before <;> rfl

end Filter

end DocumentGraph
