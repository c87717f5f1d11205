import DocumentGraph.Filter.Predicate
import DocumentGraph.Filter.Semantics
import DocumentGraph.Proofs.Json.Minified
import Mathlib.Data.List.Forall2
set_option autoImplicit false

/-!
# Compiled filters mean what filters mean

A predicate decides a document when its condition takes exactly its own parameters from the front
of any list of parameters and is true exactly as told; it need not be false otherwise, for a
condition on what is absent is unknown. Each way of building predicates keeps this, so a compiled
filter selects the documents that satisfy the filter.
-/

namespace DocumentGraph

namespace SqlValue

theorem order_text_eq_iff (s t : String) : (text t).order (text s) = .eq ↔ s = t := by
  change compare t s = .eq ↔ s = t
  rw [Std.LawfulEqCmp.compare_eq_iff_eq, eq_comm]

theorem isTrue_compared (holds : Ordering → Bool) (a b : SqlValue) :
    (compared holds a b).isTrue = (!a.isNull && !b.isNull && holds (a.order b)) := by
  unfold compared
  cases ha : a.isNull <;> cases hb : b.isNull <;> simp [Truth.isTrue]

end SqlValue

namespace Json

theorem isNull_sqlValue (j : Json) : j.sqlValue.isNull = j.isNull := by
  cases j with
  | number n =>
    cases n with
    | int i low high =>
      simp only [sqlValue, Number.sqlValue]
      split <;> rfl
    | float x finite => rfl
  | _ => rfl

theorem value_placeholder (j : Json) :
    (Predicate.placeholder j).value j.sqlValue = j.sqlValue := by
  cases j with
  | array items => exact value_json_compact (.array items)
  | object members => exact value_json_compact (.object members)
  | _ => rfl

theorem equalsAt_null (doc : Json) (f : Field) :
    Json.null.equalsAt (doc.at? f) = (doc.extract f).isNull := by
  unfold extract
  cases h : doc.at? f with
  | none => rfl
  | some j =>
    simp only [isNull_sqlValue]
    cases j <;> rfl

/-- Whether the value is of a kind to be compared and of the same SQL value as the literal. -/
def agreesWith (literal : Json) (test : JsonKind → Bool) (value : Json) : Bool :=
  test value.kind &&
    (!value.isNull && !literal.isNull && decide (value.sqlValue.order literal.sqlValue = .eq))

theorem equalsAt_number (m : Number) (found : Option Json) :
    (number m).equalsAt found = found.any (agreesWith (number m) [JsonKind.integer, .real].contains) := by
  rcases found with _ | j
  · rfl
  · rcases j with _ | b | n | s | items | members
    · rfl
    · cases b <;> rfl
    · cases n <;> rfl
    all_goals rfl

theorem equalsAt_string (s : String) (found : Option Json) :
    (string s).equalsAt found = found.any (agreesWith (string s) (· = .text)) := by
  rcases found with _ | j
  · rfl
  · rcases j with _ | b | n | t | items | members
    · rfl
    · cases b <;> rfl
    · cases n <;> rfl
    · simp [agreesWith, equalsAt, kind, isNull, sqlValue, SqlValue.order_text_eq_iff]
    all_goals rfl

theorem equalsAt_array (xs : List Json) (found : Option Json) :
    (array xs).equalsAt found = found.any (agreesWith (array xs) (· = .array)) := by
  rcases found with _ | j
  · rfl
  · rcases j with _ | b | n | t | ys | members
    · rfl
    · cases b <;> rfl
    · cases n <;> rfl
    · rfl
    · simp [agreesWith, equalsAt, kind, isNull, sqlValue, SqlValue.order_text_eq_iff]
    · rfl

theorem equalsAt_object (ms : List (String × Json)) (found : Option Json) :
    (object ms).equalsAt found = found.any (agreesWith (object ms) (· = .object)) := by
  rcases found with _ | j
  · rfl
  · rcases j with _ | b | n | t | ys | ns
    · rfl
    · cases b <;> rfl
    · cases n <;> rfl
    · rfl
    · rfl
    · simp [agreesWith, equalsAt, kind, isNull, sqlValue, SqlValue.order_text_eq_iff]

end Json

namespace Predicate

/-- The condition takes its own parameters and no others, and is true exactly if `b`. -/
def Decides (p : Predicate) (doc : Json) (b : Bool) : Prop :=
  ∀ rest, ∃ t : Truth, p.condition.eval doc (p.params ++ rest) = (t, rest) ∧ t.isTrue = b

variable {doc : Json} {f : Field}

theorem decides_constant (b : Bool) : (constant b).Decides doc b :=
  fun rest => ⟨some b, rfl, by cases b <;> rfl⟩

theorem decides_isNull : (isNull f).Decides doc (doc.extract f).isNull :=
  fun rest => ⟨some (doc.extract f).isNull, rfl, by cases (doc.extract f).isNull <;> rfl⟩

theorem decides_isNotNull : (isNotNull f).Decides doc (!(doc.extract f).isNull) :=
  fun rest => ⟨some (!(doc.extract f).isNull), rfl, by cases (doc.extract f).isNull <;> rfl⟩

theorem decides_existence (present : Bool) :
    (if present then isNotNull f else isNull f).Decides doc ((doc.extract f).isNull != present) := by
  cases present
  · rw [Bool.bne_false]
    exact decides_isNull
  · rw [Bool.bne_true]
    exact decides_isNotNull

theorem decides_failure {p : Predicate} {b : Bool} (h : p.Decides doc b) :
    p.failure.Decides doc (!b) := by
  intro rest
  obtain ⟨t, heval, ht⟩ := h rest
  refine ⟨some (!t.isTrue), ?_, ?_⟩
  · simp only [failure, Condition.eval, heval]
  · rw [ht]
    cases b <;> rfl

theorem decides_kindAndValue (kind : Condition) (value : Json) (test : JsonKind → Bool)
    (hkind : ∀ ps, kind.eval doc ps = ((doc.kindAt f).map test, ps)) :
    (⟨.both kind (.equals f (placeholder value)), [value.sqlValue]⟩ : Predicate).Decides doc
      ((doc.at? f).any (value.agreesWith test)) := by
  intro rest
  refine ⟨_, by simp only [Condition.eval, hkind]; rfl, ?_⟩
  simp only [List.singleton_append, Condition.next, Json.value_placeholder, Truth.isTrue_and,
    SqlValue.isTrue_compared, Json.isNull_sqlValue]
  cases h : doc.at? f with
  | none => simp [Json.kindAt, h, Truth.isTrue]
  | some j =>
    simp only [Json.kindAt, Json.extract, h, Option.map_some, Json.isNull_sqlValue, Option.any_some,
      Json.agreesWith]
    cases test j.kind <;> rfl

theorem decides_typedMatch (value : Json) :
    (typedMatch f value).Decides doc (value.equalsAt (doc.at? f)) := by
  cases value with
  | null =>
    rw [Json.equalsAt_null]
    exact decides_isNull
  | bool b =>
    intro rest
    cases b
    all_goals
      refine ⟨_, rfl, ?_⟩
      simp only [Json.kindAt]
      cases doc.at? f with
      | none => rfl
      | some j =>
        cases j with
        | bool c => cases c <;> rfl
        | number n => cases n <;> rfl
        | _ => rfl
  | number m =>
    rw [Json.equalsAt_number]
    exact decides_kindAndValue _ _ _ fun ps => rfl
  | string s =>
    rw [Json.equalsAt_string]
    exact decides_kindAndValue _ _ _ fun ps => rfl
  | array xs =>
    rw [Json.equalsAt_array]
    exact decides_kindAndValue _ _ _ fun ps => rfl
  | object ms =>
    rw [Json.equalsAt_object]
    exact decides_kindAndValue _ _ _ fun ps => rfl

theorem decides_equality (value : Json) (negated : Bool) :
    (equality f value negated).Decides doc (value.equalsAt (doc.at? f) != negated) := by
  unfold equality
  cases hv : value.isNull with
  | true =>
    obtain rfl : value = .null := by cases value <;> first | rfl | cases hv
    rw [Json.equalsAt_null]
    exact decides_existence negated
  | false =>
    cases negated
    · rw [Bool.bne_false]
      exact decides_typedMatch value
    · rw [Bool.bne_true]
      exact decides_failure (decides_typedMatch value)

theorem decides_comparison (op : Comparison) (value : Json) :
    (comparison f op value).Decides doc (Json.comparesTo op (doc.extract f) value) := by
  intro rest
  refine ⟨_, rfl, ?_⟩
  simp only [comparison, List.singleton_append, Condition.next, Json.value_placeholder,
    SqlValue.isTrue_compared, Json.isNull_sqlValue]
  rfl

theorem decides_matching (text : String) :
    (⟨.matching f, [.text text]⟩ : Predicate).Decides doc
      ((SqlValue.text text).contains (doc.extract f)) :=
  fun rest => ⟨some ((SqlValue.text text).contains (doc.extract f)), rfl,
    by cases (SqlValue.text text).contains (doc.extract f) <;> rfl⟩

theorem evalAllOf_decides {ps : List Predicate} {bs : List Bool}
    (h : List.Forall₂ (fun p b => p.Decides doc b) ps bs) (rest : List SqlValue) :
    ∃ t : Truth, Condition.evalAllOf doc (ps.map condition) (ps.flatMap params ++ rest) = (t, rest) ∧
      t.isTrue = bs.all id := by
  induction h with
  | nil => exact ⟨some true, rfl, rfl⟩
  | @cons p b ps bs hp _ ih =>
    obtain ⟨t, heval, ht⟩ := ih
    obtain ⟨s, hs, hb⟩ := hp (ps.flatMap params ++ rest)
    refine ⟨s.and t, ?_, ?_⟩
    · simp only [List.map_cons, List.flatMap_cons, List.append_assoc, Condition.evalAllOf, hs, heval]
    · rw [Truth.isTrue_and, hb, ht, List.all_cons, id_eq]

theorem evalAnyOf_decides {ps : List Predicate} {bs : List Bool}
    (h : List.Forall₂ (fun p b => p.Decides doc b) ps bs) (rest : List SqlValue) :
    ∃ t : Truth, Condition.evalAnyOf doc (ps.map condition) (ps.flatMap params ++ rest) = (t, rest) ∧
      t.isTrue = bs.any id := by
  induction h with
  | nil => exact ⟨some false, rfl, rfl⟩
  | @cons p b ps bs hp _ ih =>
    obtain ⟨t, heval, ht⟩ := ih
    obtain ⟨s, hs, hb⟩ := hp (ps.flatMap params ++ rest)
    refine ⟨s.or t, ?_, ?_⟩
    · simp only [List.map_cons, List.flatMap_cons, List.append_assoc, Condition.evalAnyOf, hs, heval]
    · rw [Truth.isTrue_or, hb, ht, List.any_cons, id_eq]

theorem decides_allOf {ps : List Predicate} {bs : List Bool}
    (h : List.Forall₂ (fun p b => p.Decides doc b) ps bs) : (allOf ps).Decides doc (bs.all id) := by
  cases h with
  | nil => exact decides_constant true
  | cons hp hps => exact fun rest => evalAllOf_decides (.cons hp hps) rest

theorem decides_anyOf {ps : List Predicate} {bs : List Bool}
    (h : List.Forall₂ (fun p b => p.Decides doc b) ps bs) :
    (anyOf ps).Decides doc (bs.isEmpty || bs.any id) := by
  cases h with
  | nil => exact decides_constant true
  | cons hp hps => exact fun rest => evalAnyOf_decides (.cons hp hps) rest

theorem decides_membership (values : List Json) (negated : Bool) :
    (membership f values negated).Decides doc
      ((values.any fun v => v.equalsAt (doc.at? f)) != negated) := by
  unfold membership
  rcases values with _ | ⟨v, _ | ⟨w, values⟩⟩
  · cases negated <;> exact decides_constant _
  · rw [List.any_cons, List.any_nil, Bool.or_false]
    cases negated
    · rw [Bool.bne_false]
      exact decides_typedMatch v
    · rw [Bool.bne_true]
      exact decides_failure (decides_typedMatch v)
  · have hall : (anyOf ((v :: w :: values).map (typedMatch f))).Decides doc
        ((v :: w :: values).any fun u => u.equalsAt (doc.at? f)) := by
      have h : List.Forall₂ (fun p b => p.Decides doc b) ((v :: w :: values).map (typedMatch f))
          ((v :: w :: values).map fun u => u.equalsAt (doc.at? f)) := by
        rw [List.forall₂_map_left_iff, List.forall₂_map_right_iff]
        exact List.forall₂_same.mpr fun u _ => decides_typedMatch u
      have := decides_anyOf h
      rwa [List.any_map] at this
    cases negated
    · rw [Bool.bne_false]
      exact hall
    · rw [Bool.bne_true]
      exact decides_failure hall

end Predicate

namespace Filter

variable {name : String}

theorem ok_of_map {α β : Type} {x : Except StoreError α} {f : α → β} {b : β}
    (h : x.map f = .ok b) : ∃ a, x = .ok a ∧ f a = b := by
  cases x with
  | error e => cases h
  | ok a =>
    cases h
    exact ⟨a, rfl, rfl⟩

theorem ofName?_of_isPath (h : Field.isPath name = true) : Field.ofName? name = some ⟨name, h⟩ :=
  Field.ofName?_eq_some_iff.mpr rfl

theorem validField_of_isPath (h : Field.isPath name = true) : validField name = .ok ⟨name, h⟩ := by
  rw [validField, ofName?_of_isPath h]

theorem name_of_validField {f : Field} (h : validField name = .ok f) :
    f.name = name := by
  rw [validField] at h
  split at h
  · next g hg =>
    cases h
    exact Field.ofName?_eq_some_iff.mp hg
  · cases h

theorem onField_of_isPath (h : Field.isPath name = true) (test : Field → Bool) :
    onField name test = test ⟨name, h⟩ := by
  rw [onField, ofName?_of_isPath h]

theorem at?_of_plain {key : String} (hkey : Field.isPath key = true)
    (hplain : Field.splitDots key.toList = [key.toList]) (doc : Json) :
    doc.at? ⟨key, hkey⟩ = doc.get? key := by
  have hseg : Field.segments ⟨key, hkey⟩ = [key] := by
    rw [Field.segments, hplain, List.map_singleton, String.ofList_toList]
  rw [Json.at?, hseg]
  exact Option.bind_fun_some _

theorem holds_equals {key : String} (hkey : Field.isPath key = true)
    (hplain : Field.splitDots key.toList = [key.toList]) (text : String) (doc : Json) :
    (equals key text).holds doc = true ↔ doc.get? key = some (.string text) := by
  rw [equals, holds, onField_of_isPath hkey, at?_of_plain hkey hplain]
  rcases doc.get? key with _ | _ | _ | _ | s | _ | _ <;>
    simp [Json.equalsAt, Json.isNull, eq_comm]

theorem validField_decides {make : Field → Predicate} {test : Json → Field → Bool}
    (h : Field.isPath name = true) (hd : ∀ f doc, (make f).Decides doc (test doc f)) :
    ∃ p, (validField name).map make = .ok p ∧ ∀ doc, p.Decides doc (onField name (test doc)) := by
  refine ⟨make ⟨name, h⟩, by rw [validField_of_isPath h]; rfl, fun doc => ?_⟩
  rw [onField_of_isPath h]
  exact hd _ doc

mutual

theorem compile_decides (filter : Filter) (hf : ∀ n ∈ filter.fields, Field.isPath n = true) :
    ∃ p, filter.compile = .ok p ∧ ∀ doc, p.Decides doc (holds doc filter) := by
  cases filter with
  | implicit field value =>
    refine validField_decides (hf field (by simp [fields])) fun f doc => ?_
    rw [← Bool.bne_false (Json.equalsAt _ _)]
    exact Predicate.decides_equality value false
  | equality field value negated =>
    exact validField_decides (hf field (by simp [fields])) fun f doc =>
      Predicate.decides_equality value negated
  | comparison field op value =>
    exact validField_decides (hf field (by simp [fields])) fun f doc =>
      Predicate.decides_comparison op value
  | membership field values negated =>
    exact validField_decides (hf field (by simp [fields])) fun f doc =>
      Predicate.decides_membership values negated
  | existence field present =>
    exact validField_decides (hf field (by simp [fields])) fun f doc =>
      Predicate.decides_existence present
  | pattern field text =>
    exact validField_decides (hf field (by simp [fields])) fun f doc =>
      Predicate.decides_matching text
  | and children =>
    obtain ⟨ps, hps, hd⟩ := compileAll_decides children hf
    refine ⟨.allOf ps, by rw [compile, hps]; rfl, fun doc => ?_⟩
    have h := Predicate.decides_allOf (hd doc)
    rwa [List.all_map, Function.id_comp, ← holdsForAll_eq_all, ← holds] at h
  | or children =>
    obtain ⟨ps, hps, hd⟩ := compileAll_decides children hf
    refine ⟨.anyOf ps, by rw [compile, hps]; rfl, fun doc => ?_⟩
    have h := Predicate.decides_anyOf (hd doc)
    rwa [List.any_map, Function.id_comp, ← holdsForAny_eq_any, List.isEmpty_map, ← holds] at h

theorem compileAll_decides (filters : List Filter)
    (hf : ∀ n ∈ fieldsAll filters, Field.isPath n = true) :
    ∃ ps, compileAll filters = .ok ps ∧
      ∀ doc, List.Forall₂ (fun p b => Predicate.Decides p doc b) ps (filters.map (holds doc)) := by
  cases filters with
  | nil => exact ⟨[], rfl, fun doc => .nil⟩
  | cons filter rest =>
    rw [fieldsAll] at hf
    obtain ⟨p, hp, hd⟩ := compile_decides filter fun n hn => hf n (List.mem_append_left _ hn)
    obtain ⟨ps, hps, hds⟩ := compileAll_decides rest fun n hn => hf n (List.mem_append_right _ hn)
    refine ⟨p :: ps, by rw [compileAll, hp, hps]; rfl, fun doc => ?_⟩
    rw [List.map_cons]
    exact .cons (hd doc) (hds doc)

end

end Filter

end DocumentGraph
