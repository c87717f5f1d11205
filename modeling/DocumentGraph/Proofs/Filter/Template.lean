import DocumentGraph.Proofs.Filter.Fragment
import DocumentGraph.Proofs.Sql.Template
set_option autoImplicit false

/-!
# Filters as templates

The template of a filter is its condition with each literal in the place where it is compared. The
compiler makes the text and the list of parameters apart from each other; they are the text and the
values of the template, and the text depends only on the shape of the filter.
-/

namespace DocumentGraph

namespace Template

def extract (column name : String) : Template :=
  [.words ("json_extract(" ++ column ++ ", "), .path name, .words ")"]

def kindOf (column name : String) : Template :=
  [.words ("json_type(" ++ column ++ ", "), .path name, .words ")"]

def literal (value : Json) : Template :=
  match Predicate.placeholder value with
  | .plain => [.slot value.sqlValue]
  | .json => [.words "json(", .slot value.sqlValue, .words ")"]

def typed (column name : String) (value : Json) : Template :=
  let kindAndValue (kind : Template) : Template :=
    kindOf column name ++ kind ++
      .words " AND " :: extract column name ++ .words " = " :: literal value
  match value with
  | .null => extract column name ++ [.words " IS NULL"]
  | .bool true => kindOf column name ++ [.words " = ", .kind .yes]
  | .bool false => kindOf column name ++ [.words " = ", .kind .no]
  | .number _ =>
    kindAndValue [.words " IN (", .kind .integer, .words ", ", .kind .real, .words ")"]
  | .string _ => kindAndValue [.words " = ", .kind .text]
  | .array _ => kindAndValue [.words " = ", .kind .array]
  | .object _ => kindAndValue [.words " = ", .kind .object]

def denied (t : Template) : Template := .words "NOT COALESCE(" :: t ++ [.words ", 0)"]

def equality (column name : String) (value : Json) (negated : Bool) : Template :=
  if negated then
    if value.isNull then extract column name ++ [.words " IS NOT NULL"]
    else denied (typed column name value)
  else typed column name value

def connected (separator : String) : List Template → Template
  | [] => [.words "1"]
  | ts => joined separator ts

def membership (column name : String) (values : List Json) (negated : Bool) : Template :=
  match values.map (typed column name) with
  | [] => [.words (if negated then "1" else "0")]
  | [t] => if negated then denied t else t
  | ts => if negated then denied (joined " OR " ts) else joined " OR " ts

end Template

namespace Filter

mutual

def template (column : String) : Filter → Template
  | .implicit field value => Template.equality column field value false
  | .equality field value negated => Template.equality column field value negated
  | .comparison field op value =>
    Template.extract column field ++ .words (" " ++ op.symbol ++ " ") :: Template.literal value
  | .membership field values negated => Template.membership column field values negated
  | .existence field present =>
    Template.extract column field ++ [.words (if present then " IS NOT NULL" else " IS NULL")]
  | .pattern field text =>
    Template.extract column field ++ [.words " REGEXP ", .slot (.text text)]
  | .and children => Template.connected " AND " (templates column children)
  | .or children => Template.connected " OR " (templates column children)

def templates (column : String) : List Filter → List Template
  | [] => []
  | f :: rest => template column f :: templates column rest

end

/-- What a literal binds where the kind of the field says all about it: nothing; otherwise
itself. -/
def boundBy (value : Json) : List SqlValue :=
  match value with
  | .null => []
  | .bool _ => []
  | _ => [value.sqlValue]

mutual

def literals : Filter → List SqlValue
  | .implicit _ value => boundBy value
  | .equality _ value _ => boundBy value
  | .comparison _ _ value => [value.sqlValue]
  | .membership _ values _ => values.flatMap boundBy
  | .existence _ _ => []
  | .pattern _ text => [.text text]
  | .and children => literalsAll children
  | .or children => literalsAll children

def literalsAll : List Filter → List SqlValue
  | [] => []
  | f :: rest => literals f ++ literalsAll rest

end

end Filter

namespace Predicate

structure Writes (column : String) (p : Predicate) (t : Template) : Prop where
  text : p.sql column = t.text
  params : p.params = t.values

variable {column : String} {p : Predicate} {t : Template}

theorem text_extract (f : Field) :
    Condition.extractText column f = (Template.extract column f.name).text := by
  simp [Condition.extractText, Condition.call, Template.extract, Piece.text, Field.jsonPath,
    ← String.toList_inj]

theorem text_kindOf (f : Field) :
    Condition.kindText column f = (Template.kindOf column f.name).text := by
  simp [Condition.kindText, Condition.call, Template.kindOf, Piece.text, Field.jsonPath,
    ← String.toList_inj]

theorem text_literal (value : Json) :
    (Template.literal value).text = (placeholder value).text := by
  rw [Template.literal]
  cases placeholder value <;> simp [Piece.text, Placeholder.text]

theorem values_extract (name : String) : (Template.extract column name).values = [] := rfl

theorem values_kindOf (name : String) : (Template.kindOf column name).values = [] := rfl

theorem values_literal (value : Json) : (Template.literal value).values = [value.sqlValue] := by
  rw [Template.literal]
  cases placeholder value <;> rfl

theorem writes_isNull (f : Field) :
    (isNull f).Writes column (Template.extract column f.name ++ [.words " IS NULL"]) := by
  constructor
  · simp [isNull, sql, Condition.text, text_extract, Piece.text]
  · rfl

theorem writes_isNotNull (f : Field) :
    (isNotNull f).Writes column (Template.extract column f.name ++ [.words " IS NOT NULL"]) := by
  constructor
  · simp [isNotNull, sql, Condition.text, text_extract, Piece.text]
  · rfl

theorem writes_both (f : Field) (value : Json) {kind : Condition} {t : Template}
    (htext : kind.text column = (Template.kindOf column f.name ++ t).text) (hvalues : t.values = []) :
    (⟨.both kind (.equals f (placeholder value)), [value.sqlValue]⟩ : Predicate).Writes column
      (Template.kindOf column f.name ++ t ++
        .words " AND " :: Template.extract column f.name ++
          .words " = " :: Template.literal value) := by
  constructor
  · simp only [sql, Condition.text, htext, text_extract, Template.text_append, Template.text_cons,
      text_literal, Piece.text, String.append_assoc, List.append_assoc, List.cons_append]
  · simp only [Template.values_append, Template.values_words, values_kindOf, hvalues,
      values_extract, values_literal, List.nil_append, List.append_assoc, List.cons_append]

theorem writes_typedMatch (f : Field) (value : Json) :
    (typedMatch f value).Writes column (Template.typed column f.name value) := by
  have hkind (k : JsonKind) : (Condition.kindIs f k).text column =
      (Template.kindOf column f.name ++ [Piece.words " = ", .kind k]).text := by
    simp [Condition.text, text_kindOf, Piece.text, String.append_assoc]
  have hkinds : (Condition.kindIsAnyOf f [.integer, .real]).text column =
      (Template.kindOf column f.name ++
        [Piece.words " IN (", .kind .integer, .words ", ", .kind .real, .words ")"]).text := by
    simp [Condition.text, text_kindOf, Piece.text, Condition.parenthesized, ← String.toList_inj]
  cases value with
  | null => exact writes_isNull f
  | bool b =>
    cases b
    · exact ⟨hkind .no, rfl⟩
    · exact ⟨hkind .yes, rfl⟩
  | number n => exact writes_both f (.number n) hkinds rfl
  | string s => exact writes_both f (.string s) (hkind .text) rfl
  | array items => exact writes_both f (.array items) (hkind .array) rfl
  | object members => exact writes_both f (.object members) (hkind .object) rfl

theorem Writes.failure (h : p.Writes column t) :
    p.failure.Writes column (Template.denied t) := by
  constructor
  · have htext := h.text
    rw [sql] at htext
    simp [Predicate.failure, sql, Condition.text, htext, Template.denied, Piece.text,
      String.append_assoc]
  · simp [Predicate.failure, h.params, Template.denied]

theorem writes_equality (f : Field) (value : Json) (negated : Bool) :
    (equality f value negated).Writes column
      (Template.equality column f.name value negated) := by
  have htyped : (typedMatch f value).Writes column (Template.typed column f.name value) :=
    writes_typedMatch f value
  rw [equality, Template.equality]
  cases hnull : value.isNull with
  | false =>
    cases negated
    · exact htyped
    · exact htyped.failure
  | true =>
    obtain rfl : value = .null := by
      cases value with
      | null => rfl
      | _ => cases hnull
    cases negated
    · exact htyped
    · exact writes_isNotNull f

theorem writes_comparison (f : Field) (op : Comparison) (value : Json) :
    (comparison f op value).Writes column
      (Template.extract column f.name ++
        .words (" " ++ op.symbol ++ " ") :: Template.literal value) := by
  constructor
  · simp [comparison, sql, Condition.text, text_extract, text_literal, Piece.text,
      String.append_assoc]
  · simp [comparison, values_extract, values_literal]

theorem writes_matching (f : Field) (text : String) :
    (⟨.matching f, [.text text]⟩ : Predicate).Writes column
      (Template.extract column f.name ++ [.words " REGEXP ", .slot (.text text)]) := by
  constructor
  · simp [sql, Condition.text, text_extract, Piece.text]
  · simp [values_extract]

theorem texts_of_writes {ps : List Predicate} {ts : List Template}
    (h : List.Forall₂ (Writes column) ps ts) :
    Condition.texts column (ps.map condition) =
      ts.map fun t => Condition.parenthesized t.text := by
  induction h with
  | nil => rfl
  | cons hp _ ih =>
    have htext := hp.text
    rw [sql] at htext
    rw [List.map_cons, Condition.texts, htext, ih, List.map_cons]

theorem params_of_writes {ps : List Predicate} {ts : List Template}
    (h : List.Forall₂ (Writes column) ps ts) : ps.flatMap params = ts.flatMap Template.values := by
  induction h with
  | nil => rfl
  | cons hp _ ih => rw [List.flatMap_cons, List.flatMap_cons, hp.params, ih]

theorem writes_joined {separator : String} (make : List Condition → Condition)
    (hmake : ∀ cs, (make cs).text column = String.intercalate separator (Condition.texts column cs))
    {ps : List Predicate} {ts : List Template} (h : List.Forall₂ (Writes column) ps ts) :
    (⟨make (ps.map condition), ps.flatMap params⟩ : Predicate).Writes column
      (Template.joined separator ts) := by
  constructor
  · rw [sql, hmake, texts_of_writes h, Template.text_joined]
  · rw [params_of_writes h, Template.values_joined]

theorem writes_allOf {ps : List Predicate} {ts : List Template}
    (h : List.Forall₂ (Writes column) ps ts) :
    (allOf ps).Writes column (Template.connected " AND " ts) := by
  cases h with
  | nil => exact ⟨rfl, rfl⟩
  | cons hp hrest => exact writes_joined .allOf (fun _ => rfl) (.cons hp hrest)

theorem writes_anyOf {ps : List Predicate} {ts : List Template}
    (h : List.Forall₂ (Writes column) ps ts) :
    (anyOf ps).Writes column (Template.connected " OR " ts) := by
  cases h with
  | nil => exact ⟨rfl, rfl⟩
  | cons hp hrest => exact writes_joined .anyOf (fun _ => rfl) (.cons hp hrest)

theorem writes_membership (f : Field) (values : List Json) (negated : Bool) :
    (membership f values negated).Writes column
      (Template.membership column f.name values negated) := by
  have hall : List.Forall₂ (Writes column) (values.map (typedMatch f))
      (values.map (Template.typed column f.name)) := by
    rw [List.forall₂_map_left_iff, List.forall₂_map_right_iff, List.forall₂_same]
    exact fun value _ => writes_typedMatch f value
  rw [membership, Template.membership]
  generalize values.map (typedMatch f) = ps at hall ⊢
  generalize values.map (Template.typed column f.name) = ts at hall ⊢
  cases hall with
  | nil => cases negated <;> exact ⟨rfl, rfl⟩
  | cons hp hrest =>
    cases hrest with
    | nil =>
      cases negated
      · exact hp
      · exact hp.failure
    | cons hq hrest =>
      have hany := writes_anyOf (.cons hp (.cons hq hrest))
      cases negated
      · exact hany
      · exact hany.failure

end Predicate

namespace Filter

variable {column : String}

mutual

theorem compile_writes (filter : Filter) {p : Predicate} (h : filter.compile = .ok p) :
    p.Writes column (filter.template column) := by
  have hfield {name : String} {make : Field → Predicate} {t : Template}
      (h : (validField name).map make = .ok p)
      (hmake : ∀ f : Field, f.name = name → (make f).Writes column t) : p.Writes column t := by
    obtain ⟨f, hf, rfl⟩ := ok_of_map h
    exact hmake f (name_of_validField hf)
  cases filter with
  | implicit field value =>
    exact hfield h fun f hf => hf ▸ Predicate.writes_equality f value false
  | equality field value negated =>
    exact hfield h fun f hf => hf ▸ Predicate.writes_equality f value negated
  | comparison field op value =>
    exact hfield h fun f hf => hf ▸ Predicate.writes_comparison f op value
  | membership field values negated =>
    exact hfield h fun f hf => hf ▸ Predicate.writes_membership f values negated
  | existence field present =>
    refine hfield h fun f hf => hf ▸ ?_
    cases present
    · exact Predicate.writes_isNull f
    · exact Predicate.writes_isNotNull f
  | pattern field text => exact hfield h fun f hf => hf ▸ Predicate.writes_matching f text
  | and children =>
    obtain ⟨ps, hps, rfl⟩ := ok_of_map h
    exact Predicate.writes_allOf (compileAll_writes children hps)
  | or children =>
    obtain ⟨ps, hps, rfl⟩ := ok_of_map h
    exact Predicate.writes_anyOf (compileAll_writes children hps)

theorem compileAll_writes (filters : List Filter) {ps : List Predicate}
    (h : compileAll filters = .ok ps) :
    List.Forall₂ (Predicate.Writes column) ps (templates column filters) := by
  cases filters with
  | nil =>
    cases h
    exact .nil
  | cons filter rest =>
    obtain ⟨p, qs, rfl, hp, hqs⟩ := ok_of_compileAll h
    exact .cons (compile_writes filter hp) (compileAll_writes rest hqs)

end

theorem values_typed (name : String) (value : Json) :
    (Template.typed column name value).values = boundBy value := by
  cases value with
  | bool b => cases b <;> rfl
  | _ => rfl

theorem values_denied (t : Template) : t.denied.values = t.values := by simp [Template.denied]

theorem values_equality (name : String) (value : Json) (negated : Bool) :
    (Template.equality column name value negated).values = boundBy value := by
  rw [Template.equality]
  cases negated with
  | false => exact values_typed name value
  | true =>
    cases value with
    | bool b => cases b <;> rfl
    | _ => rfl

theorem values_connected (separator : String) (ts : List Template) :
    (Template.connected separator ts).values = ts.flatMap Template.values := by
  cases ts with
  | nil => rfl
  | cons t rest => exact Template.values_joined separator (t :: rest)

theorem values_membership (name : String) (values : List Json) (negated : Bool) :
    (Template.membership column name values negated).values = values.flatMap boundBy := by
  have hbound : values.flatMap boundBy =
      (values.map (Template.typed column name)).flatMap Template.values := by
    rw [List.flatMap_map]
    exact List.flatMap_congr fun value _ => (values_typed name value).symm
  rw [Template.membership, hbound]
  generalize values.map (Template.typed column name) = ts
  split
  · rfl
  · next t => cases negated <;> simp [values_denied]
  · cases negated <;> simp [values_denied, Template.values_joined]

mutual

theorem values_template (filter : Filter) : (filter.template column).values = filter.literals := by
  cases filter with
  | implicit field value => exact values_equality field value false
  | equality field value negated => exact values_equality field value negated
  | comparison field op value =>
    rw [template, Template.values_append, Template.values_words, Predicate.values_literal]
    rfl
  | membership field values negated => exact values_membership field values negated
  | existence field present => rfl
  | pattern field text => rfl
  | and children => rw [template, values_connected, values_templates, literals]
  | or children => rw [template, values_connected, values_templates, literals]

theorem values_templates (filters : List Filter) :
    (templates column filters).flatMap Template.values = literalsAll filters := by
  cases filters with
  | nil => rfl
  | cons filter rest =>
    rw [templates, List.flatMap_cons, values_template filter, values_templates rest, literalsAll]

end

end Filter

namespace Template

variable {column name : String}

theorem plain_member {function : String} (hfunction : (Piece.words function).Plain)
    (hcolumn : (Piece.words column).Plain) (hname : Field.isPath name = true) :
    Plain [.words (function ++ column ++ ", "), .path name, .words ")"] :=
  plain_cons
    (Piece.plain_words_append (Piece.plain_words_append hfunction hcolumn)
      (Piece.plain_words (by decide)))
    (plain_cons (Piece.plain_path hname) (plain_cons (Piece.plain_words (by decide)) plain_nil))

theorem plain_extract (hcolumn : (Piece.words column).Plain) (hname : Field.isPath name = true) :
    Plain (extract column name) :=
  plain_member (Piece.plain_words (by decide)) hcolumn hname

theorem plain_kindOf (hcolumn : (Piece.words column).Plain) (hname : Field.isPath name = true) :
    Plain (kindOf column name) :=
  plain_member (Piece.plain_words (by decide)) hcolumn hname

theorem plain_single {w : String} (h : (w.toList.all fun c => c ≠ '?' && c ≠ '\'') = true) :
    Plain [.words w] :=
  plain_cons (Piece.plain_words h) plain_nil

theorem plain_literal (value : Json) : Plain (literal value) := by
  rw [literal]
  cases Predicate.placeholder value with
  | plain => exact plain_cons trivial plain_nil
  | json => exact plain_cons (Piece.plain_words (by decide)) (plain_cons trivial (plain_single (by decide)))

theorem plain_typed (hcolumn : (Piece.words column).Plain) (hname : Field.isPath name = true)
    (value : Json) : Plain (typed column name value) := by
  have hextract := plain_extract hcolumn hname
  have hkindOf := plain_kindOf hcolumn hname
  have hkind (k : JsonKind) : Plain [.words " = ", .kind k] :=
    plain_cons (Piece.plain_words (by decide)) (plain_cons trivial plain_nil)
  have hboth {kind : Template} (h : Plain kind) : Plain (kindOf column name ++ kind ++
      .words " AND " :: extract column name ++ .words " = " :: literal value) :=
    ((hkindOf.append h).append (plain_cons (Piece.plain_words (by decide)) hextract)).append
      (plain_cons (Piece.plain_words (by decide)) (plain_literal value))
  cases value with
  | null => exact hextract.append (plain_single (by decide))
  | bool b =>
    cases b
    · exact hkindOf.append (hkind .no)
    · exact hkindOf.append (hkind .yes)
  | number n =>
    exact hboth (plain_cons (Piece.plain_words (by decide)) (plain_cons trivial
      (plain_cons (Piece.plain_words (by decide)) (plain_cons trivial (plain_single (by decide))))))
  | string s => exact hboth (hkind .text)
  | array items => exact hboth (hkind .array)
  | object members => exact hboth (hkind .object)

theorem plain_denied {t : Template} (h : Plain t) : Plain (denied t) :=
  (plain_cons (Piece.plain_words (by decide)) h).append (plain_single (by decide))

theorem plain_equality (hcolumn : (Piece.words column).Plain) (hname : Field.isPath name = true)
    (value : Json) (negated : Bool) : Plain (equality column name value negated) := by
  rw [equality]
  split
  · split
    · exact (plain_extract hcolumn hname).append (plain_single (by decide))
    · exact plain_denied (plain_typed hcolumn hname value)
  · exact plain_typed hcolumn hname value

theorem plain_connected {separator : String} (hsep : (Piece.words separator).Plain)
    {ts : List Template} (h : ∀ t ∈ ts, Plain t) : Plain (connected separator ts) := by
  cases ts with
  | nil => exact plain_single (by decide)
  | cons t rest => exact plain_joined hsep h

theorem plain_membership (hcolumn : (Piece.words column).Plain) (hname : Field.isPath name = true)
    (values : List Json) (negated : Bool) : Plain (membership column name values negated) := by
  have hall : ∀ t ∈ values.map (typed column name), Plain t := by
    intro t ht
    obtain ⟨value, -, rfl⟩ := List.mem_map.mp ht
    exact plain_typed hcolumn hname value
  rw [membership]
  generalize values.map (typed column name) = ts at hall ⊢
  split
  · cases negated <;> exact plain_single (by decide)
  · next t =>
    have ht := hall t (List.mem_singleton_self t)
    split
    · exact plain_denied ht
    · exact ht
  · have hjoined := plain_joined (Piece.plain_words (s := " OR ") (by decide)) hall
    split
    · exact plain_denied hjoined
    · exact hjoined

end Template

namespace Filter

variable {column : String}

mutual

theorem plain_template (hcolumn : (Piece.words column).Plain) (filter : Filter)
    (h : ∀ n ∈ filter.fields, Field.isPath n = true) : (filter.template column).Plain := by
  cases filter with
  | implicit field value =>
    exact Template.plain_equality hcolumn (h field List.mem_cons_self) value false
  | equality field value negated =>
    exact Template.plain_equality hcolumn (h field List.mem_cons_self) value negated
  | comparison field op value =>
    refine (Template.plain_extract hcolumn (h field List.mem_cons_self)).append
      (Template.plain_cons (Piece.plain_words ?_) (Template.plain_literal value))
    cases op <;> decide
  | membership field values negated =>
    exact Template.plain_membership hcolumn (h field List.mem_cons_self) values negated
  | existence field present =>
    refine (Template.plain_extract hcolumn (h field List.mem_cons_self)).append
      (Template.plain_single ?_)
    cases present <;> decide
  | pattern field text =>
    exact (Template.plain_extract hcolumn (h field List.mem_cons_self)).append
      (Template.plain_cons (Piece.plain_words (by decide))
        (Template.plain_cons trivial Template.plain_nil))
  | and children =>
    exact Template.plain_connected (Piece.plain_words (by decide))
      (plain_templates hcolumn children h)
  | or children =>
    exact Template.plain_connected (Piece.plain_words (by decide))
      (plain_templates hcolumn children h)

theorem plain_templates (hcolumn : (Piece.words column).Plain) (filters : List Filter)
    (h : ∀ n ∈ fieldsAll filters, Field.isPath n = true) :
    ∀ t ∈ templates column filters, t.Plain := by
  cases filters with
  | nil => exact nofun
  | cons filter rest =>
    obtain ⟨hfirst, hrest⟩ := List.forall_mem_append.mp h
    exact List.forall_mem_cons.mpr
      ⟨plain_template hcolumn filter hfirst, plain_templates hcolumn rest hrest⟩

end

end Filter

end DocumentGraph
