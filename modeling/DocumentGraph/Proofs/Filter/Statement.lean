import DocumentGraph.Proofs.Filter.Template
import DocumentGraph.Store.Collection
set_option autoImplicit false

/-!
# Statements about what a filter selects

Filters of one shape have one condition text, whatever their literals are. A whole statement is the
name of the collection, the literals of the filter and the bounds of the page, each in its place,
under words that depend on none of them.
-/

namespace DocumentGraph

/-- The literal that stands for all literals of the same kind; true and false are two kinds. -/
def Json.shape : Json → Json
  | .null => .null
  | .bool b => .bool b
  | .number _ => .number (.int 0 (by decide) (by decide))
  | .string _ => .string ""
  | .array _ => .array []
  | .object _ => .object []

namespace Filter

mutual

/-- The filter with every literal brought down to its kind and every pattern emptied. -/
def shape : Filter → Filter
  | .implicit field value => .implicit field value.shape
  | .equality field value negated => .equality field value.shape negated
  | .comparison field op value => .comparison field op value.shape
  | .membership field values negated => .membership field (values.map Json.shape) negated
  | .existence field present => .existence field present
  | .pattern field _ => .pattern field ""
  | .and children => .and (shapes children)
  | .or children => .or (shapes children)

def shapes : List Filter → List Filter
  | [] => []
  | f :: rest => shape f :: shapes rest

end

end Filter

namespace Template

variable {column name : String}

theorem text_typed_shape (value : Json) :
    (typed column name value.shape).text = (typed column name value).text := by
  cases value with
  | bool b => cases b <;> rfl
  | _ => rfl

theorem text_denied_congr {s t : Template} (h : s.text = t.text) :
    s.denied.text = t.denied.text := by
  simp [denied, h]

theorem text_equality_shape (value : Json) (negated : Bool) :
    (equality column name value.shape negated).text =
      (equality column name value negated).text := by
  have htyped : (typed column name value.shape).text = (typed column name value).text :=
    text_typed_shape value
  cases negated with
  | false => exact htyped
  | true =>
    cases value with
    | null => rfl
    | _ => exact text_denied_congr htyped

theorem text_literal_shape (value : Json) : (literal value.shape).text = (literal value).text := by
  cases value <;> rfl

theorem text_joined_congr (separator : String) {ss ts : List Template}
    (h : ss.map text = ts.map text) : (joined separator ss).text = (joined separator ts).text := by
  have hmap (us : List Template) : us.map (fun t => Condition.parenthesized t.text) =
      (us.map text).map Condition.parenthesized := by
    rw [List.map_map]
    rfl
  rw [text_joined, text_joined, hmap, hmap, h]

theorem text_connected_congr (separator : String) {ss ts : List Template}
    (h : ss.map text = ts.map text) :
    (connected separator ss).text = (connected separator ts).text := by
  rcases ss with _ | ⟨s, ss⟩ <;> rcases ts with _ | ⟨t, ts⟩
  · rfl
  · cases h
  · cases h
  · exact text_joined_congr separator h

theorem text_membership_shape (values : List Json) (negated : Bool) :
    (membership column name (values.map Json.shape) negated).text =
      (membership column name values negated).text := by
  have hall : ((values.map Json.shape).map (typed column name)).map text =
      (values.map (typed column name)).map text := by
    rw [List.map_map, List.map_map, List.map_map]
    exact List.map_congr_left fun value _ => text_typed_shape value
  rcases values with _ | ⟨value, _ | ⟨other, rest⟩⟩
  · rfl
  · have hvalue : (typed column name value.shape).text = (typed column name value).text :=
      text_typed_shape value
    cases negated
    · exact hvalue
    · exact text_denied_congr hvalue
  · have hany := text_joined_congr " OR " hall
    cases negated
    · exact hany
    · exact text_denied_congr hany

end Template

namespace Filter

variable {column : String}

mutual

theorem text_template_shape (filter : Filter) :
    (filter.shape.template column).text = (filter.template column).text := by
  cases filter with
  | implicit field value => exact Template.text_equality_shape value false
  | equality field value negated => exact Template.text_equality_shape value negated
  | comparison field op value =>
    simp only [shape, template, Template.text_append, Template.text_cons,
      Template.text_literal_shape]
  | membership field values negated => exact Template.text_membership_shape values negated
  | existence field present => rfl
  | pattern field text => rfl
  | and children => exact Template.text_connected_congr " AND " (texts_templates_shapes children)
  | or children => exact Template.text_connected_congr " OR " (texts_templates_shapes children)

theorem texts_templates_shapes (filters : List Filter) :
    (templates column (shapes filters)).map Template.text =
      (templates column filters).map Template.text := by
  cases filters with
  | nil => rfl
  | cons filter rest =>
    rw [shapes, templates, templates, List.map_cons, List.map_cons, text_template_shape filter,
      texts_templates_shapes rest]

end

mutual

theorem fields_shape (filter : Filter) : filter.shape.fields = filter.fields := by
  cases filter with
  | and children => rw [shape, fields, fields, fieldsAll_shapes children]
  | or children => rw [shape, fields, fields, fieldsAll_shapes children]
  | _ => rfl

theorem fieldsAll_shapes (filters : List Filter) :
    fieldsAll (shapes filters) = fieldsAll filters := by
  cases filters with
  | nil => rfl
  | cons filter rest => rw [shapes, fieldsAll, fieldsAll, fields_shape filter, fieldsAll_shapes rest]

end

theorem compile_text_of_shape {f g : Filter} (hshape : g.shape = f.shape)
    (hf : ∀ n ∈ f.fields, Field.isPath n = true) {p : Predicate} (hp : f.compile = .ok p) :
    ∃ q, g.compile = .ok q ∧ q.sql column = p.sql column := by
  have hg : ∀ n ∈ g.fields, Field.isPath n = true := by
    rwa [← fields_shape g, hshape, fields_shape f]
  obtain ⟨q, hq, -⟩ := compile_decides g hg
  refine ⟨q, hq, ?_⟩
  calc q.sql column = (g.template column).text := (compile_writes g hq).text
    _ = (g.shape.template column).text := (text_template_shape g).symm
    _ = (f.template column).text := by rw [hshape, text_template_shape f]
    _ = p.sql column := (compile_writes f hp).text.symm

end Filter

namespace Template

def selecting (before collection : String) (t : Template) : Template :=
  .words (before ++ " WHERE collection = ") :: .slot (.text collection) :: .words " AND " ::
    grouped t

def sorted : Option SortKey → Template
  | none => []
  | some key =>
    extract Statement.dataColumn key.field.name ++ [.words (" " ++ Tail.direction key ++ ", ")]

def paged : Option Page → Template
  | none => []
  | some p =>
    .words " LIMIT " :: .slot (.integer p.limit) ::
      match p.offset with
      | none => []
      | some n => [.words " OFFSET ", .slot (.integer n)]

def ordered (t : Tail) : Template :=
  .words " ORDER BY " :: sorted t.sort ++ .words "rowid ASC" :: paged t.page

theorem text_selecting {p : Predicate} {t : Template} (h : p.Writes Statement.dataColumn t)
    (before collection : String) :
    (selecting before collection t).text = before ++ Statement.selecting p := by
  simp [selecting, Statement.selecting, Statement.ofCollection, text_grouped, Piece.text, h.text,
    ← String.toList_inj]

theorem values_selecting (before collection : String) (t : Template) :
    (selecting before collection t).values = .text collection :: t.values := by
  simp [selecting, values_grouped]

theorem plain_selecting {before : String} (hbefore : (Piece.words before).Plain)
    (collection : String) {t : Template} (ht : Plain t) :
    Plain (selecting before collection t) := by
  have hwhere : (Piece.words " WHERE collection = ").Plain := Piece.plain_words (by decide)
  have hand : (Piece.words " AND ").Plain := Piece.plain_words (by decide)
  rw [selecting]
  refine plain_cons ?_ (plain_cons trivial (plain_cons hand (plain_grouped ht)))
  exact Piece.plain_words_append hbefore hwhere

theorem text_sorted (sort : Option SortKey) :
    (sorted sort).text = (sort.map (Tail.sortText Statement.dataColumn)).getD "" := by
  cases sort with
  | none => rfl
  | some key =>
    have hsort : Tail.sortText Statement.dataColumn key =
        Condition.extractText Statement.dataColumn key.field ++
          (" " ++ Tail.direction key ++ ", ") := by
      change "json_extract(" ++ Statement.dataColumn ++ ", '" ++ key.field.jsonPath ++ "') " ++
        Tail.direction key ++ ", " = _
      simp [Condition.extractText, Condition.call, ← String.toList_inj]
    rw [sorted, text_append, ← Predicate.text_extract, text_cons, text_nil, Piece.text,
      String.append_empty, Option.map_some, Option.getD_some, hsort]

theorem text_ordered (t : Tail) : (ordered t).text = t.text Statement.dataColumn := by
  obtain ⟨sort, page⟩ := t
  cases page with
  | none => simp [ordered, Tail.text, text_sorted, paged, Piece.text, String.append_assoc]
  | some p =>
    obtain ⟨limit, offset⟩ := p
    cases offset <;>
      simp [ordered, Tail.text, text_sorted, paged, Piece.text, ← String.toList_inj]

theorem values_sorted (sort : Option SortKey) : (sorted sort).values = [] := by
  cases sort <;> rfl

theorem values_ordered (t : Tail) : (ordered t).values = t.params := by
  obtain ⟨sort, page⟩ := t
  cases page with
  | none => simp [ordered, values_sorted, paged, Tail.params]
  | some p =>
    obtain ⟨limit, offset⟩ := p
    cases offset <;> simp [ordered, values_sorted, paged, Tail.params]

theorem plain_sorted (sort : Option SortKey) : Plain (sorted sort) := by
  cases sort with
  | none => exact plain_nil
  | some key =>
    refine (plain_extract (Piece.plain_words (by decide)) key.field.valid).append
      (plain_single ?_)
    rw [Tail.direction]
    split <;> decide

theorem plain_paged (page : Option Page) : Plain (paged page) := by
  cases page with
  | none => exact plain_nil
  | some p =>
    obtain ⟨limit, offset⟩ := p
    have hlimit {t : Template} (ht : Plain t) :
        Plain (.words " LIMIT " :: .slot (.integer limit) :: t) :=
      plain_cons (Piece.plain_words (by decide)) (plain_cons trivial ht)
    cases offset with
    | none => exact hlimit plain_nil
    | some n =>
      exact hlimit (plain_cons (Piece.plain_words (by decide)) (plain_cons trivial plain_nil))

theorem plain_ordered (t : Tail) : Plain (ordered t) :=
  (plain_cons (Piece.plain_words (by decide)) (plain_sorted t.sort)).append
    (plain_cons (Piece.plain_words (by decide)) (plain_paged t.page))

end Template

def QueryOptions.bounds (o : QueryOptions) : List SqlValue :=
  (o.limit.map fun n => .integer (clamped n)).toList ++
    (o.offset.map fun n => .integer (clamped n)).toList

theorem QueryOptions.params_tail {o : QueryOptions} {t : Tail} (h : o.tail = .ok t) :
    t.params = o.bounds := by
  obtain ⟨sort, limit, offset⟩ := o
  have hpage : t.page = page ⟨sort, limit, offset⟩ := by
    rw [tail] at h
    split at h
    · cases h
    · split at h
      · obtain ⟨key, -, rfl⟩ := Filter.ok_of_map h
        rfl
      · cases h
        rfl
  rw [Tail.params, hpage]
  cases limit with
  | none =>
    cases offset with
    | none => rfl
    | some n => cases h
  | some n => cases offset <;> rfl

/-- The statement is the template: every placeholder in its text is bound to the value that stands
there, these are the values in order, and no quote is left open. -/
structure Statement.Written (s : Statement) (table : String) (t : Template)
    (values : List SqlValue) : Prop where
  text : s.text table = t.text
  params : s.params = t.values
  values : t.values = values
  plain : t.Plain
  placeholders : (s.text table).toList.count '?' = s.params.length
  quotes : (s.text table).toList.count '\'' = 2 * t.quoted.length

theorem Statement.written {s : Statement} {table : String} {t : Template} {values : List SqlValue}
    (htext : s.text table = t.text) (hparams : s.params = t.values) (hvalues : t.values = values)
    (hplain : t.Plain) : s.Written table t values := by
  obtain ⟨hqueries, hquotes⟩ := Template.count_text hplain
  exact ⟨htext, hparams, hvalues, hplain, by rw [htext, hqueries, hparams], by rw [htext, hquotes]⟩

theorem TableName.plain_of_isWord {table : String} (h : isWord table = true) :
    (Piece.words table).Plain := by
  rw [isWord, Bool.and_eq_true, List.all_eq_true] at h
  have hmem {c : Char} (hc : Field.isSegmentChar c = false) : c ∉ table.toList := by
    intro hmem
    rw [h.2 c hmem] at hc
    cases hc
  exact ⟨hmem (by decide), hmem (by decide)⟩

namespace Collection

open Statement (dataColumn)

/-- Finding, counting and removing what a filter on valid fields selects execute one statement
each. Its text is the same for every filter of that shape, and its placeholders are bound to the
name of the collection, the literals of the filter and the bounds of the page, in this order. -/
theorem statements_written (c : Collection) {table : String} (htable : TableName.isWord table = true)
    {f : Filter} (hf : ∀ n ∈ f.fields, Field.isPath n = true) {o : QueryOptions} {t : Tail}
    (ho : o.tail = .ok t) :
    ∃ p, f.compile = .ok p ∧
      (∀ g : Filter, g.shape = f.shape →
        ∃ q, g.compile = .ok q ∧ q.sql dataColumn = p.sql dataColumn) ∧
      c.findDocuments f o = (do
        let cursor ← Store.observed (.find c.name p t)
        let docs ← Store.check (c.decodeAll cursor.rows)
        Store.record (Metrics.recordQuery docs.length)
        return docs) ∧
      c.countWhere f = (do
        let cursor ← Store.observed (.count c.name p)
        Store.record (Metrics.recordQuery 0)
        return ((cursor.one?.bind (·.integer? "n")).getD 0).toInt.toNat) ∧
      c.deleteWhere f = (do
        let cursor ← Store.observed (.removeWhere c.name p)
        Store.record Metrics.recordDelete
        return cursor.rowsWritten) ∧
      (Statement.find c.name p t).Written table
        (Template.selecting (Statement.selectDocuments table) c.name (f.template dataColumn) ++
          Template.ordered t)
        (.text c.name :: f.literals ++ o.bounds) ∧
      (Statement.count c.name p).Written table
        (Template.selecting ("SELECT COUNT(*) AS n FROM " ++ table) c.name (f.template dataColumn))
        (.text c.name :: f.literals) ∧
      (Statement.removeWhere c.name p).Written table
        (Template.selecting ("DELETE FROM " ++ table) c.name (f.template dataColumn))
        (.text c.name :: f.literals) := by
  obtain ⟨p, hp, -⟩ := Filter.compile_decides f hf
  have hwrites : p.Writes dataColumn (f.template dataColumn) := f.compile_writes hp
  have hplain := Filter.plain_template (Piece.plain_words (s := dataColumn) (by decide)) f hf
  have hbefore {words : String} (h : (words.toList.all fun c => c ≠ '?' && c ≠ '\'') = true) :
      (Piece.words (words ++ table)).Plain :=
    Piece.plain_words_append (Piece.plain_words h) (TableName.plain_of_isWord htable)
  have hselect : (Piece.words (Statement.selectDocuments table)).Plain := hbefore (by decide)
  have hcount : (Piece.words ("SELECT COUNT(*) AS n FROM " ++ table)).Plain := hbefore (by decide)
  have hdelete : (Piece.words ("DELETE FROM " ++ table)).Plain := hbefore (by decide)
  have hselecting (words : String) :
      (Template.selecting words c.name (f.template dataColumn)).values =
        .text c.name :: f.literals := by
    rw [Template.values_selecting, Filter.values_template]
  have hparams : p.params = f.literals := by
    rw [hwrites.params, Filter.values_template]
  refine ⟨p, hp, fun g hg => Filter.compile_text_of_shape hg hf hp, ?_, ?_, ?_, ?_, ?_, ?_⟩
  · rw [findDocuments, hp, ho]
    rfl
  · rw [countWhere, hp]
    rfl
  · rw [deleteWhere, hp]
    rfl
  · refine Statement.written ?_ ?_ ?_ ((Template.plain_selecting hselect _ hplain).append
      (Template.plain_ordered t))
    · rw [Template.text_append, Template.text_selecting hwrites, Template.text_ordered]
      rfl
    · rw [Template.values_append, hselecting, Template.values_ordered, ← hparams]
      rfl
    · rw [Template.values_append, hselecting, Template.values_ordered,
        QueryOptions.params_tail ho]
  · refine Statement.written ?_ ?_ (hselecting _) (Template.plain_selecting hcount _ hplain)
    · rw [Template.text_selecting hwrites]
      rfl
    · rw [hselecting, ← hparams]
      rfl
  · refine Statement.written ?_ ?_ (hselecting _) (Template.plain_selecting hdelete _ hplain)
    · rw [Template.text_selecting hwrites]
      rfl
    · rw [hselecting, ← hparams]
      rfl

/-- A literal with a quote and a question mark stays out of the text. -/
theorem statements_written_quoted :
    let f : Filter := .and [.equality "a.b" (.string "x'?") true, .comparison "n" .gt .null]
    let o : QueryOptions := ⟨some "-a", some 1, some 2⟩
    let t : Tail := ⟨some ⟨⟨"a", by decide⟩, true⟩, some ⟨1, some 2⟩⟩
    TableName.isWord "documents" = true ∧ (∀ n ∈ f.fields, Field.isPath n = true) ∧
      o.tail = .ok t ∧ ∃ p, f.compile = .ok p ∧
        (Statement.find "notes" p t).params =
          [.text "notes", .text "x'?", .null, .integer 1, .integer 2] ∧
        ((Statement.find "notes" p t).text "documents").toList.count '?' = 5 := by
  intro f o t
  have htable : TableName.isWord "documents" = true := by decide
  have hf : ∀ n ∈ f.fields, Field.isPath n = true := by decide
  have ho : o.tail = .ok t := rfl
  obtain ⟨p, hp, -, -, -, -, hfind, -⟩ := statements_written ⟨"notes"⟩ htable hf ho
  have hparams : (Statement.find "notes" p t).params =
      [.text "notes", .text "x'?", .null, .integer 1, .integer 2] := hfind.params.trans hfind.values
  exact ⟨htable, hf, ho, p, hp, hparams, hfind.placeholders.trans (congrArg List.length hparams)⟩

end Collection

end DocumentGraph
