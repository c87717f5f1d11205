import DocumentGraph.Proofs.Sql.Grammar
import Mathlib.Data.List.Forall2
set_option autoImplicit false

namespace DocumentGraph

namespace Field

theorem isSegmentChar_of_mem {cs : List Char} (h : isPathChars cs = true) {c : Char} (hc : c ∈ cs) :
    isSegmentChar c = true ∨ c = '.' := by
  have hsplit : c = '.' ∨ ∃ s ∈ splitDots cs, c ∈ s := by
    clear h
    induction cs with
    | nil => cases hc
    | cons d ds ih =>
      rw [splitDots]
      by_cases hd : d = '.'
      · rw [if_pos hd]
        rcases List.mem_cons.mp hc with rfl | hc
        · exact .inl hd
        · obtain h | ⟨s, hs, hcs⟩ := ih hc
          · exact .inl h
          · exact .inr ⟨s, List.mem_cons_of_mem _ hs, hcs⟩
      · rw [if_neg hd]
        obtain ⟨first, others, hsplit⟩ := List.exists_cons_of_ne_nil (splitDots_ne_nil ds)
        rw [hsplit] at ih ⊢
        rcases List.mem_cons.mp hc with rfl | hc
        · exact .inr ⟨_, List.mem_cons_self, List.mem_cons_self⟩
        · obtain h | ⟨s, hs, hcs⟩ := ih hc
          · exact .inl h
          · rcases List.mem_cons.mp hs with rfl | hs
            · exact .inr ⟨_, List.mem_cons_self, List.mem_cons_of_mem _ hcs⟩
            · exact .inr ⟨s, List.mem_cons_of_mem _ hs, hcs⟩
  rcases hsplit with hdot | ⟨s, hs, hcs⟩
  · exact .inr hdot
  · have hall := List.all_eq_true.mp h s hs
    rw [Bool.and_eq_true] at hall
    exact .inl (List.all_eq_true.mp hall.2 c hcs)

theorem not_mem_jsonPath (f : Field) : '\'' ∉ f.jsonPath.toList := by
  intro h
  rw [jsonPath, String.toList_append, List.mem_append] at h
  rcases h with h | h
  · revert h
    decide
  · rcases isSegmentChar_of_mem f.valid h with h | h
    · revert h
      decide
    · cases h

end Field

namespace Sql

def Boundary (cs : List Char) : Prop := ∀ c ∈ cs.head?, isWordChar c = false

theorem boundary_nil : Boundary [] := by
  intro c hc
  cases hc

theorem boundary_cons {c : Char} (h : isWordChar c = false) (cs : List Char) :
    Boundary (c :: cs) := by
  intro d hd
  cases hd
  exact h

variable {acc rest : List Char}

theorem lexed_word_append {w : List Char} (hw : ∀ c ∈ w, isWordChar c = true) :
    lexed (.word acc) (w ++ rest) = lexed (.word (acc ++ w)) rest := by
  induction w generalizing acc with
  | nil => rw [List.nil_append, List.append_nil]
  | cons c w ih =>
    have hc := hw c List.mem_cons_self
    rw [List.cons_append, lexed, Pending.push, if_pos hc, List.nil_append,
      ih fun d hd => hw d (List.mem_cons_of_mem _ hd), List.append_assoc, List.singleton_append]

theorem lexed_word_end (h : Boundary rest) :
    lexed (.word acc) rest = .ofWord (String.ofList acc) :: lexed .nothing rest := by
  cases rest with
  | nil => rfl
  | cons c cs =>
    have hpush : (Pending.word acc).push c =
        (.ofWord (String.ofList acc) :: (Pending.start c).1, (Pending.start c).2) :=
      if_neg (by simp [h c rfl])
    rw [lexed, hpush]
    rfl

theorem lexed_quoted {q : List Char} (hq : '\'' ∉ q) :
    lexed (.quoted acc) (q ++ '\'' :: rest) =
      .quoted (String.ofList (acc ++ q)) :: lexed .nothing rest := by
  induction q generalizing acc with
  | nil =>
    rw [List.nil_append, List.append_nil]
    rfl
  | cons c q ih =>
    have hc : c ≠ '\'' := fun h => hq (h ▸ List.mem_cons_self)
    rw [List.cons_append, lexed, Pending.push, if_neg hc, List.nil_append,
      ih fun h => hq (List.mem_cons_of_mem _ h), List.append_assoc, List.singleton_append]

/-- The text falls into these tokens where it ends at a boundary. -/
def Lexes (text : String) (ts : List Token) : Prop :=
  ∀ rest, Boundary rest → lexed .nothing (text.toList ++ rest) = ts ++ lexed .nothing rest

/-- The text falls into these tokens, whatever is behind it. -/
def Ends (text : String) (ts : List Token) : Prop :=
  ∀ rest, lexed .nothing (text.toList ++ rest) = ts ++ lexed .nothing rest

def Begins (text : String) : Prop := ∀ rest, Boundary (text.toList ++ rest)

variable {s t : String} {ts us : List Token}

theorem Ends.lexes (h : Ends s ts) : Lexes s ts := fun rest _ => h rest

theorem Begins.append (h : Begins s) (t : String) : Begins (s ++ t) := by
  intro rest
  rw [String.toList_append, List.append_assoc]
  exact h _

theorem Ends.append (hs : Ends s ts) (ht : Ends t us) : Ends (s ++ t) (ts ++ us) := by
  intro rest
  rw [String.toList_append, List.append_assoc, hs, ht, List.append_assoc]

theorem Ends.lexes_append (hs : Ends s ts) (ht : Lexes t us) : Lexes (s ++ t) (ts ++ us) := by
  intro rest hr
  rw [String.toList_append, List.append_assoc, hs, ht rest hr, List.append_assoc]

theorem Lexes.ends_append (hs : Lexes s ts) (ht : Ends t us) (hb : Begins t) :
    Ends (s ++ t) (ts ++ us) := by
  intro rest
  rw [String.toList_append, List.append_assoc, hs _ (hb rest), ht, List.append_assoc]

theorem Lexes.append (hs : Lexes s ts) (ht : Lexes t us) (hb : Begins t) :
    Lexes (s ++ t) (ts ++ us) := by
  intro rest hr
  rw [String.toList_append, List.append_assoc, hs _ (hb rest), ht rest hr, List.append_assoc]

theorem lexes_word {w : String} (h : w.toList.all isWordChar = true) (hne : w.toList ≠ []) :
    Lexes w [.ofWord w] := by
  intro rest hr
  obtain ⟨c, cs, hcs⟩ := List.exists_cons_of_ne_nil hne
  have hw := List.all_eq_true.mp h
  rw [hcs] at hw
  have hstart : lexed .nothing (w.toList ++ rest) = lexed (.word [c]) (cs ++ rest) := by
    rw [hcs, List.cons_append, lexed, Pending.push, Pending.start,
      if_pos (hw c List.mem_cons_self), List.nil_append]
  rw [hstart, lexed_word_append fun d hd => hw d (List.mem_cons_of_mem _ hd), lexed_word_end hr,
    List.singleton_append, ← hcs, String.ofList_toList]
  rfl

theorem ends_quoted {q : String} (hq : '\'' ∉ q.toList) : Ends ("'" ++ q ++ "'") [.quoted q] := by
  intro rest
  have hstart : lexed .nothing (("'" ++ q ++ "'").toList ++ rest) =
      lexed (.quoted []) (q.toList ++ '\'' :: rest) := by
    rw [String.toList_append, String.toList_append, List.append_assoc, List.append_assoc]
    rfl
  rw [hstart, lexed_quoted hq, List.nil_append, String.ofList_toList]
  rfl

theorem lexes_intercalate {sep : String} {seps : List Token} {texts : List String}
    {tss : List (List Token)} (hsep : Ends sep seps) (hb : Begins sep)
    (h : List.Forall₂ Lexes texts tss) :
    Lexes (sep.intercalate texts) (List.intercalate seps tss) := by
  induction h with
  | nil =>
    rw [String.intercalate_nil]
    intro rest _
    rfl
  | @cons t us texts tss ht hrest ih =>
    cases hrest with
    | nil =>
      rw [String.intercalate_singleton, List.intercalate_singleton]
      exact ht
    | cons hu hmore =>
      rw [String.intercalate_cons_cons, List.intercalate_cons_cons]
      exact (ht.ends_append hsep hb).lexes_append ih

/-- A column whose name is a word and no keyword. -/
structure IsColumn (column : String) : Prop where
  word : column.toList.all isWordChar = true
  nonempty : column.toList ≠ []
  name : Token.ofWord column = .name column

theorem isColumn_data : IsColumn "data" := ⟨rfl, List.cons_ne_nil _ _, rfl⟩

def memberTokens (column : String) (a : Access) (f : Field) : List Token :=
  [.access a, .opening, .name column, .comma, .quoted f.jsonPath, .closing]

def placeholderTokens : Placeholder → List Token
  | .plain => [.mark]
  | .json => [.json, .opening, .mark, .closing]

mutual

def tokens (column : String) : Condition → List Token
  | .constant b => [.bit b]
  | .isNull f => memberTokens column .value f ++ [.is, .null]
  | .isNotNull f => memberTokens column .value f ++ [.is, .not, .null]
  | .kindIs f k => memberTokens column .kind f ++ [.relation .equals, .quoted k.name]
  | .kindIsAnyOf f ks =>
    memberTokens column .kind f ++ ([.among, .opening] ++
      List.intercalate [.comma] (ks.map fun k => [.quoted k.name]) ++ [.closing])
  | .equals f p =>
    memberTokens column .value f ++ ([.relation .equals] ++ placeholderTokens p)
  | .compares f op p =>
    memberTokens column .value f ++ ([.relation (.compares op)] ++ placeholderTokens p)
  | .matching f => memberTokens column .value f ++ [.relation .matching, .mark]
  | .both c d => tokens column c ++ ([.connective .and] ++ tokens column d)
  | .allOf cs => List.intercalate [.connective .and] (groups column cs)
  | .anyOf cs => List.intercalate [.connective .or] (groups column cs)
  | .fails c => [.not, .coalesce, .opening] ++ tokens column c ++ [.comma, .bit false, .closing]

def groups (column : String) : List Condition → List (List Token)
  | [] => []
  | c :: rest => ([.opening] ++ tokens column c ++ [.closing]) :: groups column rest

end

variable {column : String}

theorem ends_call (hcolumn : IsColumn column) {function : String} {a : Access}
    (hfunction : Ends (function ++ "(") [.access a, .opening]) (f : Field) :
    Ends (Condition.call function column f) (memberTokens column a f) := by
  have htext : Condition.call function column f =
      (function ++ "(") ++ (column ++ (", " ++ (("'" ++ f.jsonPath ++ "'") ++ ")"))) := by
    have hcomma : ", '" = ", " ++ "'" := rfl
    have hclose : "')" = "'" ++ ")" := rfl
    rw [Condition.call, hcomma, hclose]
    simp only [String.append_assoc]
  have hname : Lexes column [.name column] := by
    rw [← hcolumn.name]
    exact lexes_word hcolumn.word hcolumn.nonempty
  have hcomma : Ends ", " [.comma] := fun _ => rfl
  have hclose : Ends ")" [.closing] := fun _ => rfl
  have hbegins : Begins ", " := fun _ => boundary_cons rfl _
  rw [htext]
  exact hfunction.append (hname.ends_append
    (hcomma.append ((ends_quoted f.not_mem_jsonPath).append hclose)) (hbegins.append _))

theorem ends_extractText (hcolumn : IsColumn column) (f : Field) :
    Ends (Condition.extractText column f) (memberTokens column .value f) :=
  ends_call hcolumn (fun _ => rfl) f

theorem ends_kindText (hcolumn : IsColumn column) (f : Field) :
    Ends (Condition.kindText column f) (memberTokens column .kind f) :=
  ends_call hcolumn (fun _ => rfl) f

theorem ends_kindName (k : JsonKind) : Ends (Condition.kindName k) [.quoted k.name] :=
  ends_quoted (by cases k <;> decide)

theorem ends_placeholder (p : Placeholder) : Ends p.text (placeholderTokens p) := by
  cases p <;> exact fun _ => rfl

theorem ends_symbol (op : Comparison) :
    Ends (" " ++ op.symbol ++ " ") [.relation (.compares op)] := by
  cases op <;> exact fun _ => rfl

theorem ends_parenthesized (h : Lexes s ts) :
    Ends (Condition.parenthesized s) ([.opening] ++ ts ++ [.closing]) := by
  have hopen : Ends "(" [.opening] := fun _ => rfl
  have hclose : Ends ")" [.closing] := fun _ => rfl
  exact (hopen.lexes_append h).ends_append hclose fun _ => boundary_cons rfl _

mutual

theorem lexes_text (hcolumn : IsColumn column) (c : Condition) :
    Lexes (c.text column) (tokens column c) := by
  cases c with
  | constant b =>
    have hzero : Lexes "0" [.bit false] := lexes_word rfl (List.cons_ne_nil _ _)
    have hone : Lexes "1" [.bit true] := lexes_word rfl (List.cons_ne_nil _ _)
    cases b with
    | true => exact hone
    | false => exact hzero
  | isNull f =>
    have htail : Lexes " IS NULL" [.is, .null] := fun rest hr => congrArg _ (lexed_word_end hr)
    exact (ends_extractText hcolumn f).lexes_append htail
  | isNotNull f =>
    have htail : Lexes " IS NOT NULL" [.is, .not, .null] :=
      fun rest hr => congrArg (fun ts => [Token.is, .not] ++ ts) (lexed_word_end hr)
    exact (ends_extractText hcolumn f).lexes_append htail
  | kindIs f k =>
    have hequals : Ends " = " [.relation .equals] := fun _ => rfl
    rw [Condition.text, tokens, String.append_assoc]
    exact ((ends_kindText hcolumn f).append (hequals.append (ends_kindName k))).lexes
  | kindIsAnyOf f ks =>
    have hin : Ends " IN " [.among] := fun _ => rfl
    have hcomma : Ends ", " [.comma] := fun _ => rfl
    have hnames : List.Forall₂ Lexes (ks.map Condition.kindName)
        (ks.map fun k => [Token.quoted k.name]) := by
      rw [List.forall₂_map_left_iff, List.forall₂_map_right_iff, List.forall₂_same]
      exact fun k _ => (ends_kindName k).lexes
    have hlist := ends_parenthesized
      (lexes_intercalate hcomma (fun _ => boundary_cons rfl _) hnames)
    rw [Condition.text, tokens, String.append_assoc]
    exact ((ends_kindText hcolumn f).append (hin.append hlist)).lexes
  | equals f p =>
    have hequals : Ends " = " [.relation .equals] := fun _ => rfl
    rw [Condition.text, tokens, String.append_assoc]
    exact ((ends_extractText hcolumn f).append (hequals.append (ends_placeholder p))).lexes
  | compares f op p =>
    have htext : Condition.text column (.compares f op p) =
        Condition.extractText column f ++ ((" " ++ op.symbol ++ " ") ++ p.text) := by
      rw [Condition.text]
      simp only [String.append_assoc]
    rw [htext, tokens]
    exact ((ends_extractText hcolumn f).append ((ends_symbol op).append (ends_placeholder p))).lexes
  | matching f =>
    have htail : Ends " REGEXP ?" [.relation .matching, .mark] := fun _ => rfl
    exact ((ends_extractText hcolumn f).append htail).lexes
  | both c d =>
    have hand : Ends " AND " [.connective .and] := fun _ => rfl
    have hbegins : Begins " AND " := fun _ => boundary_cons rfl _
    rw [Condition.text, tokens, String.append_assoc]
    exact (lexes_text hcolumn c).append (hand.lexes_append (lexes_text hcolumn d))
      (hbegins.append _)
  | allOf cs =>
    rw [Condition.text, tokens]
    exact lexes_intercalate (fun _ => rfl) (fun _ => boundary_cons rfl _)
      (lexes_texts hcolumn cs)
  | anyOf cs =>
    rw [Condition.text, tokens]
    exact lexes_intercalate (fun _ => rfl) (fun _ => boundary_cons rfl _)
      (lexes_texts hcolumn cs)
  | fails c =>
    have hopen : Ends "NOT COALESCE(" [.not, .coalesce, .opening] := fun _ => rfl
    have hclose : Ends ", 0)" [.comma, .bit false, .closing] := fun _ => rfl
    rw [Condition.text, tokens]
    exact ((hopen.lexes_append (lexes_text hcolumn c)).ends_append hclose
      fun _ => boundary_cons rfl _).lexes

theorem lexes_texts (hcolumn : IsColumn column) (cs : List Condition) :
    List.Forall₂ Lexes (Condition.texts column cs) (groups column cs) := by
  cases cs with
  | nil => exact .nil
  | cons c rest =>
    exact .cons (ends_parenthesized (lexes_text hcolumn c)).lexes (lexes_texts hcolumn rest)

end

end Sql

end DocumentGraph
