import DocumentGraph.Database.Statement
import DocumentGraph.Proofs.Sql.Lexing
set_option autoImplicit false

/-!
# Templates of statements

A template is a statement with the values still in their places. Its text has a question mark where
a value is, and its values are taken from left to right; as long as the words of a template have
neither question marks nor quotes, the text asks for exactly those values and closes every quote.
-/

namespace DocumentGraph

inductive Piece where
  | words (s : String)
  | path (name : String)
  | kind (k : JsonKind)
  | slot (v : SqlValue)

abbrev Template := List Piece

namespace Piece

def text : Piece → String
  | .words s => s
  | .path name => "'$." ++ name ++ "'"
  | .kind k => Condition.kindName k
  | .slot _ => "?"

def value? : Piece → Option SqlValue
  | .slot v => some v
  | _ => none

def isQuoted : Piece → Bool
  | .path _ => true
  | .kind _ => true
  | _ => false

/-- Nothing in the piece can be taken for a placeholder or for the end of a quote. -/
def Plain : Piece → Prop
  | .words s => '?' ∉ s.toList ∧ '\'' ∉ s.toList
  | .path name => ∀ c ∈ name.toList, Field.isSegmentChar c = true ∨ c = '.'
  | _ => True

theorem plain_path {name : String} (h : Field.isPath name = true) : (path name).Plain :=
  fun _ hc => Field.isSegmentChar_of_mem h hc

theorem plain_words {s : String} (h : (s.toList.all fun c => c ≠ '?' && c ≠ '\'') = true) :
    (words s).Plain := by
  rw [List.all_eq_true] at h
  exact ⟨fun hc => by simpa using h _ hc, fun hc => by simpa using h _ hc⟩

theorem plain_words_append {s t : String} (hs : (words s).Plain) (ht : (words t).Plain) :
    (words (s ++ t)).Plain := by
  have happend {c : Char} (hcs : c ∉ s.toList) (hct : c ∉ t.toList) : c ∉ (s ++ t).toList := by
    rw [String.toList_append, List.mem_append]
    exact not_or.mpr ⟨hcs, hct⟩
  exact ⟨happend hs.1 ht.1, happend hs.2 ht.2⟩

end Piece

namespace Template

def text : Template → String
  | [] => ""
  | p :: rest => p.text ++ text rest

def values (t : Template) : List SqlValue := t.filterMap Piece.value?

def quoted (t : Template) : Template := t.filter Piece.isQuoted

def Plain (t : Template) : Prop := ∀ p ∈ t, p.Plain

variable {s t : Template}

@[simp] theorem text_nil : text [] = "" := rfl

@[simp] theorem text_cons (p : Piece) (t : Template) : text (p :: t) = p.text ++ text t := rfl

@[simp] theorem text_append (s t : Template) : text (s ++ t) = text s ++ text t := by
  induction s with
  | nil => rw [List.nil_append, text_nil, String.empty_append]
  | cons p rest ih => rw [List.cons_append, text_cons, text_cons, ih, String.append_assoc]

@[simp] theorem values_nil : values [] = [] := rfl

@[simp] theorem values_slot (v : SqlValue) (t : Template) :
    values (.slot v :: t) = v :: values t := rfl

@[simp] theorem values_words (w : String) (t : Template) : values (.words w :: t) = values t := rfl

@[simp] theorem values_path (name : String) (t : Template) :
    values (.path name :: t) = values t := rfl

@[simp] theorem values_kind (k : JsonKind) (t : Template) : values (.kind k :: t) = values t := rfl

@[simp] theorem values_append (s t : Template) : values (s ++ t) = values s ++ values t :=
  List.filterMap_append

theorem plain_cons {p : Piece} (hp : p.Plain) (ht : Plain t) : Plain (p :: t) :=
  List.forall_mem_cons.mpr ⟨hp, ht⟩

theorem plain_nil : Plain [] := nofun

theorem Plain.append (hs : Plain s) (ht : Plain t) : Plain (s ++ t) :=
  List.forall_mem_append.mpr ⟨hs, ht⟩

theorem count_name {name : String} {c : Char} (h : (Piece.path name).Plain)
    (hc : Field.isSegmentChar c = false) (hdot : c ≠ '.') : name.toList.count c = 0 := by
  rw [List.count_eq_zero]
  intro hmem
  rcases h c hmem with h | h
  · rw [hc] at h
    cases h
  · exact hdot h

theorem count_kindName (k : JsonKind) :
    (Condition.kindName k).toList.count '?' = 0 ∧
      (Condition.kindName k).toList.count '\'' = 2 := by
  cases k <;> decide

theorem count_piece {p : Piece} (h : p.Plain) :
    p.text.toList.count '?' = (values [p]).length ∧
      p.text.toList.count '\'' = 2 * (quoted [p]).length := by
  cases p with
  | words s => exact ⟨List.count_eq_zero.mpr h.1, List.count_eq_zero.mpr h.2⟩
  | path name =>
    have hquery := count_name h (c := '?') (by decide) (by decide)
    have hquote := count_name h (c := '\'') (by decide) (by decide)
    simp only [Piece.text, String.toList_append, List.count_append, hquery, hquote]
    exact ⟨rfl, rfl⟩
  | kind k => exact count_kindName k
  | slot v =>
    have hquery : "?".toList.count '?' = 1 := by decide
    have hquote : "?".toList.count '\'' = 0 := by decide
    exact ⟨hquery, hquote⟩

/-- The text has a question mark for each value, and two quotes around each quoted piece. -/
theorem count_text (h : Plain t) :
    t.text.toList.count '?' = t.values.length ∧
      t.text.toList.count '\'' = 2 * t.quoted.length := by
  induction t with
  | nil => decide
  | cons p rest ih =>
    obtain ⟨hp, hrest⟩ := List.forall_mem_cons.mp h
    obtain ⟨hquery, hquote⟩ := count_piece hp
    obtain ⟨hquery', hquote'⟩ := ih hrest
    have hvalues : (values (p :: rest)).length = (values [p]).length + (values rest).length := by
      rw [← List.singleton_append, values_append, List.length_append]
    have hquoted : (quoted (p :: rest)).length = (quoted [p]).length + (quoted rest).length := by
      rw [quoted, ← List.singleton_append, List.filter_append, List.length_append, quoted, quoted]
    rw [text_cons, String.toList_append, List.count_append, List.count_append]
    omega

def grouped (t : Template) : Template := .words "(" :: t ++ [.words ")"]

def joined (separator : String) : List Template → Template
  | [] => []
  | [t] => grouped t
  | t :: rest => grouped t ++ .words separator :: joined separator rest

theorem text_grouped (t : Template) : (grouped t).text = Condition.parenthesized t.text := by
  simp [grouped, Condition.parenthesized, Piece.text, String.append_assoc]

theorem values_grouped (t : Template) : (grouped t).values = t.values := by
  simp [grouped]

theorem plain_grouped (h : Plain t) : Plain (grouped t) :=
  plain_cons (Piece.plain_words (by decide))
    (h.append (plain_cons (Piece.plain_words (by decide)) plain_nil))

theorem text_joined (separator : String) (ts : List Template) :
    (joined separator ts).text =
      String.intercalate separator (ts.map fun t => Condition.parenthesized t.text) := by
  induction ts with
  | nil => rfl
  | cons t rest ih =>
    cases rest with
    | nil => simp [joined, text_grouped]
    | cons u rest =>
      rw [joined, text_append, text_cons, ih, text_grouped]
      · simp [Piece.text, String.intercalate_cons_cons, String.append_assoc]
      · nofun

theorem values_joined (separator : String) (ts : List Template) :
    (joined separator ts).values = ts.flatMap values := by
  induction ts with
  | nil => rfl
  | cons t rest ih =>
    cases rest with
    | nil => simp [joined, values_grouped]
    | cons u rest =>
      rw [joined, values_append, values_words, ih, values_grouped]
      · rfl
      · nofun

theorem plain_joined {separator : String} (hsep : (Piece.words separator).Plain)
    {ts : List Template} (h : ∀ t ∈ ts, Plain t) : Plain (joined separator ts) := by
  induction ts with
  | nil => exact plain_nil
  | cons t rest ih =>
    obtain ⟨ht, hrest⟩ := List.forall_mem_cons.mp h
    cases rest with
    | nil => exact plain_grouped ht
    | cons u rest => exact (plain_grouped ht).append (plain_cons hsep (ih hrest))

end Template

end DocumentGraph
