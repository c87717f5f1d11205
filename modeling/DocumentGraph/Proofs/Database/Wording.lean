import DocumentGraph.Proofs.Sql.Reading
import DocumentGraph.Proofs.Sql.Sentence
set_option autoImplicit false

namespace DocumentGraph

namespace Sql

/-- Every bracket in the tokens is closed in them. -/
def Balanced (ts : List Token) : Prop :=
  ∀ n rest, untilClosing n (ts ++ rest) = (untilClosing n rest).map fun x => (ts ++ x.1, x.2)

variable {ts us rest : List Token} {column : String}

def Token.isBracket : Token → Bool
  | .opening => true
  | .closing => true
  | _ => false

theorem untilClosing_cons {t : Token} (ht : t.isBracket = false) (n : Nat) (ts : List Token) :
    untilClosing n (t :: ts) = (untilClosing n ts).map fun x => (t :: x.1, x.2) := by
  cases t with
  | opening => cases ht
  | closing => cases ht
  | _ => cases n <;> rfl

theorem balanced_of_plain (h : ∀ t ∈ ts, t.isBracket = false) : Balanced ts := by
  intro n rest
  induction ts with
  | nil => simp
  | cons t ts ih =>
    obtain ⟨ht, hts⟩ := List.forall_mem_cons.mp h
    rw [List.cons_append, untilClosing_cons ht, ih hts, Option.map_map]
    rfl

theorem Balanced.append (hts : Balanced ts) (hus : Balanced us) : Balanced (ts ++ us) := by
  intro n rest
  rw [List.append_assoc, hts, hus, Option.map_map]
  exact congrArg (fun f => (untilClosing n rest).map f) (funext fun x => by simp)

theorem Balanced.group (hts : Balanced ts) : Balanced ([.opening] ++ ts ++ [.closing]) := by
  intro n rest
  have hclosing : untilClosing (n + 1) ([.closing] ++ rest) =
      (untilClosing n rest).map fun x => (.closing :: x.1, x.2) := by
    rw [List.singleton_append, untilClosing]
  have hopening : untilClosing n ([.opening] ++ ts ++ [.closing] ++ rest) =
      (untilClosing (n + 1) (ts ++ ([.closing] ++ rest))).map fun x => (.opening :: x.1, x.2) := by
    rw [List.append_assoc, List.append_assoc, List.singleton_append]
    cases n <;> rw [untilClosing]
  rw [hopening, hts, hclosing, Option.map_map, Option.map_map]
  exact congrArg (fun f => (untilClosing n rest).map f) (funext fun x => by simp)

theorem balanced_intercalate {tss : List (List Token)} (hus : Balanced us)
    (h : ∀ ts ∈ tss, Balanced ts) : Balanced (List.intercalate us tss) := by
  induction tss with
  | nil => exact balanced_of_plain (List.forall_mem_nil _)
  | cons ts rest ih =>
    obtain ⟨hts, hrest⟩ := List.forall_mem_cons.mp h
    cases rest with
    | nil =>
      rw [List.intercalate_singleton]
      exact hts
    | cons vs rest =>
      rw [List.intercalate_cons_cons]
      exact (hts.append hus).append (ih hrest)

theorem balanced_member (column : String) (a : Access) (f : Field) :
    Balanced (memberTokens column a f) := by
  have haccess : Balanced [.access a] := balanced_of_plain (by simp [Token.isBracket])
  have hinside : Balanced [.name column, .comma, .quoted f.jsonPath] :=
    balanced_of_plain (by simp [Token.isBracket])
  exact haccess.append hinside.group

theorem balanced_placeholder (p : Placeholder) : Balanced (placeholderTokens p) := by
  have hmark : Balanced [.mark] := balanced_of_plain (by simp [Token.isBracket])
  have hjson : Balanced [.json] := balanced_of_plain (by simp [Token.isBracket])
  cases p with
  | plain => exact hmark
  | json => exact hjson.append hmark.group

mutual

theorem balanced_tokens (c : Condition) : Balanced (tokens column c) := by
  have hplain {ts : List Token} (h : (ts.all fun t => !t.isBracket) = true) : Balanced ts :=
    balanced_of_plain fun t ht => by simpa using List.all_eq_true.mp h t ht
  cases c with
  | constant b => exact hplain rfl
  | isNull f => exact (balanced_member column .value f).append (hplain rfl)
  | isNotNull f => exact (balanced_member column .value f).append (hplain rfl)
  | kindIs f k => exact (balanced_member column .kind f).append (hplain rfl)
  | kindIsAnyOf f ks =>
    have hnames : Balanced (List.intercalate [.comma] (ks.map fun k => [Token.quoted k.name])) :=
      balanced_intercalate (hplain rfl) (List.forall_mem_map.mpr fun k _ => hplain rfl)
    have hamong : Balanced [.among] := hplain rfl
    exact (balanced_member column .kind f).append (hamong.append hnames.group)
  | equals f p =>
    have hequals : Balanced [.relation .equals] := hplain rfl
    exact (balanced_member column .value f).append (hequals.append (balanced_placeholder p))
  | compares f op p =>
    have hcompares : Balanced [.relation (.compares op)] := hplain rfl
    exact (balanced_member column .value f).append (hcompares.append (balanced_placeholder p))
  | matching f => exact (balanced_member column .value f).append (hplain rfl)
  | both c d =>
    have hand : Balanced [.connective .and] := hplain rfl
    exact (balanced_tokens c).append (hand.append (balanced_tokens d))
  | allOf cs => exact balanced_intercalate (hplain rfl) (balanced_groups cs)
  | anyOf cs => exact balanced_intercalate (hplain rfl) (balanced_groups cs)
  | fails c =>
    have hnot : Balanced [.not, .coalesce] := hplain rfl
    have hzero : Balanced [.comma, .bit false] := hplain rfl
    have hinside := hnot.append ((balanced_tokens c).append hzero).group
    rw [tokens]
    simpa using hinside

theorem balanced_groups (cs : List Condition) : ∀ ts ∈ groups column cs, Balanced ts := by
  cases cs with
  | nil => exact List.forall_mem_nil _
  | cons c rest =>
    exact List.forall_mem_cons.mpr ⟨(balanced_tokens c).group, balanced_groups rest⟩

end

theorem untilClosing_tokens (column : String) (c : Condition) (ts : List Token) :
    untilClosing 0 (tokens column c ++ .closing :: ts) = some (tokens column c, ts) := by
  rw [balanced_tokens, untilClosing, Option.map_some, List.append_nil]

theorem Ends.lexed_append {s : String} (h : Ends s ts) (t : String) :
    lexed .nothing (s ++ t).toList = ts ++ lexed .nothing t.toList := by
  rw [String.toList_append, h]

theorem lexed_around {table s t : String} (htable : IsColumn table) (hs : Ends s ts)
    (ht : Begins t) :
    lexed .nothing (s ++ table ++ t).toList = ts ++ .name table :: lexed .nothing t.toList := by
  have hname : Lexes table [.name table] := by
    rw [← htable.name]
    exact lexes_word htable.word htable.nonempty
  have hboundary : Boundary t.toList := by
    have h := ht []
    rwa [List.append_nil] at h
  rw [String.append_assoc, hs.lexed_append, String.toList_append, hname _ hboundary]
  rfl

end Sql

open Sql

namespace Tail

def terms (t : Tail) : List OrderTerm := (t.sort.map OrderTerm.member).toList ++ [.rowid]

def bounds (t : Tail) : Bounds :=
  match t.page with
  | none => .none
  | some ⟨_, none⟩ => .limit
  | some ⟨_, some _⟩ => .limitAndOffset

end Tail

namespace Statement

def documentResults : Results := .columns false [.id, .data, .createdAt, .updatedAt]

def atKey : Where := ⟨[.collection, .id], .bit true⟩

def chosen (p : Predicate) : Where := ⟨[.collection], Sql.formula p.condition⟩

def sentence (table : String) : Statement → Sentence
  | .put _ _ _ _ =>
    .insert table [.collection, .id, .data, .createdAt, .updatedAt] [.collection, .id]
      [.data, .updatedAt]
  | .fetch _ _ => .select documentResults table atKey [] .none
  | .present _ _ => .select (.one "present") table atKey [] .none
  | .remove _ _ => .delete table atKey
  | .find _ p t => .select documentResults table (chosen p) t.terms t.bounds
  | .count _ p => .select (.count "n") table (chosen p) [] .none
  | .removeWhere _ p => .delete table (chosen p)
  | .keys _ => .select (.columns false [.id]) table ⟨[.collection], .bit true⟩ [.column .id] .none
  | .collections =>
    .select (.columns true [.collection]) table ⟨[], .bit true⟩ [.column .collection] .none

def Readable : Statement → Prop
  | .find _ p _ => Sql.Readable p.condition
  | .count _ p => Sql.Readable p.condition
  | .removeWhere _ p => Sql.Readable p.condition
  | _ => True

variable {table : String} {p : Predicate}

def documentTokens : List Token :=
  [.name "SELECT", .name "id", .comma, .name "data", .comma, .name "created_at", .comma,
    .name "updated_at", .name "FROM"]

def selectingTokens (p : Predicate) : List Token :=
  [.name "WHERE", .name "collection", .relation .equals, .mark, .connective .and] ++
    ([.opening] ++ tokens "data" p.condition ++ [.closing])

theorem ends_selecting (p : Predicate) : Ends (selecting p) (selectingTokens p) := by
  have hcollection : Ends (ofCollection ++ " AND ")
      [.name "WHERE", .name "collection", .relation .equals, .mark, .connective .and] :=
    fun _ => rfl
  exact hcollection.append (ends_parenthesized (lexes_text isColumn_data p.condition))

theorem readWhere_selecting (hp : Sql.Readable p.condition) (ts : List Token) :
    readWhere (selectingTokens p ++ ts) = some (chosen p, ts) := by
  have hinside : selectingTokens p ++ ts =
      [.name "WHERE", .name "collection", .relation .equals, .mark, .connective .and, .opening] ++
        (tokens "data" p.condition ++ .closing :: ts) := by
    simp [selectingTokens]
  have hformula : readTests (.opening :: (tokens "data" p.condition ++ .closing :: ts)) =
      some (⟨[], Sql.formula p.condition⟩, ts) := by
    rw [readTests, untilClosing_tokens]
    simp only [bind, Option.bind, read_condition hp]
    rfl
  rw [hinside]
  simp only [List.cons_append, List.nil_append, readWhere]
  rw [readTests, hformula]
  rfl

end Statement

namespace Tail

variable (t : Tail)

def boundsTokens : List Token :=
  match t.page with
  | none => []
  | some ⟨_, none⟩ => [.name "LIMIT", .mark]
  | some ⟨_, some _⟩ => [.name "LIMIT", .mark, .name "OFFSET", .mark]

def sortTokens : List Token :=
  match t.sort with
  | none => []
  | some key => memberTokens "data" .value key.field ++ [.name (direction key), .comma]

def tokens : List Token :=
  [.name "ORDER", .name "BY"] ++ (t.sortTokens ++ ([.name "rowid", .name "ASC"] ++ t.boundsTokens))

theorem ends_sortText (key : SortKey) :
    Ends (sortText "data" key)
      (memberTokens "data" .value key.field ++ [.name (direction key), .comma]) := by
  have htext : sortText "data" key =
      Condition.extractText "data" key.field ++ (" " ++ direction key ++ ", ") := by
    have hopen : "json_extract(" = "json_extract" ++ "(" := rfl
    have hclose : "') " = "')" ++ " " := rfl
    unfold sortText Condition.extractText Condition.call
    rw [hopen, hclose]
    simp only [String.append_assoc]
  have hdirection : Ends (" " ++ direction key ++ ", ") [.name (direction key), .comma] := by
    rw [direction]
    cases key.descending with
    | false =>
      rw [if_neg Bool.false_ne_true]
      exact fun _ => rfl
    | true =>
      rw [if_pos rfl]
      exact fun _ => rfl
  rw [htext]
  exact (ends_extractText isColumn_data key.field).append hdirection

theorem lexed_text : lexed .nothing (t.text "data").toList = t.tokens := by
  obtain ⟨sort, page⟩ := t
  have horder : Ends " ORDER BY " [.name "ORDER", .name "BY"] := fun _ => rfl
  have hsort : Ends ((sort.map (sortText "data")).getD "") (sortTokens ⟨sort, page⟩) := by
    cases sort with
    | none => exact fun _ => rfl
    | some key => exact ends_sortText key
  rw [text, String.append_assoc, (horder.append hsort).lexed_append, tokens]
  rcases page with _ | ⟨limit, _ | offset⟩
  all_goals
    simp only [List.append_assoc, Option.isSome_none, Option.isSome_some, Bool.false_eq_true,
      if_true, if_false, boundsTokens]
    rfl

theorem readTerms_last (n : Nat) : readTerms (n + 1) ([.name "rowid", .name "ASC"] ++ t.boundsTokens) =
    some ([.rowid], t.boundsTokens) := by
  rw [boundsTokens]
  split <;> rfl

theorem readOrder_tokens : readOrder t.tokens = some (t.terms, t.boundsTokens) := by
  obtain ⟨sort, page⟩ := t
  cases sort with
  | none => exact readTerms_last ⟨none, page⟩ _
  | some key =>
    have hfield : fieldOf key.field.jsonPath = some key.field := fieldOf_jsonPath key.field
    have hdirection (ts : List Token) :
        readDirection (.name (direction key) :: ts) = some (key.descending, ts) := by
      rw [direction]
      cases key.descending <;> rfl
    have hterm (ts : List Token) : readTerm (memberTokens "data" .value key.field ++
        .name (direction key) :: ts) = some (.member key, ts) := by
      simp [memberTokens, readTerm, hfield, hdirection]
    have htokens : Tail.tokens ⟨some key, page⟩ = .name "ORDER" :: .name "BY" ::
        (memberTokens "data" .value key.field ++ .name (direction key) :: .comma ::
          ([.name "rowid", .name "ASC"] ++ boundsTokens ⟨some key, page⟩)) := by
      simp [Tail.tokens, sortTokens]
    have hlength (ts : List Token) :
        (memberTokens "data" .value key.field ++ ts).length = ts.length + 4 + 1 + 1 := by
      simp [memberTokens]
    rw [htokens, readOrder, hlength, readTerms, hterm]
    simp only [bind, Option.bind, readTerms_last]
    rfl

theorem readBounds_tokens : readBounds t.boundsTokens = some t.bounds := by
  unfold boundsTokens bounds
  split <;> rfl

end Tail

namespace Statement

variable {table : String}

theorem read_around (htable : IsColumn table) {s t : String} {ts us : List Token} {x : Sentence}
    (hs : Ends s ts) (ht : Begins t) (hus : lexed .nothing t.toList = us)
    (hx : Sentence.ofTokens? (ts ++ .name table :: us) = some x) :
    Sentence.ofText? (s ++ table ++ t) = some x := by
  rw [Sentence.ofText?, lexed_around htable hs ht, hus, hx]

theorem text_put (table collection id : String) (data : Json) (now : Int64) :
    (put collection id data now).text table = "INSERT INTO " ++ table ++
      (" (collection, id, data, created_at, updated_at) VALUES (?, ?, ?, ?, ?) " ++
        ("ON CONFLICT(collection, id) DO UPDATE SET data = excluded.data, " ++
          "updated_at = excluded.updated_at")) := by
  unfold text
  exact String.append_assoc.trans String.append_assoc

set_option maxRecDepth 1000 in
theorem read_put (htable : IsColumn table) (collection id : String) (data : Json) (now : Int64) :
    Sentence.ofText? ((put collection id data now).text table) =
      some ((put collection id data now).sentence table) := by
  have hinto : Ends "INSERT INTO " [.name "INSERT", .name "INTO"] := fun _ => rfl
  have hvalues : Ends " (collection, id, data, created_at, updated_at) VALUES (?, ?, ?, ?, ?) "
      [.opening, .name "collection", .comma, .name "id", .comma, .name "data", .comma,
        .name "created_at", .comma, .name "updated_at", .closing, .name "VALUES", .opening, .mark,
        .comma, .mark, .comma, .mark, .comma, .mark, .comma, .mark, .closing] := fun _ => rfl
  have hconflict : Ends "ON CONFLICT(collection, id) DO UPDATE SET data = excluded.data, "
      [.name "ON", .name "CONFLICT", .opening, .name "collection", .comma, .name "id", .closing,
        .name "DO", .name "UPDATE", .name "SET", .name "data", .relation .equals, .name "excluded",
        .other ".", .name "data", .comma] := fun _ => rfl
  have hupdated : lexed .nothing "updated_at = excluded.updated_at".toList =
      [.name "updated_at", .relation .equals, .name "excluded", .other ".", .name "updated_at"] := rfl
  have hbegins : Begins " (collection, id, data, created_at, updated_at) VALUES (?, ?, ?, ?, ?) " :=
    fun _ => boundary_cons rfl _
  have hbehind := (hconflict.lexed_append "updated_at = excluded.updated_at").trans
    (congrArg _ hupdated)
  rw [text_put]
  exact read_around htable hinto (hbegins.append _)
    ((hvalues.lexed_append _).trans (congrArg _ hbehind)) rfl

theorem ofTokens?_select {r : Results} {w : Where} {order : List OrderTerm} {bounds : Bounds}
    {ts us vs ws : List Token}
    (hr : ∀ us, readResults (ts ++ .name "FROM" :: us) = some (r, .name "FROM" :: us))
    (hw : readWhere us = some (w, vs)) (ho : readOrder vs = some (order, ws))
    (hb : readBounds ws = some bounds) :
    Sentence.ofTokens? (.name "SELECT" :: (ts ++ .name "FROM" :: .name table :: us)) =
      some (.select r table w order bounds) := by
  rw [Sentence.ofTokens?]
  simp only [hr, bind, Option.bind, hw, ho, hb]
  rfl

theorem begins_selecting (p : Predicate) : Begins (selecting p) := by
  have hcollection : Begins ofCollection := fun _ => boundary_cons rfl _
  exact (hcollection.append " AND ").append _

theorem lexed_selecting (p : Predicate) :
    lexed .nothing (selecting p).toList = selectingTokens p ++ [] := by
  have h := (ends_selecting p).lexed_append ""
  rwa [String.append_empty] at h

theorem text_find (table collection : String) (p : Predicate) (t : Tail) :
    (find collection p t).text table = "SELECT " ++ String.intercalate ", " documentColumns ++
      " FROM " ++ table ++ (selecting p ++ t.text "data") := by
  unfold text selectDocuments dataColumn
  exact String.append_assoc

theorem text_keys (table collection : String) :
    (keys collection).text table = "SELECT id FROM " ++ table ++
      (ofCollection ++ " ORDER BY id ASC") := by
  unfold text
  exact String.append_assoc

theorem ofTokens?_delete {w : Where} {us : List Token} (hw : readWhere us = some (w, [])) :
    Sentence.ofTokens? ([.name "DELETE", .name "FROM"] ++ .name table :: us) =
      some (.delete table w) := by
  simp only [List.cons_append, List.nil_append, Sentence.ofTokens?, hw, bind, Option.bind]
  rfl

/-- The text of a statement reads as its sentence. -/
theorem ofText?_text (htable : IsColumn table) {s : Statement} (hs : s.Readable) :
    Sentence.ofText? (s.text table) = some (s.sentence table) := by
  have hselect : Ends ("SELECT " ++ String.intercalate ", " documentColumns ++ " FROM ")
      documentTokens := fun _ => rfl
  have hdelete : Ends "DELETE FROM " [.name "DELETE", .name "FROM"] := fun _ => rfl
  cases s with
  | put collection id data now => exact read_put htable collection id data now
  | fetch collection id => exact read_around htable hselect (fun _ => boundary_cons rfl _) rfl rfl
  | present collection id =>
    have hone : Ends "SELECT 1 AS present FROM "
        [.name "SELECT", .bit true, .name "AS", .name "present", .name "FROM"] := fun _ => rfl
    exact read_around htable hone (fun _ => boundary_cons rfl _) rfl rfl
  | remove collection id => exact read_around htable hdelete (fun _ => boundary_cons rfl _) rfl rfl
  | find collection p t =>
    have hread : Sentence.ofTokens? (.name "SELECT" :: ([.name "id", .comma, .name "data", .comma,
        .name "created_at", .comma, .name "updated_at"] ++ .name "FROM" :: .name table ::
          (selectingTokens p ++ t.tokens))) = some ((find collection p t).sentence table) :=
      ofTokens?_select (fun us => rfl) (readWhere_selecting hs _) t.readOrder_tokens
        t.readBounds_tokens
    have htokens := ((ends_selecting p).lexed_append _).trans (congrArg _ t.lexed_text)
    rw [text_find]
    exact read_around htable hselect ((begins_selecting p).append _) htokens hread
  | count collection p =>
    have hcount : Ends "SELECT COUNT(*) AS n FROM " [.name "SELECT", .name "COUNT", .opening,
      .other "*", .closing, .name "AS", .name "n", .name "FROM"] := fun _ => rfl
    have hread : Sentence.ofTokens? (.name "SELECT" :: ([.name "COUNT", .opening, .other "*",
        .closing, .name "AS", .name "n"] ++ .name "FROM" :: .name table ::
          (selectingTokens p ++ []))) = some ((count collection p).sentence table) :=
      ofTokens?_select (fun us => rfl) (readWhere_selecting hs _) rfl rfl
    exact read_around htable hcount (begins_selecting p) (lexed_selecting p) hread
  | removeWhere collection p =>
    exact read_around htable hdelete (begins_selecting p) (lexed_selecting p)
      (ofTokens?_delete (readWhere_selecting hs _))
  | keys collection =>
    have hid : Ends "SELECT id FROM " [.name "SELECT", .name "id", .name "FROM"] := fun _ => rfl
    rw [text_keys]
    exact read_around htable hid (fun _ => boundary_cons rfl _) rfl rfl
  | collections =>
    have hdistinct : Ends "SELECT DISTINCT collection FROM "
        [.name "SELECT", .name "DISTINCT", .name "collection", .name "FROM"] := fun _ => rfl
    exact read_around htable hdistinct (fun _ => boundary_cons rfl _) rfl rfl

end Statement

end DocumentGraph
