import DocumentGraph.Proofs.Sql.Lexing
set_option autoImplicit false

/-!
# Reading conditions back

A condition is readable if what needs parentheses has them: only comparisons stand on the sides of
a bare conjunction, and no list is empty. The text of a readable condition reads as the formula that
it was meant to be, and the formula is evaluated as the condition is.
-/

namespace DocumentGraph.Sql

/-- A comparison, which needs no parentheses. -/
def IsComparison : Condition → Prop
  | .kindIsAnyOf _ ks => ks ≠ []
  | .both _ _ => False
  | .allOf _ => False
  | .anyOf _ => False
  | .fails _ => False
  | _ => True

mutual

def Readable : Condition → Prop
  | .both c d => IsComparison c ∧ IsComparison d
  | .allOf cs => cs ≠ [] ∧ ReadableAll cs
  | .anyOf cs => cs ≠ [] ∧ ReadableAll cs
  | .fails c => Readable c
  | .kindIsAnyOf _ ks => ks ≠ []
  | _ => True

def ReadableAll : List Condition → Prop
  | [] => True
  | c :: rest => Readable c ∧ ReadableAll rest

end

def joined (k : Connective) : List Formula → Formula
  | [] => .bit true
  | q :: rest => rest.foldl (.join k) q

mutual

def formula : Condition → Formula
  | .constant b => .bit b
  | .isNull f => .isNull (.member .value f)
  | .isNotNull f => .isNotNull (.member .value f)
  | .kindIs f k => .related .equals (.member .kind f) (.literal k.name)
  | .kindIsAnyOf f ks => .among (.member .kind f) (ks.map (·.name))
  | .equals f p => .related .equals (.member .value f) (.placeholder p)
  | .compares f op p => .related (.compares op) (.member .value f) (.placeholder p)
  | .matching f => .related .matching (.member .value f) (.placeholder .plain)
  | .both c d => .join .and (formula c) (formula d)
  | .allOf cs => joined .and (formulas cs)
  | .anyOf cs => joined .or (formulas cs)
  | .fails c => .not (.known (formula c))

def formulas : List Condition → List Formula
  | [] => []
  | c :: rest => formula c :: formulas rest

end

/-- Nothing is open to the left but a bracket. -/
def Enclosed : List Frame → Prop
  | [] => True
  | f :: _ => f.strength = 0

theorem reduce_enclosed {fs : List Frame} (h : Enclosed fs) {n : Nat} (hn : 1 ≤ n) (q : Formula) :
    reduce n fs q = (fs, q) := by
  cases fs with
  | nil => rfl
  | cons f fs =>
    have hf : f.strength = 0 := h
    rw [reduce, if_neg (by omega)]

theorem reduce_join {k : Connective} {fs : List Frame} (h : Enclosed fs) {n : Nat} (hn : 1 ≤ n)
    (hk : n ≤ k.strength) (p q : Formula) :
    reduce n (.join k p :: fs) q = (fs, .join k p q) := by
  have hstrength : n ≤ (Frame.join k p).strength := hk
  rw [reduce, if_pos hstrength, reduce_enclosed h hn]
  rfl

theorem one_le_strength (k : Connective) : 1 ≤ k.strength := by cases k <;> decide

theorem fieldOf_jsonPath (f : Field) : fieldOf f.jsonPath = some f := by
  have hlist : f.jsonPath.toList = '$' :: '.' :: f.name.toList := by
    rw [Field.jsonPath, String.toList_append]
    rfl
  rw [fieldOf, hlist]
  simp only [String.ofList_toList]
  exact Field.ofName?_eq_some_iff.mpr rfl

variable {column : String} (fs : List Frame) (ts : List Token)

theorem read_member (a : Access) (f : Field) :
    read column .operand fs (memberTokens column a f ++ ts) =
      read column (.relation (.member a f)) fs ts := by
  simp only [memberTokens, List.cons_append, List.nil_append, read, fieldOf_jsonPath,
    if_true]

theorem read_placeholder (r : Relation) (t : Term) (p : Placeholder) :
    read column (.relation t) fs ([.relation r] ++ placeholderTokens p ++ ts) =
      read column (.operator (.related r t (.placeholder p))) fs ts := by
  cases p <;> rfl

theorem intercalate_cons {α : Type} (sep x : List α) (xs : List (List α)) :
    List.intercalate sep (x :: xs) = x ++ xs.flatMap fun y => sep ++ y := by
  induction xs generalizing x with
  | nil => rw [List.intercalate_singleton, List.flatMap_nil, List.append_nil]
  | cons y ys ih => rw [List.intercalate_cons_cons, ih, List.flatMap_cons, List.append_assoc, List.append_assoc]

theorem read_options (t : Term) (found : List String) (ks : List JsonKind) :
    read column (.options t found) fs
        ((ks.map fun k => [Token.quoted k.name]).flatMap (fun y => [.comma] ++ y) ++
          ([.closing] ++ ts)) =
      read column (.operator (.among t (found ++ ks.map (·.name)))) fs ts := by
  induction ks generalizing found with
  | nil =>
    rw [List.map_nil, List.map_nil, List.append_nil]
    rfl
  | cons k ks ih =>
    have h := ih (found ++ [k.name])
    rw [List.append_assoc, List.singleton_append] at h
    exact h

theorem read_comparison {c : Condition} (hc : IsComparison c) :
    read column .operand fs (tokens column c ++ ts) = read column (.operator (formula c)) fs ts := by
  cases c with
  | constant b => rfl
  | isNull f =>
    rw [tokens, List.append_assoc, read_member]
    rfl
  | isNotNull f =>
    rw [tokens, List.append_assoc, read_member]
    rfl
  | kindIs f k =>
    rw [tokens, List.append_assoc, read_member]
    rfl
  | kindIsAnyOf f ks =>
    obtain ⟨k, ks, rfl⟩ := List.exists_cons_of_ne_nil hc
    rw [tokens, List.append_assoc, read_member, List.map_cons, intercalate_cons, List.append_assoc,
      List.append_assoc, List.append_assoc]
    exact read_options fs ts (.member .kind f) [k.name] ks
  | equals f p =>
    rw [tokens, List.append_assoc, read_member]
    exact read_placeholder fs ts _ _ p
  | compares f op p =>
    rw [tokens, List.append_assoc, read_member]
    exact read_placeholder fs ts _ _ p
  | matching f =>
    rw [tokens, List.append_assoc, read_member]
    rfl
  | both c d => exact hc.elim
  | allOf cs => exact hc.elim
  | anyOf cs => exact hc.elim
  | fails c => exact hc.elim

theorem read_closing {gs : List Frame} {q p : Formula} (h : reduce 1 gs q = (.group :: fs, p)) :
    read column (.operator q) gs ([.closing] ++ ts) = read column (.operator p) fs ts := by
  rw [List.singleton_append, read, h]

theorem read_known {gs : List Frame} {q p : Formula}
    (h : reduce 1 gs q = (.coalesce :: fs, p)) :
    read column (.operator q) gs ([.comma, .bit false, .closing] ++ ts) =
      read column (.operator (.known p)) fs ts := by
  rw [List.cons_append, List.cons_append, List.singleton_append, read, h]

theorem read_connective {k : Connective} {gs : List Frame} {q p : Formula}
    (h : reduce k.strength gs q = (fs, p)) :
    read column (.operator q) gs ([.connective k] ++ ts) =
      read column .operand (.join k p :: fs) ts := by
  have hread : read column (.operator q) gs ([.connective k] ++ ts) =
      read column .operand (.join k (reduce k.strength gs q).2 :: (reduce k.strength gs q).1) ts :=
    rfl
  rw [hread, h]

theorem read_group {c : Condition}
    (hc : ∀ ts, ∃ gs q, read column .operand (.group :: fs) (tokens column c ++ ts) =
      read column (.operator q) gs ts ∧ reduce 1 gs q = (.group :: fs, formula c)) :
    read column .operand fs ([.opening] ++ tokens column c ++ [.closing] ++ ts) =
      read column (.operator (formula c)) fs ts := by
  obtain ⟨gs, q, hread, hreduce⟩ := hc ([.closing] ++ ts)
  rw [List.append_assoc, List.append_assoc]
  exact hread.trans (read_closing fs ts hreduce)

def Joins (column : String) (k : Connective) (cs : List Condition) (fs : List Frame) : Prop :=
  ∀ ts gs p q, (∀ n, 1 ≤ n → n ≤ k.strength → reduce n gs q = (fs, p)) →
    ∃ hs r, read column (.operator q) gs
        ((groups column cs).flatMap (fun y => [.connective k] ++ y) ++ ts) =
          read column (.operator r) hs ts ∧
      reduce 1 hs r = (fs, (formulas cs).foldl (.join k) p)

mutual

/-- Reading the tokens of a condition gives its formula once everything after the bracket on the
left is closed. -/
theorem read_tokens (c : Condition) (hc : Readable c) (fs : List Frame) (hfs : Enclosed fs)
    (ts : List Token) :
    ∃ gs q, read column .operand fs (tokens column c ++ ts) = read column (.operator q) gs ts ∧
      reduce 1 gs q = (fs, formula c) := by
  -- Only a bracket is open to the left, so what is read here closes nothing in `fs`.
  have hcomparison (h : IsComparison c) :
      ∃ gs q, read column .operand fs (tokens column c ++ ts) = read column (.operator q) gs ts ∧
        reduce 1 gs q = (fs, formula c) :=
    ⟨fs, formula c, read_comparison fs ts h, reduce_enclosed hfs (Nat.le_refl 1) _⟩
  have hchain (k : Connective) (d : Condition) (rest : List Condition)
      (hd : ∀ ts, ∃ gs q, read column .operand (.group :: fs) (tokens column d ++ ts) =
        read column (.operator q) gs ts ∧ reduce 1 gs q = (.group :: fs, formula d))
      (hrest : Joins column k rest fs) :
      ∃ gs q, read column .operand fs
          (List.intercalate [.connective k] (groups column (d :: rest)) ++ ts) =
            read column (.operator q) gs ts ∧
        reduce 1 gs q = (fs, joined k (formulas (d :: rest))) := by
    rw [groups, intercalate_cons, List.append_assoc, read_group fs _ hd]
    exact hrest ts fs (formula d) (formula d) fun n hn _ => reduce_enclosed hfs hn _
  cases c with
  | both c d =>
    obtain ⟨hleft, hright⟩ := hc
    refine ⟨.join .and (formula c) :: fs, formula d, ?_,
      reduce_join hfs (Nat.le_refl 1) (one_le_strength .and) _ _⟩
    rw [tokens, List.append_assoc, read_comparison _ _ hleft, List.append_assoc,
      read_connective fs _ (reduce_enclosed hfs (one_le_strength .and) _),
      read_comparison _ _ hright]
  | allOf cs =>
    cases cs with
    | nil => exact absurd rfl hc.1
    | cons d rest =>
      exact hchain .and d rest (read_tokens d hc.2.1 (.group :: fs) rfl)
        (read_groups .and rest hc.2.2 fs hfs)
  | anyOf cs =>
    cases cs with
    | nil => exact absurd rfl hc.1
    | cons d rest =>
      exact hchain .or d rest (read_tokens d hc.2.1 (.group :: fs) rfl)
        (read_groups .or rest hc.2.2 fs hfs)
  | fails c =>
    have hc' : Readable c := hc
    obtain ⟨gs, q, hread, hreduce⟩ := read_tokens c hc' (.coalesce :: .not :: fs) rfl
      ([.comma, .bit false, .closing] ++ ts)
    refine ⟨.not :: fs, .known (formula c), ?_, ?_⟩
    · rw [tokens, List.append_assoc, List.append_assoc]
      exact hread.trans (read_known _ ts hreduce)
    · have hstrength : 1 ≤ Frame.not.strength := by decide
      rw [reduce, if_pos hstrength, reduce_enclosed hfs (Nat.le_refl 1)]
      rfl
  | constant b => exact hcomparison trivial
  | isNull f => exact hcomparison trivial
  | isNotNull f => exact hcomparison trivial
  | kindIs f k => exact hcomparison trivial
  | kindIsAnyOf f ks => exact hcomparison hc
  | equals f p => exact hcomparison trivial
  | compares f op p => exact hcomparison trivial
  | matching f => exact hcomparison trivial

theorem read_groups (k : Connective) (cs : List Condition) (hcs : ReadableAll cs)
    (fs : List Frame) (hfs : Enclosed fs) : Joins column k cs fs := by
  intro ts gs p q hreduce
  cases cs with
  | nil => exact ⟨gs, q, rfl, hreduce 1 (Nat.le_refl 1) (one_le_strength k)⟩
  | cons c rest =>
    -- The connective first closes the one before it, which is no weaker.
    obtain ⟨hs, r, hread, hreduced⟩ := read_groups k rest hcs.2 fs hfs ts (.join k p :: fs)
      (.join k p (formula c)) (formula c) fun n hn hk => reduce_join hfs hn hk _ _
    refine ⟨hs, r, ?_, hreduced⟩
    rw [groups, List.flatMap_cons, List.append_assoc, List.append_assoc,
      read_connective fs _ (hreduce k.strength (one_le_strength k) (Nat.le_refl _)),
      read_group _ _ (read_tokens c hcs.1 (.group :: .join k p :: fs) rfl), hread]

end

theorem read_condition {c : Condition} (hc : Readable c) :
    read column .operand [] (tokens column c) = some (formula c) := by
  obtain ⟨gs, q, hread, hreduce⟩ := read_tokens c hc [] trivial []
  rw [List.append_nil] at hread
  rw [hread, read, hreduce]

/-- The text of a readable condition reads as its formula. -/
theorem ofText?_text (hcolumn : IsColumn column) {c : Condition} (hc : Readable c) :
    Formula.ofText? column (c.text column) = some (formula c) := by
  have hlexed := lexes_text hcolumn c [] boundary_nil
  have htokens : lexed .nothing (c.text column).toList = tokens column c := by
    rw [List.append_nil] at hlexed
    exact hlexed.trans (List.append_nil _)
  rw [Formula.ofText?, htokens, read_condition hc]

end DocumentGraph.Sql
