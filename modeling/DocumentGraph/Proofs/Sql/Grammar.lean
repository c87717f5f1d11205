import DocumentGraph.Sql.Condition
set_option autoImplicit false

/-!
# Conditions as SQL reads them

The text of a condition is read here without knowledge of how it was made: characters form tokens,
and tokens form a formula. Comparisons bind tighter than `NOT`, which binds tighter than `AND`,
which binds tighter than `OR`; equal connectives group to the left. A formula is evaluated in
three-valued logic, and its placeholders take their values from left to right.
-/

namespace DocumentGraph.Sql

inductive Connective where
  | and
  | or
deriving DecidableEq, Repr

/-- What is asked of a document at a path: the value, or the kind of the value. -/
inductive Access where
  | value
  | kind
deriving DecidableEq, Repr

inductive Relation where
  | equals
  | compares (op : Comparison)
  | matching
deriving DecidableEq, Repr

inductive Term where
  | member (a : Access) (f : Field)
  | placeholder (p : Placeholder)
  | literal (s : String)

inductive Formula where
  | bit (b : Bool)
  | isNull (t : Term)
  | isNotNull (t : Term)
  | related (r : Relation) (s t : Term)
  | among (t : Term) (options : List String)
  | not (q : Formula)
  /-- The formula where it is known, and 0 where it is not. -/
  | known (q : Formula)
  | join (k : Connective) (p q : Formula)

namespace Connective

def strength : Connective → Nat
  | .or => 1
  | .and => 2

def eval : Connective → Truth → Truth → Truth
  | .and => Truth.and
  | .or => Truth.or

end Connective

def Relation.eval : Relation → SqlValue → SqlValue → Truth
  | .equals, a, b => a.compared (· = .eq) b
  | .compares op, a, b => a.compared op.holds b
  | .matching, a, b => some (b.contains a)

def Term.eval (doc : Json) : Term → List SqlValue → SqlValue × List SqlValue
  | .member .value f, ps => (doc.extract f, ps)
  | .member .kind f, ps => (.ofOption (fun k => .text k.name) (doc.kindAt f), ps)
  | .placeholder p, ps => (p.value (Condition.next ps).1, (Condition.next ps).2)
  | .literal s, ps => (.text s, ps)

/-- The truth of the formula for a document, and the placeholder values that are left. -/
def Formula.eval (doc : Json) : Formula → List SqlValue → Truth × List SqlValue
  | .bit b, ps => (some b, ps)
  | .isNull t, ps =>
    let (a, ps) := t.eval doc ps
    (some a.isNull, ps)
  | .isNotNull t, ps =>
    let (a, ps) := t.eval doc ps
    (some (!a.isNull), ps)
  | .related r s t, ps =>
    let (a, ps) := s.eval doc ps
    let (b, ps) := t.eval doc ps
    (r.eval a b, ps)
  | .among t options, ps =>
    let (a, ps) := t.eval doc ps
    (if a.isNull then none else some (options.any fun o => a.order (.text o) = .eq), ps)
  | .not q, ps =>
    let (a, ps) := q.eval doc ps
    (a.map (!·), ps)
  | .known q, ps =>
    let (a, ps) := q.eval doc ps
    (some (a.getD false), ps)
  | .join k p q, ps =>
    let (a, ps) := p.eval doc ps
    let (b, ps) := q.eval doc ps
    (k.eval a b, ps)

inductive Token where
  | connective (k : Connective)
  | not
  | coalesce
  | is
  | null
  | among
  | json
  | access (a : Access)
  | relation (r : Relation)
  | bit (b : Bool)
  | name (s : String)
  | quoted (s : String)
  | opening
  | closing
  | comma
  | mark
  | other (s : String)

def isWordChar (c : Char) : Bool := c.isAlphanum || c = '_'

def isSignChar (c : Char) : Bool := c = '<' || c = '=' || c = '>'

namespace Token

def ofWord (s : String) : Token :=
  match s with
  | "AND" => .connective .and
  | "OR" => .connective .or
  | "NOT" => .not
  | "COALESCE" => .coalesce
  | "IS" => .is
  | "NULL" => .null
  | "IN" => .among
  | "REGEXP" => .relation .matching
  | "json" => .json
  | "json_extract" => .access .value
  | "json_type" => .access .kind
  | "0" => .bit false
  | "1" => .bit true
  | s => .name s

def ofSign (s : String) : Token :=
  match s with
  | "=" => .relation .equals
  | "<" => .relation (.compares .lt)
  | "<=" => .relation (.compares .lte)
  | ">" => .relation (.compares .gt)
  | ">=" => .relation (.compares .gte)
  | s => .other s

def ofChar : Char → Token
  | '(' => .opening
  | ')' => .closing
  | ',' => .comma
  | '?' => .mark
  | c => .other (String.singleton c)

end Token

inductive Pending where
  | nothing
  | word (cs : List Char)
  | sign (cs : List Char)
  | quoted (cs : List Char)

namespace Pending

def tokens : Pending → List Token
  | nothing => []
  | word cs => [.ofWord (String.ofList cs)]
  | sign cs => [.ofSign (String.ofList cs)]
  | quoted cs => [.other (String.ofList cs)]

def start (c : Char) : List Token × Pending :=
  if isWordChar c then ([], word [c])
  else if isSignChar c then ([], sign [c])
  else if c = '\'' then ([], quoted [])
  else if c = ' ' then ([], nothing)
  else ([.ofChar c], nothing)

def push (c : Char) : Pending → List Token × Pending
  | nothing => start c
  | word cs =>
    if isWordChar c then ([], word (cs ++ [c])) else ((word cs).tokens ++ (start c).1, (start c).2)
  | sign cs =>
    if isSignChar c then ([], sign (cs ++ [c])) else ((sign cs).tokens ++ (start c).1, (start c).2)
  | quoted cs =>
    if c = '\'' then ([.quoted (String.ofList cs)], nothing) else ([], quoted (cs ++ [c]))

end Pending

def lexed : Pending → List Char → List Token
  | p, [] => p.tokens
  | p, c :: cs => (p.push c).1 ++ lexed (p.push c).2 cs

/-- What is still open to the left. -/
inductive Frame where
  | join (k : Connective) (p : Formula)
  | not
  | group
  | coalesce

namespace Frame

/-- A bracket is closed by nothing but its other half. -/
def strength : Frame → Nat
  | join k _ => k.strength
  | not => 3
  | group => 0
  | coalesce => 0

def close (q : Formula) : Frame → Formula
  | join k p => .join k p q
  | not => .not q
  | group => q
  | coalesce => q

end Frame

/-- Closes what binds at least as tight as `n`. -/
def reduce (n : Nat) : List Frame → Formula → List Frame × Formula
  | [], q => ([], q)
  | f :: fs, q => if n ≤ f.strength then reduce n fs (f.close q) else (f :: fs, q)

inductive Position where
  | operand
  | relation (t : Term)
  | term (t : Term) (r : Relation)
  | options (t : Term) (found : List String)
  | operator (q : Formula)

def fieldOf (path : String) : Option Field :=
  match path.toList with
  | '$' :: '.' :: cs => Field.ofName? (String.ofList cs)
  | _ => none

def read (column : String) : Position → List Frame → List Token → Option Formula
  | .operand, fs, .opening :: ts => read column .operand (.group :: fs) ts
  | .operand, fs, .not :: ts => read column .operand (.not :: fs) ts
  | .operand, fs, .coalesce :: .opening :: ts => read column .operand (.coalesce :: fs) ts
  | .operand, fs, .bit b :: ts => read column (.operator (.bit b)) fs ts
  | .operand, fs, .access a :: .opening :: .name c :: .comma :: .quoted path :: .closing :: ts =>
    match fieldOf path with
    | some f => if c = column then read column (.relation (.member a f)) fs ts else none
    | none => none
  | .relation t, fs, .is :: .null :: ts => read column (.operator (.isNull t)) fs ts
  | .relation t, fs, .is :: .not :: .null :: ts => read column (.operator (.isNotNull t)) fs ts
  | .relation t, fs, .among :: .opening :: .quoted s :: ts => read column (.options t [s]) fs ts
  | .relation t, fs, .relation r :: ts => read column (.term t r) fs ts
  | .term t r, fs, .mark :: ts =>
    read column (.operator (.related r t (.placeholder .plain))) fs ts
  | .term t r, fs, .json :: .opening :: .mark :: .closing :: ts =>
    read column (.operator (.related r t (.placeholder .json))) fs ts
  | .term t r, fs, .quoted s :: ts => read column (.operator (.related r t (.literal s))) fs ts
  | .options t found, fs, .comma :: .quoted s :: ts =>
    read column (.options t (found ++ [s])) fs ts
  | .options t found, fs, .closing :: ts => read column (.operator (.among t found)) fs ts
  | .operator q, fs, .connective k :: ts =>
    let (fs, q) := reduce k.strength fs q
    read column .operand (.join k q :: fs) ts
  | .operator q, fs, .closing :: ts =>
    match reduce 1 fs q with
    | (.group :: fs, q) => read column (.operator q) fs ts
    | _ => none
  -- A comma behind a formula stands only between the two arguments of `COALESCE`.
  | .operator q, fs, .comma :: .bit false :: .closing :: ts =>
    match reduce 1 fs q with
    | (.coalesce :: fs, q) => read column (.operator (.known q)) fs ts
    | _ => none
  | .operator q, fs, [] =>
    match reduce 1 fs q with
    | ([], q) => some q
    | _ => none
  | _, _, _ => none

def Formula.ofText? (column text : String) : Option Formula :=
  read column .operand [] (lexed .nothing text.toList)

example : Formula.ofText? "data" "0 OR 1 AND NOT 0 OR 1" =
    some (.join .or (.join .or (.bit false) (.join .and (.bit true) (.not (.bit false))))
      (.bit true)) := rfl

end DocumentGraph.Sql
