import DocumentGraph.Pattern.Basic
import DocumentGraph.Unicode.Age
import DocumentGraph.Unicode.Break
import DocumentGraph.Unicode.CaseOrbit
import DocumentGraph.Unicode.Script
set_option autoImplicit false

/-!
# The notation of search patterns

Patterns are written in the usual notation: literals, `.`, `^`, `$`, bracketed classes with ranges,
nested classes and set operators, escapes, Unicode properties, groups with flags and names, choice
and repetition. There is no look-around and no back reference. A text that breaks a rule of the
notation, nests more than 250 levels or makes too large an automaton is no pattern.

Flags hold from where they are set to the end of their group, alternatives included. In verbose
text blanks and comments between the parts are skipped.
-/

namespace DocumentGraph.Pattern

structure Flags where
  ignoreCase : Bool
  multiLine : Bool
  dotAll : Bool
  unicode : Bool
  carriageReturns : Bool
  verbose : Bool
deriving DecidableEq

def Flags.initial : Flags := ⟨false, false, false, true, false, false⟩

def skipFiller : Nat → List Char → List Char
  | 0, cs => cs
  | _, [] => []
  | fuel + 1, c :: cs =>
    if Unicode.whiteSpace.contains c then skipFiller fuel cs
    else if c = '#' then skipFiller fuel ((cs.dropWhile (· ≠ '\n')).drop 1)
    else c :: cs

def skip (flags : Flags) (cs : List Char) : List Char :=
  if flags.verbose then skipFiller cs.length cs else cs

def foldAscii (s : CharSet) : CharSet :=
  let upper := s.inter (.range 65 90)
  let lower := s.inter (.range 97 122)
  s.union (CharSet.union ⟨upper.bounds.map (· + 32)⟩ ⟨lower.bounds.map (· - 32)⟩)

def applyCase (flags : Flags) (s : CharSet) : CharSet :=
  if flags.ignoreCase then if flags.unicode then Unicode.foldClosure s else foldAscii s else s

/-- The complement if asked for; without Unicode every set has to stay within ASCII. -/
def applyNegation (flags : Flags) (negated : Bool) (s : CharSet) : Option CharSet :=
  let t := if negated then s.compl else s
  if flags.unicode || t.isAscii then some t else none

def literalSet (flags : Flags) (c : Char) : CharSet :=
  if flags.ignoreCase then
    if flags.unicode then
      CharSet.unionAll (.single c :: (Unicode.caseOrbit c.toNat).map fun n => .range n n)
    else foldAscii (.single c)
  else .single c

def dotSet (flags : Flags) : CharSet :=
  if flags.dotAll then .all
  else if flags.carriageReturns then CharSet.compl ⟨[10, 11, 13, 14]⟩
  else CharSet.compl ⟨[10, 11]⟩

def shorthandSet? (flags : Flags) (c : Char) : Option CharSet :=
  let class? (letter : Char) (wide narrow : CharSet) : Option (Option CharSet) :=
    if c = letter then some (some (if flags.unicode then wide else narrow))
    else if c = letter.toUpper then
      some (if flags.unicode then some wide.compl else none)
    else none
  ((class? 'd' unicodeDigit asciiDigit).orElse fun _ =>
    (class? 's' Unicode.whiteSpace asciiSpace).orElse fun _ =>
      class? 'w' unicodeWord asciiWord).join

def namedAscii (name : List Char) : Option CharSet :=
  let table : List (String × List Nat) := [
    ("alnum", [48, 58, 65, 91, 97, 123]), ("alpha", [65, 91, 97, 123]), ("ascii", [0, 128]),
    ("blank", [9, 10, 32, 33]), ("cntrl", [0, 32, 127, 128]), ("digit", [48, 58]),
    ("graph", [33, 127]), ("lower", [97, 123]), ("print", [32, 127]),
    ("punct", [33, 48, 58, 65, 91, 97, 123, 127]), ("space", [9, 14, 32, 33]),
    ("upper", [65, 91]), ("word", [48, 58, 65, 91, 95, 96, 97, 123]),
    ("xdigit", [48, 58, 65, 71, 97, 103])]
  (table.find? fun e => e.1.toList = name).map fun e => ⟨e.2⟩

/-- Names are compared without case, blanks, hyphens, underscores and a leading `is`. -/
def looseName (name : List Char) : String :=
  let (hasIs, body) := match name with
    | a :: b :: rest =>
      if a.toLower = 'i' ∧ b.toLower = 's' then (true, rest) else (false, name)
    | _ => (false, name)
  let kept := (body.filter fun c => c.toNat < 128 && c ≠ ' ' && c ≠ '_' && c ≠ '-').map Char.toLower
  if hasIs ∧ kept = ['c'] then "isc" else String.ofList kept

def namedCategory (name : String) : Option CharSet :=
  if name = "any" then some .all
  else if name = "ascii" then some (.range 0 127)
  else if name = "assigned" then (Unicode.category? "cn").map CharSet.compl
  else Unicode.category? name

def namedProperty (name : String) : Option CharSet :=
  let property := if name = "cf" ∨ name = "sc" ∨ name = "lc" then none else Unicode.property? name
  property.orElse fun _ => (namedCategory name).orElse fun _ => Unicode.script? name

def valuedProperty (name value : String) : Option CharSet :=
  if name = "gc" ∨ name = "generalcategory" then namedCategory value
  else if name = "sc" ∨ name = "script" then Unicode.script? value
  else if name = "scx" ∨ name = "scriptextensions" then Unicode.scriptExtension? value
  else if name = "age" then Unicode.age? value
  else if name = "gcb" ∨ name = "graphemeclusterbreak" then Unicode.graphemeBreak? value
  else if name = "wb" ∨ name = "wordbreak" then Unicode.wordBreak? value
  else if name = "sb" ∨ name = "sentencebreak" then Unicode.sentenceBreak? value
  else none

def splitAt (mark : List Char) : List Char → Option (List Char × List Char)
  | [] => none
  | c :: cs =>
    if mark.isPrefixOf (c :: cs) then some ([], (c :: cs).drop mark.length)
    else (splitAt mark cs).map fun r => (c :: r.1, r.2)

/-- The set that stands between the braces of a property: a name, or a property and its value. Every
    mark between the two selects the value. -/
def bracedProperty (body : List Char) : Option CharSet :=
  let pair := (splitAt ['!', '='] body).orElse fun _ =>
    (splitAt [':'] body).orElse fun _ => splitAt ['='] body
  match pair with
  | some (n, v) => valuedProperty (looseName n) (looseName v)
  | none => namedProperty (looseName body)

/-- A part of the notation that stands for one character, a set or an assertion. A literal knows
    whether it was written as a byte of two hexadecimal digits. -/
inductive Part where
  | literal (c : Char) (byte : Bool)
  | set (s : CharSet)
  | assertion (a : Assertion)

def hexValue? (c : Char) : Option Nat :=
  if c.isDigit then some (c.toNat - 48)
  else if 'a' ≤ c ∧ c ≤ 'f' then some (c.toNat - 87)
  else if 'A' ≤ c ∧ c ≤ 'F' then some (c.toNat - 55)
  else none

def codePoint? (n : Nat) : Option Char :=
  if n < 0xD800 ∨ (0xE000 ≤ n ∧ n < 0x110000) then some (Char.ofNat n) else none

def fixedHex (flags : Flags) : Nat → Nat → List Char → Option (Nat × List Char)
  | 0, v, cs => some (v, cs)
  | _ + 1, _, [] => none
  | n + 1, v, c :: cs => (hexValue? c).bind fun d => fixedHex flags n (v * 16 + d) (skip flags cs)

def bracedHex (flags : Flags) (fuel : Nat) (v : Option Nat) (cs : List Char) :
    Option (Nat × List Char) :=
  match fuel, cs with
  | 0, _ => none
  | _, [] => none
  | fuel + 1, c :: cs =>
    if c = '}' then v.map fun v => (v, skip flags cs)
    else (hexValue? c).bind fun d => bracedHex flags fuel (some (v.getD 0 * 16 + d)) (skip flags cs)

def hexEscape (flags : Flags) (kind : Char) (cs : List Char) : Option (Part × List Char) :=
  match skip flags cs with
  | [] => none
  | c :: cs =>
    if c = '{' then
      (bracedHex flags (cs.length + 1) none (skip flags cs)).bind fun (v, cs) =>
        (codePoint? v).map fun c => (.literal c false, cs)
    else
      let digits := if kind = 'x' then 2 else if kind = 'u' then 4 else 8
      (fixedHex flags digits 0 (c :: cs)).bind fun (v, cs) =>
        (codePoint? v).map fun c => (.literal c (kind = 'x'), cs)

def bracedName (flags : Flags) : Nat → List Char → Option (List Char × List Char)
  | 0, _ => none
  | _, [] => none
  | fuel + 1, c :: cs =>
    if c = '}' then some ([], cs)
    else (bracedName flags fuel (skip flags cs)).map fun r => (c :: r.1, r.2)

def propertyEscape (flags : Flags) (negated : Bool) (cs : List Char) :
    Option (Part × List Char) :=
  let finish (s : CharSet) (cs : List Char) : Option (Part × List Char) :=
    if flags.unicode then
      let folded := applyCase flags s
      some (.set (if negated then folded.compl else folded), cs)
    else none
  match skip flags cs with
  | [] => none
  | c :: cs =>
    if c = '{' then
      (bracedName flags (cs.length + 1) (skip flags cs)).bind fun (name, cs) =>
        (bracedProperty name).bind fun s => finish s cs
    else if c = '\\' then none
    else (namedProperty (looseName [c])).bind fun s => finish s (skip flags cs)

def isEdgeNameChar (c : Char) : Bool := c.isAlpha || c = '-'

def edgeName (flags : Flags) : Nat → List Char → List Char × List Char
  | 0, cs => ([], cs)
  | _, [] => ([], [])
  | fuel + 1, c :: cs =>
    if isEdgeNameChar c then
      let r := edgeName flags fuel (skip flags cs)
      (c :: r.1, r.2)
    else ([], c :: cs)

/-- A word edge behind its letter. Braces that hold no name belong to a repetition. -/
def wordEdge (flags : Flags) (cs : List Char) : Option (WordEdge × List Char) :=
  match cs with
  | '{' :: inner =>
    match skip flags inner with
    | [] => none
    | c :: rest =>
      if isEdgeNameChar c then
        let (name, rest) := edgeName flags rest.length.succ (c :: rest)
        match rest with
        | '}' :: rest =>
          if name = "start".toList then some (.start, rest)
          else if name = "end".toList then some (.stop, rest)
          else if name = "start-half".toList then some (.halfStart, rest)
          else if name = "end-half".toList then some (.halfStop, rest)
          else none
        | _ => none
      else some (.boundary, cs)
  | _ => some (.boundary, cs)

/-- An ASCII character that may be escaped without need: all but letters, digits and angles. -/
def isEscapable (c : Char) : Bool :=
  c.toNat < 128 && !c.isAlphanum && c ≠ '<' && c ≠ '>'

def escaped (flags : Flags) : List Char → Option (Part × List Char)
  | [] => none
  | c :: cs =>
    if c.isDigit then none
    else if c = 'x' ∨ c = 'u' ∨ c = 'U' then hexEscape flags c cs
    else if c = 'p' then propertyEscape flags false cs
    else if c = 'P' then propertyEscape flags true cs
    else if c = 'd' ∨ c = 's' ∨ c = 'w' ∨ c = 'D' ∨ c = 'S' ∨ c = 'W' then
      (shorthandSet? flags c).map fun s => (.set s, cs)
    else if isEscapable c then some (.literal c false, cs)
    else if c = 'a' then some (.literal (Char.ofNat 7) false, cs)
    else if c = 'f' then some (.literal (Char.ofNat 12) false, cs)
    else if c = 't' then some (.literal (Char.ofNat 9) false, cs)
    else if c = 'n' then some (.literal (Char.ofNat 10) false, cs)
    else if c = 'r' then some (.literal (Char.ofNat 13) false, cs)
    else if c = 'v' then some (.literal (Char.ofNat 11) false, cs)
    else if c = 'A' then some (.assertion .textStart, cs)
    else if c = 'z' then some (.assertion .textEnd, cs)
    else if c = 'B' then some (.assertion (.word .inside flags.unicode), cs)
    else if c = '<' then some (.assertion (.word .start flags.unicode), cs)
    else if c = '>' then some (.assertion (.word .stop flags.unicode), cs)
    else if c = 'b' then
      (wordEdge flags cs).map fun (edge, cs) => (.assertion (.word edge flags.unicode), cs)
    else none

inductive SetOperator where
  | inter
  | diff
  | symmDiff

def SetOperator.apply : SetOperator → CharSet → CharSet → CharSet
  | .inter, s, t => s.inter t
  | .diff, s, t => s.diff t
  | .symmDiff, s, t => s.symmDiff t

def closeOperand (flags : Flags) (left : Option (SetOperator × CharSet)) (right : CharSet) :
    CharSet :=
  match left with
  | none => right
  | some (op, s) => op.apply (applyCase flags s) (applyCase flags right)

def classLiteral (flags : Flags) (c : Char) : Option Char :=
  if flags.unicode || c.toNat < 128 then some c else none

def classPart (flags : Flags) : List Char → Option (Part × List Char)
  | [] => none
  | '\\' :: cs => escaped flags cs
  | c :: cs => some (.literal c false, cs)

def Part.classSet (flags : Flags) : Part → Option CharSet
  | .literal c _ => (classLiteral flags c).map CharSet.single
  | .set s => some s
  | .assertion _ => none

def Part.classChar (flags : Flags) : Part → Option Char
  | .literal c _ => classLiteral flags c
  | _ => none

def classItem (flags : Flags) (cs : List Char) : Option (CharSet × List Char) :=
  (classPart flags cs).bind fun (first, cs) =>
    match skip flags cs with
    | [] => none
    | c :: cs =>
      let next := (skip flags cs).head?
      if c ≠ '-' ∨ next = some ']' ∨ next = some '-' then
        (first.classSet flags).map fun s => (s, c :: cs)
      else
        (classPart flags (skip flags cs)).bind fun (last, cs) =>
          (first.classChar flags).bind fun a => (last.classChar flags).bind fun b =>
            if a ≤ b then some (.range a.toNat b.toNat, cs) else none

def asciiClass (flags : Flags) (cs : List Char) : Option (Option CharSet × List Char) :=
  match cs with
  | ':' :: cs =>
    let (negated, cs) := match cs with
      | '^' :: r => (true, r)
      | r => (false, r)
    let name := cs.takeWhile (· ≠ ':')
    match cs.dropWhile (· ≠ ':') with
    | ':' :: ']' :: rest =>
      (namedAscii name).map fun s => (applyNegation flags negated (applyCase flags s), rest)
    | _ => none
  | _ => none

/-- The hyphens and the bracket that are literal because they come first in a class. -/
def leadingLiterals (flags : Flags) : Nat → Bool → List Char → CharSet × List Char
  | 0, _, cs => (.empty, cs)
  | _, _, [] => (.empty, [])
  | fuel + 1, first, c :: cs =>
    if c = '-' then
      let r := leadingLiterals flags fuel false (skip flags cs)
      (r.1.union (.single '-'), r.2)
    else if first ∧ c = ']' then (.single ']', skip flags cs)
    else (.empty, c :: cs)

structure NestedSet where
  set : CharSet
  nest : Nat

def classRest (flags : Flags) (negated : Bool) :
    Nat → Option (SetOperator × CharSet) → NestedSet → List Char → Option (NestedSet × List Char)
  | 0, _, _, _ => none
  | fuel + 1, left, acc, cs =>
    match skip flags cs with
    | [] => none
    | c :: cs =>
      let next := cs.head?
      let operator (op : SetOperator) : Option (NestedSet × List Char) :=
        classRest flags negated fuel (some (op, closeOperand flags left acc.set))
          ⟨.empty, acc.nest + 1⟩ (cs.drop 1)
      if c = '[' then
        match asciiClass flags cs with
        | some (s, cs) =>
          s.bind fun s => classRest flags negated fuel left { acc with set := acc.set.union s } cs
        | none =>
          let cs := skip flags cs
          let (inner, cs) := match cs with
            | '^' :: r => (true, skip flags r)
            | r => (false, r)
          let (lead, cs) := leadingLiterals flags cs.length true cs
          (classRest flags inner fuel none ⟨lead, 0⟩ cs).bind fun (s, cs) =>
            classRest flags negated fuel left ⟨acc.set.union s.set, max acc.nest s.nest⟩ cs
      else if c = ']' then
        let s := applyCase flags (closeOperand flags left acc.set)
        (applyNegation flags negated s).map fun s => (⟨s, acc.nest + 1⟩, cs)
      else if c = '&' ∧ next = some '&' then operator .inter
      else if c = '-' ∧ next = some '-' then operator .diff
      else if c = '~' ∧ next = some '~' then operator .symmDiff
      else
        (classItem flags (c :: cs)).bind fun (s, cs) =>
          classRest flags negated fuel left { acc with set := acc.set.union s } cs

def bracketed (flags : Flags) (cs : List Char) : Option (NestedSet × List Char) :=
  let cs := skip flags cs
  let (negated, cs) := match cs with
    | '^' :: r => (true, skip flags r)
    | r => (false, r)
  let (lead, cs) := leadingLiterals flags cs.length true cs
  classRest flags negated (cs.length + 1) none ⟨lead, 0⟩ cs

structure Nested where
  pattern : Pattern
  nest : Nat

def nestLimit : Nat := 250

/-- Several parts in a row. Flags stand among them without a pattern. -/
def concatenate (parts : List (Option Nested)) : Nested :=
  match parts with
  | [] => ⟨.empty, 0⟩
  | [p] => p.getD ⟨.empty, 0⟩
  | parts =>
    let real := parts.filterMap id
    ⟨real.foldr (fun p q => .seq p.pattern q) .empty, (real.map (·.nest)).foldl max 0 + 1⟩

def alternatives (branches : List Nested) : Nested :=
  match branches with
  | [] => ⟨.empty, 0⟩
  | [p] => p
  | p :: rest =>
    ⟨rest.foldl (fun acc q => .either acc q.pattern) p.pattern,
      (branches.map (·.nest)).foldl max 0 + 1⟩

def decimalCount (flags : Flags) (cs : List Char) : Option (Option Nat × List Char) :=
  let rec digits : Nat → List Char → List Nat × List Char
    | 0, cs => ([], cs)
    | _, [] => ([], [])
    | fuel + 1, c :: cs =>
      if c.isDigit then
        let r := digits fuel (skip flags cs)
        ((c.toNat - 48) :: r.1, r.2)
      else ([], c :: cs)
  let cs := cs.dropWhile Unicode.whiteSpace.contains
  let (ds, rest) := digits cs.length cs
  let rest := skip flags (rest.dropWhile Unicode.whiteSpace.contains)
  if ds.isEmpty then some (none, rest)
  else
    let n := ds.foldl (fun v d => v * 10 + d) 0
    if n < 4294967296 then some (some n, rest) else none

def counts (flags : Flags) (cs : List Char) : Option ((Nat × Option Nat) × List Char) :=
  let finish (least : Nat) (most : Option Nat) (cs : List Char) :
      Option ((Nat × Option Nat) × List Char) :=
    match cs with
    | '}' :: cs =>
      match skip flags cs with
      | '?' :: cs => some ((least, most), cs)
      | cs => some ((least, most), cs)
    | _ => none
  match skip flags cs with
  | [] => none
  | cs =>
    (decimalCount flags cs).bind fun (least, cs) =>
      least.bind fun least =>
        match cs with
        | ',' :: cs =>
          match skip flags cs with
          | '}' :: cs => finish least none ('}' :: cs)
          | cs =>
            (decimalCount flags cs).bind fun (most, cs) =>
              most.bind fun most => if least ≤ most then finish least (some most) cs else none
        | cs => finish least (some least) cs

structure FlagItem where
  letter : Char
  on : Bool

/-- The flags between a question mark and a colon or closing parenthesis. No flag may stand
    twice, nor may the minus sign, which may not come last either. -/
def flagItems : List Char → List FlagItem → Bool → Bool → List Char →
    Option (List FlagItem × List Char)
  | _, _, _, _, [] => none
  | seen, acc, negated, dangling, c :: cs =>
    if c = ':' ∨ c = ')' then if dangling then none else some (acc.reverse, c :: cs)
    else if c = '-' then if negated then none else flagItems seen acc true true cs
    else if seen.contains c then none
    else if ['i', 'm', 's', 'U', 'u', 'R', 'x'].contains c then
      flagItems (c :: seen) (⟨c, !negated⟩ :: acc) negated false cs
    else none

def Flags.set (flags : Flags) (item : FlagItem) : Flags :=
  if item.letter = 'i' then { flags with ignoreCase := item.on }
  else if item.letter = 'm' then { flags with multiLine := item.on }
  else if item.letter = 's' then { flags with dotAll := item.on }
  else if item.letter = 'u' then { flags with unicode := item.on }
  else if item.letter = 'R' then { flags with carriageReturns := item.on }
  else if item.letter = 'x' then { flags with verbose := item.on }
  else flags

def numeric : CharSet := CharSet.unionAll (["nd", "nl", "no"].filterMap Unicode.category?)

def isNameChar (first : Bool) (c : Char) : Bool :=
  c = '_' || Unicode.alphabetic.contains c ||
    (!first && (c = '.' || c = '[' || c = ']' || numeric.contains c))

def groupName (cs : List Char) : Option (List Char × List Char) :=
  let name := cs.takeWhile (· ≠ '>')
  match name, cs.dropWhile (· ≠ '>') with
  | c :: rest, '>' :: cs =>
    if isNameChar true c && rest.all (isNameChar false) then some (name, cs) else none
  | _, _ => none

/-- What a parenthesis opens: flags for the rest of the group around it, or a group of its own. -/
inductive Opening where
  | flags (flags : Flags)
  | group (flags : Flags) (name : Option (List Char))

def opening (flags : Flags) (cs : List Char) : Option (Opening × List Char) :=
  match skip flags cs with
  | '?' :: '=' :: _ => none
  | '?' :: '!' :: _ => none
  | '?' :: '<' :: '=' :: _ => none
  | '?' :: '<' :: '!' :: _ => none
  | '?' :: 'P' :: '<' :: cs => (groupName cs).map fun (n, cs) => (.group flags (some n), cs)
  | '?' :: '<' :: cs => (groupName cs).map fun (n, cs) => (.group flags (some n), cs)
  | '?' :: cs =>
    (flagItems [] [] false false cs).bind fun (items, cs) =>
      let changed := items.foldl Flags.set flags
      match cs with
      | ')' :: cs => if items.isEmpty then none else some (.flags changed, cs)
      | ':' :: cs => some (.group changed none, cs)
      | _ => none
  | cs => some (.group flags none, cs)

def Part.pattern (flags : Flags) : Part → Option Pattern
  | .literal c byte =>
    if !flags.unicode && byte && 128 ≤ c.toNat then none
    else some (.chars (literalSet flags c))
  | .set s => some (.chars s)
  | .assertion a => some (.assert a)

def plain (flags : Flags) (c : Char) : Option Pattern :=
  if c = '.' then if flags.unicode then some (.chars (dotSet flags)) else none
  else if c = '^' then
    some (.assert (if flags.multiLine then .lineStart flags.carriageReturns else .textStart))
  else if c = '$' then
    some (.assert (if flags.multiLine then .lineEnd flags.carriageReturns else .textEnd))
  else some (.chars (literalSet flags c))

/-- What has been read of a group: finished branches and the parts of the open one, latest first,
    the flags in force and the names of all groups so far. -/
structure Reading where
  flags : Flags
  names : List (List Char)
  branches : List Nested
  parts : List (Option Nested)

def Reading.start (flags : Flags) (names : List (List Char)) : Reading := ⟨flags, names, [], []⟩

def Reading.push (r : Reading) (p : Pattern) (nest : Nat) : Reading :=
  { r with parts := some ⟨p, nest⟩ :: r.parts }

def Reading.result (r : Reading) : Nested :=
  alternatives ((concatenate r.parts.reverse :: r.branches).reverse)

def Reading.repeatLast (r : Reading) (least : Nat) (most : Option Nat) : Option Reading :=
  match r.parts with
  | some p :: rest =>
    some { r with parts := some ⟨.repeated p.pattern least most, p.nest + 1⟩ :: rest }
  | _ => none

/-- Reads a group up to its closing parenthesis, which stays, or to the end of the text. -/
def groupBody : Nat → Reading → List Char → Option (Reading × List Char)
  | 0, _, _ => none
  | fuel + 1, r, cs =>
    match skip r.flags cs with
    | [] => some (r, [])
    | c :: cs =>
      let repetition (least : Nat) (most : Option Nat) : Option (Reading × List Char) :=
        (r.repeatLast least most).bind fun r =>
          match cs with
          | '?' :: cs => groupBody fuel r cs
          | cs => groupBody fuel r cs
      if c = ')' then some (r, c :: cs)
      else if c = '|' then
        groupBody fuel
          { r with branches := concatenate r.parts.reverse :: r.branches, parts := [] } cs
      else if c = '(' then
        (opening r.flags cs).bind fun
          | (.flags flags, cs) => groupBody fuel { r with flags := flags, parts := none :: r.parts } cs
          | (.group flags name, cs) =>
            if name.any r.names.contains then none
            else
              (groupBody fuel (.start flags (name.toList ++ r.names)) cs).bind fun (inner, cs) =>
                match cs with
                | ')' :: cs =>
                  let p := inner.result
                  groupBody fuel ({ r with names := inner.names }.push p.pattern (p.nest + 1)) cs
                | _ => none
      else if c = '[' then
        (bracketed r.flags cs).bind fun (s, cs) => groupBody fuel (r.push (.chars s.set) s.nest) cs
      else if c = '?' then repetition 0 (some 1)
      else if c = '*' then repetition 0 none
      else if c = '+' then repetition 1 none
      else if c = '{' then
        (counts r.flags cs).bind fun ((least, most), cs) =>
          (r.repeatLast least most).bind fun r => groupBody fuel r cs
      else if c = '\\' then
        (escaped r.flags cs).bind fun (part, cs) =>
          (part.pattern r.flags).bind fun p => groupBody fuel (r.push p 0) cs
      else (plain r.flags c).bind fun p => groupBody fuel (r.push p 0) cs

/-- The pattern that a text denotes, if it keeps to the notation and its limits. -/
def ofText (text : String) : Option Pattern :=
  let cs := text.toList
  match groupBody (cs.length + 1) (.start .initial []) cs with
  | some (r, []) =>
    let p := r.result
    if p.nest ≤ nestLimit ∧ p.pattern.weight ≤ greatestWeight then some p.pattern else none
  | _ => none

/-- Whether the text contains a match of the pattern text; a text that is no pattern matches
    nothing. -/
def matchesText (pattern text : String) : Bool :=
  match ofText pattern with
  | some p => p.isMatch text
  | none => false

end DocumentGraph.Pattern
