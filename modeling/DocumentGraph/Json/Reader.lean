import DocumentGraph.Json.Printer
set_option autoImplicit false

/-!
# Reading JSON text

A reader takes characters from the front of a text. Where it stops it reports a fault: the cause
and how many bytes of the text lie behind the place. Line and column of a fault are counted in
bytes from the whole text, and a fault about a character not yet taken stands one byte further.
Containers may be nested up to a limit; the bracket that opens one more is a fault.

Reading is by recursion on the nesting limit; the loops over elements, members and string
characters carry the length of the text as their bound.
-/

namespace DocumentGraph

namespace Json

inductive ReadCause where
  | endOfValue
  | endOfList
  | endOfObject
  | endOfString
  | expectedColon
  | expectedListCommaOrEnd
  | expectedObjectCommaOrEnd
  | expectedWord
  | expectedValue
  | invalidEscape
  | invalidNumber
  | numberOutOfRange
  | controlCharacter
  | keyNotString
  | loneSurrogate
  | unfinishedSurrogate
  | trailingComma
  | trailingCharacters
  | tooDeep
deriving DecidableEq, Repr

def ReadCause.message : ReadCause → String
  | .endOfValue => "EOF while parsing a value"
  | .endOfList => "EOF while parsing a list"
  | .endOfObject => "EOF while parsing an object"
  | .endOfString => "EOF while parsing a string"
  | .expectedColon => "expected `:`"
  | .expectedListCommaOrEnd => "expected `,` or `]`"
  | .expectedObjectCommaOrEnd => "expected `,` or `\x7d`"
  | .expectedWord => "expected ident"
  | .expectedValue => "expected value"
  | .invalidEscape => "invalid escape"
  | .invalidNumber => "invalid number"
  | .numberOutOfRange => "number out of range"
  | .controlCharacter => "control character (\\u0000-\\u001F) found while parsing a string"
  | .keyNotString => "key must be a string"
  | .loneSurrogate => "lone leading surrogate in hex escape"
  | .unfinishedSurrogate => "unexpected end of hex escape"
  | .trailingComma => "trailing comma"
  | .trailingCharacters => "trailing characters"
  | .tooDeep => "recursion limit exceeded"

/-- Why and where reading stopped: `left` bytes of the text lie behind the place. -/
structure Fault where
  cause : ReadCause
  left : Nat
deriving DecidableEq, Repr

def byteCount : List Char → Nat
  | [] => 0
  | c :: cs => c.utf8Size + byteCount cs

def Fault.here (cause : ReadCause) (rest : List Char) : Fault := ⟨cause, byteCount rest⟩

def Fault.ahead (cause : ReadCause) (rest : List Char) : Fault := ⟨cause, byteCount rest - 1⟩

abbrev Reader (α : Type) := List Char → Except Fault (α × List Char)

def isBlank (c : Char) : Bool := c = ' ' || c = '\n' || c = '\t' || c = '\r'

def skipBlank (cs : List Char) : List Char := cs.dropWhile isBlank

def word : List Char → Reader Unit
  | [], cs => .ok ((), cs)
  | _ :: _, [] => .error (.here .endOfValue [])
  | w :: ws, c :: cs => if c = w then word ws cs else .error (.here .expectedWord cs)

def digitValue (c : Char) : Nat := c.toNat - 48

def digitsValue (ds : List Char) : Nat := Positional.value 10 (ds.map digitValue)

def someDigits : Reader (List Char)
  | [] => .error (.here .endOfValue [])
  | c :: cs =>
    if c.isDigit then .ok (c :: cs.takeWhile Char.isDigit, cs.dropWhile Char.isDigit)
    else .error (.ahead .invalidNumber (c :: cs))

/-- The whole part of a number: a single zero, or digits that start with another one. -/
def wholeDigits : Reader (List Char)
  | [] => .error (.here .endOfValue [])
  | c :: cs =>
    if c = '0' then
      match cs with
      | d :: _ => if d.isDigit then .error (.ahead .invalidNumber cs) else .ok ([c], cs)
      | [] => .ok ([c], cs)
    else if c.isDigit then .ok (c :: cs.takeWhile Char.isDigit, cs.dropWhile Char.isDigit)
    else .error (.here .invalidNumber cs)

def fractionDigits : Reader (List Char)
  | '.' :: cs => someDigits cs
  | cs => .ok ([], cs)

/-- The greatest exponent that is added up; a longer one is out of range or makes a zero. -/
def greatestExponent : Nat := 2147483647

/-- Adds up exponent digits. `none` marks an exponent beyond the greatest, with the text behind the
    digit that went beyond. -/
def exponentValue : Nat → List Char → Option Nat × List Char
  | v, [] => (some v, [])
  | v, c :: cs =>
    if c.isDigit then
      if greatestExponent < v * 10 + digitValue c then (none, cs)
      else exponentValue (v * 10 + digitValue c) cs
    else (some v, c :: cs)

def exponent (cs : List Char) : Except Fault ((Bool × Option Nat) × List Char) :=
  let (negative, cs) := match cs with
    | '+' :: r => (false, r)
    | '-' :: r => (true, r)
    | r => (false, r)
  match cs with
  | [] => .error (.here .endOfValue [])
  | c :: r =>
    if c.isDigit then
      let (v, r) := exponentValue 0 (c :: r)
      .ok ((negative, v), r)
    else .error (.here .invalidNumber r)

def floatNumber (x : Binary64) (rest : List Char) : Except Fault (Number × List Char) :=
  if h : x.isFinite = true then .ok (.float x h, rest)
  else .error (.here .numberOutOfRange rest)

def wholeNumber (negative : Bool) (n : Nat) (rest : List Char) :
    Except Fault (Number × List Char) :=
  if negative then
    if h : 0 < n ∧ n ≤ 9223372036854775808 then .ok (.int (-n) (by omega) (by omega), rest)
    else floatNumber ((⟨n, 0⟩ : Decimal).toBinary64 true) rest
  else
    if h : n < 18446744073709551616 then .ok (.int n (by omega) (by omega), rest)
    else floatNumber ((⟨n, 0⟩ : Decimal).toBinary64 false) rest

def numeral (negative : Bool) (cs : List Char) : Except Fault (Number × List Char) := do
  let (whole, cs) ← wholeDigits cs
  let hasPoint := cs.head? = some '.'
  let (fraction, cs) ← fractionDigits cs
  let n := digitsValue (whole ++ fraction)
  let places := Int.ofNat fraction.length
  match cs with
  | c :: r =>
    if c = 'e' ∨ c = 'E' then
      let ((small, e), r) ← exponent r
      match e with
      | some e =>
        let shift := if small then -Int.ofNat e else Int.ofNat e
        floatNumber ((⟨n, shift - places⟩ : Decimal).toBinary64 negative) r
      | none =>
        if n ≠ 0 ∧ small = false then .error (.here .numberOutOfRange r)
        else floatNumber (.signedZero negative) (r.dropWhile Char.isDigit)
    else if hasPoint then
      floatNumber ((⟨n, -places⟩ : Decimal).toBinary64 negative) (c :: r)
    else wholeNumber negative n (c :: r)
  | [] =>
    if hasPoint then floatNumber ((⟨n, -places⟩ : Decimal).toBinary64 negative) []
    else wholeNumber negative n []

def hexValue (c : Char) : Option Nat :=
  if c.isDigit then some (c.toNat - 48)
  else if 'a' ≤ c ∧ c ≤ 'f' then some (c.toNat - 87)
  else if 'A' ≤ c ∧ c ≤ 'F' then some (c.toNat - 55)
  else none

/-- Four hexadecimal digits. With fewer than four bytes left the text has ended. -/
def fourHex (cs : List Char) : Except Fault (Nat × List Char) :=
  let bad : Fault :=
    if byteCount cs < 4 then .here .endOfString [] else ⟨.invalidEscape, byteCount cs - 4⟩
  match cs with
  | a :: b :: c :: d :: r =>
    match hexValue a, hexValue b, hexValue c, hexValue d with
    | some a, some b, some c, some d => .ok (((a * 16 + b) * 16 + c) * 16 + d, r)
    | _, _, _, _ => .error bad
  | _ => .error bad

def isHighSurrogate (n : Nat) : Bool := 0xD800 ≤ n && n ≤ 0xDBFF

def isLowSurrogate (n : Nat) : Bool := 0xDC00 ≤ n && n ≤ 0xDFFF

def pairMark (mark : Char) : Reader Unit
  | [] => .error (.here .endOfString [])
  | c :: cs =>
    if c = mark then .ok ((), cs) else .error (.ahead .unfinishedSurrogate (c :: cs))

def unicodeEscape (cs : List Char) : Except Fault (Char × List Char) := do
  let (n, cs) ← fourHex cs
  if isLowSurrogate n then .error (.here .loneSurrogate cs)
  else if isHighSurrogate n then
    let ((), cs) ← pairMark '\\' cs
    let ((), cs) ← pairMark 'u' cs
    let (m, cs) ← fourHex cs
    if isLowSurrogate m then
      .ok (Char.ofNat ((n - 0xD800) * 0x400 + (m - 0xDC00) + 0x10000), cs)
    else .error (.here .loneSurrogate cs)
  else .ok (Char.ofNat n, cs)

def escaped : Reader Char
  | [] => .error (.here .endOfString [])
  | c :: cs =>
    if c = '"' ∨ c = '\\' ∨ c = '/' then .ok (c, cs)
    else if c = 'b' then .ok (Char.ofNat 8, cs)
    else if c = 'f' then .ok (Char.ofNat 12, cs)
    else if c = 'n' then .ok (Char.ofNat 10, cs)
    else if c = 'r' then .ok (Char.ofNat 13, cs)
    else if c = 't' then .ok (Char.ofNat 9, cs)
    else if c = 'u' then unicodeEscape cs
    else .error (.here .invalidEscape cs)

def stringBody : Nat → Reader (List Char)
  | _, [] => .error (.here .endOfString [])
  | 0, _ => .error (.here .endOfString [])
  | fuel + 1, c :: cs =>
    if c = '"' then .ok ([], cs)
    else if c = '\\' then do
      let (x, cs) ← escaped cs
      let (xs, cs) ← stringBody fuel cs
      .ok (x :: xs, cs)
    else if c.toNat < 32 then .error (.here .controlCharacter cs)
    else do
      let (xs, cs) ← stringBody fuel cs
      .ok (c :: xs, cs)

def stringRest (cs : List Char) : Except Fault (String × List Char) := do
  let (xs, cs) ← stringBody cs.length cs
  .ok (String.ofList xs, cs)

def moreItems (element : Reader Json) : Nat → Reader (List Json)
  | 0, _ => .error (.here .endOfList [])
  | fuel + 1, cs =>
    match skipBlank cs with
    | [] => .error (.here .endOfList [])
    | c :: cs =>
      if c = ']' then .ok ([], cs)
      else if c = ',' then
        match skipBlank cs with
        | [] => .error (.here .endOfValue [])
        | d :: ds =>
          if d = ']' then .error (.ahead .trailingComma (d :: ds))
          else do
            let (j, cs) ← element (d :: ds)
            let (js, cs) ← moreItems element fuel cs
            .ok (j :: js, cs)
      else .error (.ahead .expectedListCommaOrEnd (c :: cs))

def arrayRest (element : Reader Json) (cs : List Char) : Except Fault (Json × List Char) :=
  match skipBlank cs with
  | [] => .error (.here .endOfList [])
  | c :: cs =>
    if c = ']' then .ok (.array [], cs)
    else do
      let (j, cs) ← element (c :: cs)
      let (js, cs) ← moreItems element cs.length cs
      .ok (.array (j :: js), cs)

def member (element : Reader Json) (cs : List Char) :
    Except Fault ((String × Json) × List Char) := do
  let (key, cs) ← stringRest cs
  match skipBlank cs with
  | [] => .error (.here .endOfObject [])
  | c :: cs =>
    if c = ':' then
      let (j, cs) ← element cs
      .ok ((key, j), cs)
    else .error (.ahead .expectedColon (c :: cs))

def moreMembers (element : Reader Json) : Nat → Reader (List (String × Json))
  | 0, _ => .error (.here .endOfObject [])
  | fuel + 1, cs =>
    match skipBlank cs with
    | [] => .error (.here .endOfObject [])
    | c :: cs =>
      if c = '}' then .ok ([], cs)
      else if c = ',' then
        match skipBlank cs with
        | [] => .error (.here .endOfValue [])
        | d :: ds =>
          if d = '"' then do
            let (m, cs) ← member element ds
            let (ms, cs) ← moreMembers element fuel cs
            .ok (m :: ms, cs)
          else if d = '}' then .error (.ahead .trailingComma (d :: ds))
          else .error (.ahead .keyNotString (d :: ds))
      else .error (.ahead .expectedObjectCommaOrEnd (c :: cs))

def objectRest (element : Reader Json) (cs : List Char) : Except Fault (Json × List Char) :=
  match skipBlank cs with
  | [] => .error (.here .endOfObject [])
  | c :: cs =>
    if c = '}' then .ok (.object [], cs)
    else if c = '"' then do
      let (m, cs) ← member element cs
      let (ms, cs) ← moreMembers element cs.length cs
      .ok (ofMembers (m :: ms), cs)
    else .error (.ahead .keyNotString (c :: cs))

def scalar (c : Char) (cs : List Char) : Except Fault (Json × List Char) :=
  if c = 'n' then (word ['u', 'l', 'l'] cs).map fun r => (.null, r.2)
  else if c = 't' then (word ['r', 'u', 'e'] cs).map fun r => (.bool true, r.2)
  else if c = 'f' then (word ['a', 'l', 's', 'e'] cs).map fun r => (.bool false, r.2)
  else if c = '"' then (stringRest cs).map fun r => (.string r.1, r.2)
  else if c = '-' then (numeral true cs).map fun r => (.number r.1, r.2)
  else if c.isDigit then (numeral false (c :: cs)).map fun r => (.number r.1, r.2)
  else .error (.ahead .expectedValue (c :: cs))

/-- A value, blanks in front of it included, with at most `limit` containers around anything. -/
def value : Nat → Reader Json
  | 0, cs =>
    match skipBlank cs with
    | [] => .error (.here .endOfValue [])
    | c :: cs =>
      if c = '[' ∨ c = '{' then .error (.ahead .tooDeep (c :: cs)) else scalar c cs
  | limit + 1, cs =>
    match skipBlank cs with
    | [] => .error (.here .endOfValue [])
    | c :: cs =>
      if c = '[' then arrayRest (value limit) cs
      else if c = '{' then objectRest (value limit) cs
      else scalar c cs

structure ReadError where
  cause : ReadCause
  line : Nat
  column : Nat
deriving DecidableEq, Repr

def ReadError.message (e : ReadError) : String :=
  e.cause.message ++ " at line " ++ toString e.line ++ " column " ++ toString e.column

/-- Lines are separated by line feeds; the column counts the bytes of the last line up to the
    place. -/
def Fault.locate (text : String) (f : Fault) : ReadError :=
  let before := text.toUTF8.toList.take (text.utf8ByteSize - f.left)
  ⟨f.cause, before.count 10 + 1, (before.reverse.takeWhile (· ≠ 10)).length⟩

def readChars (limit : Nat) (cs : List Char) : Except Fault Json := do
  let (j, cs) ← value limit cs
  match skipBlank cs with
  | [] => .ok j
  | c :: cs => .error (.ahead .trailingCharacters (c :: cs))

def read (limit : Nat) (text : String) : Except ReadError Json :=
  match readChars limit text.toList with
  | .ok j => .ok j
  | .error f => .error (f.locate text)

end Json

end DocumentGraph
