import DocumentGraph.Unicode.Property
import DocumentGraph.Number.Positional
set_option autoImplicit false

/-!
# Quoted text

Names and ids stand in messages between double quotes. Quotes, backslashes, tabs, line feeds,
carriage returns and the zero character are written with a backslash, other characters that cannot
be seen by themselves as their code point in hexadecimal. ASCII characters from the blank to the
tilde are never looked up in a table.
-/

namespace DocumentGraph.Quoted

/-- Controls, formats, private and unassigned code points, and blanks other than the space. -/
def invisible : CharSet :=
  CharSet.unionAll (["cc", "cf", "cn", "co", "zl", "zp", "zs"].filterMap Unicode.category?)

def isPlain (c : Char) : Bool :=
  (32 ≤ c.toNat && c.toNat < 127) ||
    (127 ≤ c.toNat && !Unicode.graphemeExtend.contains c && !invisible.contains c)

def hexDigitChar (n : Nat) : Char := if n < 10 then Char.ofNat (48 + n) else Char.ofNat (87 + n)

def hexChars (n : Nat) : List Char :=
  if n = 0 then ['0'] else (Positional.digits 16 n).map hexDigitChar

def escape (c : Char) : List Char :=
  if c = '"' then ['\\', '"']
  else if c = '\\' then ['\\', '\\']
  else if c.toNat = 0 then ['\\', '0']
  else if c.toNat = 9 then ['\\', 't']
  else if c.toNat = 10 then ['\\', 'n']
  else if c.toNat = 13 then ['\\', 'r']
  else if isPlain c then [c]
  else '\\' :: 'u' :: '{' :: (hexChars c.toNat ++ ['}'])

def encode (cs : List Char) : List Char := '"' :: (cs.flatMap escape ++ ['"'])

end DocumentGraph.Quoted

namespace DocumentGraph

def quoted (s : String) : String := String.ofList (Quoted.encode s.toList)

end DocumentGraph
