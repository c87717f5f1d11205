import DocumentGraph.Json.Basic
import DocumentGraph.Number.Layout
set_option autoImplicit false

namespace DocumentGraph

namespace Number

def chars : Number → List Char
  | .int i _ _ => Layout.intChars i
  | .float x _ => Layout.json.finiteChars x

end Number

namespace Json

def hexDigit (n : Nat) : Char := if n < 10 then Char.ofNat (48 + n) else Char.ofNat (87 + n)

def escape (c : Char) : List Char :=
  if c = '"' then ['\\', '"']
  else if c = '\\' then ['\\', '\\']
  else if 32 ≤ c.toNat then [c]
  else if c.toNat = 8 then ['\\', 'b']
  else if c.toNat = 9 then ['\\', 't']
  else if c.toNat = 10 then ['\\', 'n']
  else if c.toNat = 12 then ['\\', 'f']
  else if c.toNat = 13 then ['\\', 'r']
  else ['\\', 'u', '0', '0', hexDigit (c.toNat / 16), hexDigit (c.toNat % 16)]

def stringChars (s : String) : List Char := '"' :: (s.toList.flatMap escape ++ ['"'])

mutual

def chars : Json → List Char
  | .null => ['n', 'u', 'l', 'l']
  | .bool true => ['t', 'r', 'u', 'e']
  | .bool false => ['f', 'a', 'l', 's', 'e']
  | .number n => n.chars
  | .string s => stringChars s
  | .array [] => ['[', ']']
  | .array (j :: rest) => '[' :: (chars j ++ moreItemsChars rest)
  | .object [] => ['{', '}']
  | .object ((k, j) :: rest) => '{' :: (stringChars k ++ ':' :: (chars j ++ moreMembersChars rest))

def moreItemsChars : List Json → List Char
  | [] => [']']
  | j :: rest => ',' :: (chars j ++ moreItemsChars rest)

def moreMembersChars : List (String × Json) → List Char
  | [] => ['}']
  | (k, j) :: rest => ',' :: (stringChars k ++ ':' :: (chars j ++ moreMembersChars rest))

end

def compact (j : Json) : String := String.ofList j.chars

def newLine (indent : Nat) : List Char := '\n' :: List.replicate (2 * indent) ' '

mutual

def indentedChars (indent : Nat) : Json → List Char
  | .array (j :: rest) =>
    '[' :: (newLine (indent + 1) ++ indentedChars (indent + 1) j ++ indentedItems indent rest)
  | .object ((k, j) :: rest) =>
    '{' :: (newLine (indent + 1) ++ stringChars k ++ ':' :: ' ' ::
      (indentedChars (indent + 1) j ++ indentedMembers indent rest))
  | .array [] => ['[', ']']
  | .object [] => ['{', '}']
  | .null => chars .null
  | .bool b => chars (.bool b)
  | .number n => chars (.number n)
  | .string s => chars (.string s)

def indentedItems (indent : Nat) : List Json → List Char
  | [] => newLine indent ++ [']']
  | j :: rest =>
    ',' :: (newLine (indent + 1) ++ indentedChars (indent + 1) j ++ indentedItems indent rest)

def indentedMembers (indent : Nat) : List (String × Json) → List Char
  | [] => newLine indent ++ ['}']
  | (k, j) :: rest =>
    ',' :: (newLine (indent + 1) ++ stringChars k ++ ':' :: ' ' ::
      (indentedChars (indent + 1) j ++ indentedMembers indent rest))

end

def indented (j : Json) : String := String.ofList (indentedChars 0 j)

theorem toList_compact (j : Json) : j.compact.toList = j.chars := String.toList_ofList

end Json

end DocumentGraph
