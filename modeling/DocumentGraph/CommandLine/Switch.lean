set_option autoImplicit false

namespace DocumentGraph.CommandLine

inductive SwitchKind where
  | flag
  | value (accepts : String → Bool)
  | help
  | version

structure Switch where
  name : String
  letter : Option Char
  kind : SwitchKind

inductive Stop where
  | usage
  | help
  | version
deriving DecidableEq, Repr

structure Scanned where
  set : List (String × String)
  operands : List String
  waiting : Option Switch

namespace Scanned

def empty : Scanned := ⟨[], [], none⟩

def isSet (s : Scanned) (name : String) : Bool := s.set.any fun x => x.1 = name

def value? (s : Scanned) (name : String) : Option String := s.set.lookup name

def give (name value : String) (s : Scanned) : Except Stop Scanned :=
  if s.isSet name then .error .usage
  else .ok { s with set := s.set ++ [(name, value)], waiting := none }

def giveValue (w : Switch) (value : String) (s : Scanned) : Except Stop Scanned :=
  match w.kind with
  | .value accepts => if accepts value then s.give w.name value else .error .usage
  | _ => .error .usage

def setSwitch (w : Switch) (s : Scanned) : Except Stop Scanned :=
  match w.kind with
  | .flag => s.give w.name ""
  | .value _ => .ok { s with waiting := some w }
  | .help => .error .help
  | .version => .error .version

end Scanned

def isHyphened (word : String) : Bool := word.toList.head? = some '-' && word ≠ "-"

def scanLong (switches : List Switch) (cs : List Char) (s : Scanned) : Except Stop Scanned :=
  let name := String.ofList (cs.takeWhile (· ≠ '='))
  match switches.find? fun w => w.name = name with
  | none => .error .usage
  | some w =>
    match cs.dropWhile (· ≠ '=') with
    | [] => s.setSwitch w
    | _ :: value => s.giveValue w (String.ofList value)

/-- Letters behind a hyphen; what follows the letter of a switch with a value is the value. -/
def scanLetters (switches : List Switch) : List Char → Scanned → Except Stop Scanned
  | [], s => .ok s
  | c :: cs, s =>
    match switches.find? fun w => w.letter = some c with
    | none => .error .usage
    | some w =>
      match w.kind, cs with
      | .value _, '=' :: value => s.giveValue w (String.ofList value)
      | .value _, d :: value => s.giveValue w (String.ofList (d :: value))
      | _, _ => do scanLetters switches cs (← s.setSwitch w)

/-- Scans words up to one that names a command; the command and the words behind it are left. -/
def scan (switches : List Switch) (isCommand : String → Bool) :
    List String → Scanned → Except Stop (Scanned × Option (String × List String))
  | [], s => if s.waiting.isSome then .error .usage else .ok (s, none)
  | word :: rest, s =>
    match s.waiting with
    | some w =>
      if isHyphened word then .error .usage
      else do scan switches isCommand rest (← s.giveValue w word)
    | none =>
      if isCommand word then .ok (s, some (word, rest))
      else if isHyphened word then
        match word.toList with
        | ['-', '-'] => .ok ({ s with operands := s.operands ++ rest }, none)
        | '-' :: '-' :: cs => do scan switches isCommand rest (← scanLong switches cs s)
        | _ :: cs => do scan switches isCommand rest (← scanLetters switches cs s)
        | [] => .error .usage
      else scan switches isCommand rest { s with operands := s.operands ++ [word] }

end DocumentGraph.CommandLine
