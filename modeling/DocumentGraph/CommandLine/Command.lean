import DocumentGraph.CommandLine.Switch
set_option autoImplicit false

/-!
# Commands

The words of a command line are a command with its operands and switches. The path of the store
file, the output format and the switch for verbose output may stand before the command or behind
it, and what stands behind it counts.
-/

namespace DocumentGraph.CommandLine

inductive Format where
  | text
  | json
deriving DecidableEq, Repr

inductive Command where
  | stats
  | collections
  | keys (collection : String)
  | get (collection id : String)
  | put (collection id json : String)
  | delete (collection id : String)
  | find (collection : String) (filter sort : Option String) (limit offset : Option UInt64)
  | things (type : Option String) (limit : Option UInt64)
  | traverse (id verb : String) (back : Bool)
  | history (id : String)
  | version
deriving DecidableEq

structure Invocation where
  path : Option String
  format : Format
  command : Command
deriving DecidableEq

/-- A natural number below `2 ^ 64` in decimal digits, a plus sign allowed in front. -/
def readUInt64 (text : String) : Option UInt64 :=
  let digits := match text.toList with
    | '+' :: rest => rest
    | cs => cs
  if digits.isEmpty || !digits.all Char.isDigit then none
  else
    let n := digits.foldl (fun v c => v * 10 + (c.toNat - 48)) 0
    if n < 18446744073709551616 then some (UInt64.ofNat n) else none

def readFormat (text : String) : Option Format :=
  if text = "text" then some .text else if text = "json" then some .json else none

def helpSwitch : Switch := ⟨"help", some 'h', .help⟩

def textSwitch (name : String) (letter : Option Char) : Switch := ⟨name, letter, .value fun _ => true⟩

def countSwitch (name : String) (letter : Char) : Switch :=
  ⟨name, some letter, .value fun v => (readUInt64 v).isSome⟩

def globalSwitches : List Switch :=
  [⟨"path", some 'p', .value fun v => !v.isEmpty⟩, ⟨"verbose", some 'v', .flag⟩,
    ⟨"format", some 'f', .value fun v => (readFormat v).isSome⟩, helpSwitch]

def commandNames : List String :=
  ["stats", "collections", "keys", "get", "put", "delete", "find", "things", "traverse", "history",
    "version", "help"]

def ownSwitches (command : String) : List Switch :=
  if command = "find" then
    [textSwitch "filter" none, textSwitch "sort" none, countSwitch "limit" 'l',
      countSwitch "offset" 'o']
  else if command = "things" then [textSwitch "type" (some 't'), countSwitch "limit" 'l']
  else if command = "traverse" then [⟨"back", some 'b', .flag⟩]
  else []

def Command.ofScanned? (name : String) (s : Scanned) : Option Command :=
  let count (switch : String) : Option UInt64 := (s.value? switch).bind readUInt64
  match name, s.operands with
  | "stats", [] => some .stats
  | "collections", [] => some .collections
  | "keys", [c] => some (.keys c)
  | "get", [c, id] => some (.get c id)
  | "put", [c, id, json] => some (.put c id json)
  | "delete", [c, id] => some (.delete c id)
  | "find", [c] =>
    some (.find c (s.value? "filter") (s.value? "sort") (count "limit") (count "offset"))
  | "things", [] => some (.things (s.value? "type") (count "limit"))
  | "traverse", [id, verb] => some (.traverse id verb (s.isSet "back"))
  | "history", [id] => some (.history id)
  | "version", [] => some .version
  | _, _ => none

/-- The value of a global switch, from behind the command if it is set there. -/
def globalValue (outer inner : Scanned) (name : String) : Option String :=
  (inner.value? name).orElse fun _ => outer.value? name

def helpOutcome : List String → Stop
  | [] => .help
  | [name] => if commandNames.contains name then .help else .usage
  | _ => .usage

def Invocation.ofWords (words : List String) : Except Stop Invocation := do
  let versionSwitch : Switch := ⟨"version", some 'V', .version⟩
  let (outer, found) ← scan (versionSwitch :: globalSwitches) commandNames.contains words .empty
  match found with
  | none => .error .usage
  | some (name, rest) =>
    if !outer.operands.isEmpty then .error .usage
    else if name = "help" then .error (helpOutcome rest)
    else
      let (inner, _) ← scan (ownSwitches name ++ globalSwitches) (fun _ => false) rest .empty
      match Command.ofScanned? name inner with
      | none => .error .usage
      | some command =>
        let format := (globalValue outer inner "format").bind readFormat
        .ok ⟨globalValue outer inner "path", format.getD .text, command⟩

end DocumentGraph.CommandLine
