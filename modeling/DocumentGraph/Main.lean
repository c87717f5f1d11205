import DocumentGraph.CommandLine.File
import Std.Time.DateTime.Timestamp
set_option autoImplicit false

namespace DocumentGraph.Main

open CommandLine

def locate (path : String) : IO Contents := do
  try
    return .text (← IO.FS.readFile path)
  catch
    | .noFileOrDirectory _ _ _ => return .absent
    | _ => return .unusable

def clock : IO Clock := do
  let now ← Std.Time.Timestamp.now
  return .still (Int64.ofInt now.toMillisecondsSinceUnixEpoch.val)

def report (outcome : Outcome) : IO UInt32 := do
  IO.print outcome.stdout
  match outcome.error with
  | some e => IO.eprintln ("Error: " ++ e)
  | none => pure ()
  return UInt32.ofNat outcome.exit

def runWords (words : List String) : IO UInt32 := do
  match Invocation.ofWords words with
  | .error stop => report (.ofStop stop)
  | .ok inv =>
    let path := inv.path.getD ""
    let found ← if inv.path.isSome then locate path else pure .absent
    let (outcome, text) := inv.runOn (← clock) found
    match text with
    | some text => IO.FS.writeFile path text
    | none => pure ()
    report outcome

end DocumentGraph.Main

def main (words : List String) : IO UInt32 := DocumentGraph.Main.runWords words
