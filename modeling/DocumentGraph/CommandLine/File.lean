import DocumentGraph.CommandLine.Run
import DocumentGraph.Database.Archive
set_option autoImplicit false

/-!
# Store files

A store file holds the text of an archive. A command that is run on a file reads the archive in it, and
the file is written if what the command leaves is another archive.
-/

namespace DocumentGraph.CommandLine

inductive Contents where
  | absent
  /-- Something that has no text. -/
  | unusable
  | text (s : String)

/-- A text that is no archive is no store file. -/
def Contents.location : Contents → Location
  | .absent => .absent
  | .unusable => .unusable
  | .text s =>
    match Database.ofArchive? s with
    | some db => .file db s.utf8ByteSize
    | none => .unusable

/-- The text to be written: that of the file that is left, unless its archive was found there. -/
def Location.written? (found left : Location) : Option String :=
  match found, left with
  | .file old _, .file new _ => if old.archive = new.archive then none else some new.archive
  | _, .file new _ => some new.archive
  | _, _ => none

/-- Runs a command on what is found at its path, and gives the text to be written there. -/
def Invocation.runOn (clock : Clock) (found : Contents) (inv : Invocation) :
    Outcome × Option String :=
  let place := found.location
  let (outcome, left) := inv.run clock place
  (outcome, place.written? left)

end DocumentGraph.CommandLine
