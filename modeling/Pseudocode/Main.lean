import Pseudocode.Cli.Invoke

namespace Pseudocode.Main

open Pseudocode.Cli

def plenty : Nat := 1000000000000000

def pathTo : Place → String
  | "/" :: names => "/" ++ "/".intercalate names
  | names => "/".intercalate names

def load (folder : Folder) (place : Place) : IO Folder := do
  try
    let bytes ← IO.FS.readBinFile (pathTo place)
    return folder.put place bytes.toList
  catch
    | .inappropriateType .. => return { folder with folders := place :: folder.folders }
    | _ => return folder

def loadAll (arguments : List String) : IO Folder := do
  match Invocation.parse arguments with
  | .error _ => return {}
  | .ok invocation =>
      let input := (invocation.command.bind Command.input?).toList
      let places := (invocation.settingsPath :: input).flatMap fun path =>
        (Path.ofString path).places
      places.foldlM load {}

def store (before after : Folder) : IO Unit :=
  for (place, bytes) in after.files do
    if before.bytes? place != some bytes then
      IO.FS.writeBinFile (pathTo place) ⟨bytes.toArray⟩

def printNow (text : String) : IO Unit := do
  let out ← IO.getStdout
  out.putStr text
  out.flush

/-- The exit code that stands for a status. What it cannot say is written as a complaint. -/
def exitWith : Status → IO UInt32
  | .exit code => return code.toUInt32
  | .crash crash => do
      IO.eprintln crash.message
      return 1
  | .unfinished => return 1

/-- Talk with a debugger until it stops asking or the input ends. -/
partial def talk (c : Context) (d : Debugger) : IO Debugger := do
  if d.running then
    printNow d.prompt
    let line ← (← IO.getStdin).getLine
    if line.isEmpty then
      printNow (Debugger.farewell false).render
      return d
    else
      let (next, said) := d.respond plenty line
      IO.eprint (journal c.settings.journalLevel (next.noted.notes.toList.drop d.noted.notes.size))
      printNow (Utterance.renderAll said)
      talk c next
  else return d

def run (arguments : List String) : IO UInt32 := do
  let folder ← loadAll arguments
  match start plenty folder arguments with
  | .done report =>
      IO.eprint report.err
      printNow report.out
      store folder report.folder
      exitWith report.status
  | .conversation c d =>
      IO.eprint (journal c.settings.journalLevel d.noted.notes.toList)
      printNow c.printed
      exitWith (Context.debugStatus (← talk c d))

end Pseudocode.Main

def main (arguments : List String) : IO UInt32 := Pseudocode.Main.run arguments
