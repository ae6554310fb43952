import Laoke.CommandLine

/-!
# The program

Reads what the arguments name, runs, prints and saves.
-/

namespace Laoke

/-- Adds what is found under a path to the known files. -/
def readInto (files : Files) (path : String) : IO Files := do
  try
    let bytes ← IO.FS.readBinFile path
    return { files with entries := files.entries ++ [(Files.normalize path, bytes)] }
  catch
    | .inappropriateType .. =>
      return { files with directories := Files.normalize path :: files.directories }
    | _ => return files

/-- Saves a text; a path that cannot be written is ignored. -/
def save (path text : String) : IO Unit := do
  try IO.FS.writeFile path text catch _ => return

end Laoke

open Laoke in
/-- Runs the program with the given arguments. -/
def main (args : List String) : IO UInt32 := do
  let files ← (CommandLine.pathsFor args).foldlM readInto {}
  let stdin ← if CommandLine.readsInput args then (← IO.getStdin).readToEnd else pure ""
  let outcome := CommandLine.run args files stdin
  IO.print outcome.stdout
  IO.eprint outcome.stderr
  if let some (path, text) := outcome.saved then save path text
  return outcome.code.toUInt32
