import DiagnosticReport.CommandLine

/-!
# The program

The outer layer: it takes the words of the command line, reads the files that
they can refer to into a `FileTree`, carries out the invocation on it, writes
the files that are new, and prints.

Files are read in two rounds.  The first takes what decides which configuration
applies and the paths that the words name; the second takes the documents that
the dumps of a language server refer to.
-/

set_option autoImplicit false

namespace DiagnosticReport.Program

/-- What can be read at an absolute path: the bytes of a file, or a directory. -/
def entryOnDisk? (path : String) : IO (Option Entry) := do
  try
    let bytes ← IO.FS.readBinFile path
    return some (.file bytes.toList)
  catch
    | .inappropriateType _ 21 _ => return some .directory
    | _ => return none

/-- The tree with everything on the way to these paths. -/
def readPaths (tree : FileTree) (paths : List String) : IO FileTree := do
  let mut entries := tree.entries
  for place in paths.flatMap (FileTree.placesOnPath tree.workingDirectory) do
    if (entries.lookup place).isNone then
      if let some entry ← entryOnDisk? (Path.ofComponents true place) then
        entries := (place, entry) :: entries
  return { tree with entries }

/-- Whether texts are coloured: always or never if the environment says so, and
otherwise if the output is a terminal and colours are not switched off. -/
def wantsColors : IO Bool := do
  let forced := (← IO.getEnv "CLICOLOR_FORCE").any (· != "0")
  let refused := (← IO.getEnv "NO_COLOR").isSome
  let welcome := (← IO.getEnv "CLICOLOR").all (· != "0")
  let terminal ← (← IO.getStdout).isTty
  return forced || (!refused && welcome && terminal)

/-- Writes the files of a tree that an earlier tree does not have. -/
def writeNewFiles (earlier later : FileTree) : IO Unit := do
  for (place, entry) in later.entries.take (later.entries.length - earlier.entries.length) do
    if let .file bytes := entry then
      IO.FS.writeBinFile (Path.ofComponents true place) ⟨bytes.toArray⟩

end DiagnosticReport.Program

open DiagnosticReport

/-- Carries out what the words ask for and returns the exit status. -/
def main (words : List String) : IO UInt32 := do
  let invocation := Invocation.ofWords words
  let directory := (Path.components (← IO.currentDir).toString)
  let tree ← Program.readPaths ⟨[], directory⟩
    (Invocation.configPaths directory ++ invocation.namedPaths)
  let tree ← Program.readPaths tree (invocation.documentPaths tree)
  let result := invocation.run tree (← Program.wantsColors)
  Program.writeNewFiles tree result.tree
  (← IO.getStdout).putStr result.output
  (← IO.getStderr).putStr result.errorOutput
  return UInt32.ofNat result.exit
