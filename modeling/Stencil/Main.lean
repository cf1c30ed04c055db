import Stencil.CommandLine

/-!
The program: gathers the files that a run looks at, runs the command line over them and prints what
it says.
-/

namespace Stencil

/-- Adds what a path leads to, if it leads to something that can be read. -/
def gather (files : FileSystem) (path : String) : IO FileSystem := do
  match ← (IO.FS.readBinFile path).toBaseIO with
  | .ok content => return files.write path (.file content.toList)
  | .error (.inappropriateType _ 21 _) => return files.write path .directory
  | .error _ => return files

end Stencil

open Stencil in
def main (arguments : List String) : IO UInt32 := do
  let current := Path.parts (← IO.currentDir).toString.toList
  let files ← (CommandLine.named arguments).foldlM gather (FileSystem.empty current)
  let files ← (CommandLine.lookups files arguments).foldlM gather files
  let outcome := CommandLine.run files arguments
  IO.print outcome.output
  IO.eprint outcome.errors
  return outcome.code
