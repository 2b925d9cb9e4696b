import LookML.CommandLine.Execution
/-!
# The program

Reads the files that a command line may be about, carries it out, and writes what it leaves behind.
-/

namespace LookML.CommandLine

/-- What there is at a path. Links that lead back to a directory they are in are cut off by the
depth. -/
partial def readTree (depth : Nat) (path : String) : IO FileTree := do
  let found ← IO.FS.realPath path
  if ← found.isDir then
    if depth = 0 then return .directory []
    let entries ← found.readDir
    let read ← entries.toList.filterMapM fun entry => do
      try
        return some (entry.fileName, ← readTree (depth - 1) entry.path.toString)
      catch _ => return none
    return .directory read
  else return .file (← IO.FS.readBinFile found)

/-- The working directory in a tree that also holds what the arguments name. -/
def readFiles (arguments : List String) : IO FileTree.Place := do
  let working := (← IO.currentDir).toString
  let mut tree : FileTree := .directory []
  for path in working :: arguments do
    try
      let place := (← IO.FS.realPath path).toString
      let names := (Path.mk place).segments.filter (· ≠ "")
      unless FileTree.Place.has ⟨tree, []⟩ ⟨place⟩ do
        tree := tree.insert names (← readTree 64 place)
    catch _ => pure ()
  return (FileTree.Place.follow? ⟨tree, []⟩ ⟨working⟩).getD ⟨tree, []⟩

def Refusal.text : Refusal → String
  | .version => "lkml-lint"
  | _ => "Usage: lkml-lint [OPTIONS] lint [PATH] | rules"

end LookML.CommandLine

open LookML CommandLine in
def main (arguments : List String) : IO UInt32 := do
  let stdout ← IO.getStdout
  let stderr ← IO.getStderr
  match parse (← IO.getEnv "LKML_LINT_CONFIG") arguments with
  | .error refusal =>
    (if refusal.exitCode = 0 then stdout else stderr).putStrLn refusal.text
    return refusal.exitCode.toUInt32
  | .ok invocation =>
    let base ← readFiles arguments
    let output := match invocation.run base 4 with
      | .ok output => output
      | .error failure => failure.output
    for remark in output.remarks do
      stderr.putStrLn remark
    stdout.putStr output.result
    return output.exitCode.toUInt32
