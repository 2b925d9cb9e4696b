import LookML.FileTree
import LookML.Library.Glob.Parser
/-!
# Expanding glob patterns

The files of a tree that a pattern names. Between two slashes a pattern is matched against single
names, so that there a star stops at slashes; names without wildcards are looked up as they are.
-/

namespace LookML.Glob

open FileTree (Place)

/-- What a pattern asks for between two slashes. -/
inductive Step where
  | name (s : String)
  | matching (g : Glob)
  /-- any number of directories -/
  | descend
deriving DecidableEq

def Step.ofGlob (g : Glob) : Step :=
  match g.literal? with
  | some s => .name s
  | none => if g.tokens = [.directories] then .descend else .matching g

/-- The steps of a pattern. It has to be readable as a whole and between any two slashes. -/
def steps (pattern : Path) : Except Error (List Step) := do
  let _ ← parse pattern.text
  let parts := if pattern.isAbsolute then pattern.segments.dropWhile (· = "") else pattern.segments
  let parts := if parts.getLast? = some "" then parts.dropLast else parts
  parts.mapM fun part => Step.ofGlob <$> parse part

/-- A place that was reached, and the path it was reached by. -/
structure Found where
  path : Path
  name : String
  place : Place

/-- The path of an entry of a directory. The current directory is left out. -/
def within (directory : Path) (name : String) : Path :=
  if directory.components = [.current] then ⟨name⟩ else directory.join name

mutual

def below (path : Path) (above : List FileTree) : FileTree → List Found
  | .file _ => []
  | .directory entries => belowEntries path (.directory entries :: above) entries

def belowEntries (path : Path) (above : List FileTree) : List (String × FileTree) → List Found
  | [] => []
  | (name, t) :: entries =>
    let p := within path name
    ⟨p, name, ⟨t, above⟩⟩ :: below p above t ++ belowEntries path above entries

end

namespace Found

/-- The entry of a name. Nothing has the empty name in the current directory. -/
def entry? (f : Found) (name : String) : Option Found :=
  let path := within f.path name
  if path.text = "" then none
  else (f.place.step name).map fun place => ⟨path, name, place⟩

/-- The entries of a directory whose names match. The directory itself and the one above it are
among them if the pattern begins with a dot. -/
def matching (f : Found) (g : Glob) : List Found :=
  let entries := f.place.here.entries.filter fun (n, _) => g.isMatch n
  let inside := entries.map fun (n, t) =>
    ⟨within f.path n, n, ⟨t, f.place.here :: f.place.above⟩⟩
  let dots := if g.tokens.head? = some (.literal '.') then [".", ".."].filter g.isMatch else []
  inside ++ dots.filterMap fun n => (f.place.step n).map fun p => ⟨f.path.join n, n, p⟩

def descendants (f : Found) : List Found :=
  below f.path f.place.above f.place.here

end Found

/-- Whether a step leads to an entry of the given name below some directories. -/
def Step.isMatch : Step → String → Bool
  | .name s, n => s = n
  | .matching g, n => g.isMatch n
  | .descend, _ => true

def reach : List Step → Found → List Found
  | [], f => [f]
  | .name s :: steps, f => (f.entry? s).toList.flatMap (reach steps)
  | .matching g :: steps, f => (f.matching g).flatMap (reach steps)
  | .descend :: .descend :: steps, f => reach (.descend :: steps) f
  | [.descend], f => f.descendants.filter (·.place.here.isDirectory)
  | .descend :: step :: steps, f =>
    (f.descendants.filter (step.isMatch ·.name)).flatMap (reach steps)

def paths (p : Place) (pattern : Path) : Except Error (List Path) := do
  let start : Found := if pattern.isAbsolute then ⟨⟨"/"⟩, "", p.top⟩ else ⟨⟨"."⟩, "", p⟩
  return (reach (← steps pattern) start).map Found.path

end LookML.Glob
