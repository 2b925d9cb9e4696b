import LookML.FileTree
import LookML.Source
/-!
# Finding the files of a project

A directory is searched for LookML files; a single file stands for itself. From there the includes
of model files are followed, seen from the root of the project.
-/

namespace LookML

open FileTree (Place ReadError)

/-- The library that reads glob patterns: the paths that a pattern names, as far as they can be
looked at, and the texts that a pattern matches. Both refuse what is no pattern, with a
complaint. -/
class GlobLibrary where
  paths (base : Place) (pattern : Path) : Except String (List Path)
  compile (pattern : String) : Except String (String → Bool)

/-- The files of a project. -/
structure Discovery where
  /-- the directory that includes and shown paths start from -/
  root : Path
  /-- in order, each once -/
  files : List Path
  /-- includes that name no file, after the model file that they are in -/
  unmatched : List (String × String)
deriving DecidableEq

namespace Discovery

/-- Why the files cannot be found. -/
inductive Error where
  | notFound (path : Path)
  | badInclude (pattern : Path) (complaint : String)
  | badExclusion (pattern complaint : String)
deriving DecidableEq

def Error.message : Error → String
  | notFound path => s!"Path not found: {path.text}"
  | badInclude pattern complaint => s!"Invalid glob pattern: {pattern.text}: {complaint}"
  | badExclusion pattern complaint => s!"Invalid exclude pattern: {pattern}: {complaint}"

def endings : List String := [".lkml", ".lookml"]

def sortPaths (paths : List Path) : List Path :=
  paths.mergeSort fun p q => (p.order q).isLE

/-- The directory that a project is in: the path itself, unless it leads to a file. -/
def projectDirectory (base : Place) (path : Path) : Path :=
  if base.hasFile path then path.parent else path

section Search

variable [GlobLibrary]

def globFiles (base : Place) (pattern : Path) : Except Error (List Path) :=
  match GlobLibrary.paths base pattern with
  | .ok paths => .ok (paths.filter base.hasFile)
  | .error complaint => .error (.badInclude pattern complaint)

/-- The files that a pattern names, in order. -/
def expand (base : Place) (pattern : Path) : Except Error (List Path) :=
  sortPaths <$> globFiles base pattern

def lookmlFiles (base : Place) (directory : Path) : Except Error (List Path) := do
  let found ← endings.mapM fun ending => expand base ((directory.join "**").join ("*" ++ ending))
  return sortPaths found.flatten

/-- What an include asks for, seen from the root of the project, unless it is about another
project. A pattern without a LookML ending means `.lkml` files. -/
def includePattern? (root : Path) (pattern : String) : Option Path :=
  let cs := pattern.toList
  if ['/', '/'].isPrefixOf cs then none
  else
    let inner := String.ofList (cs.dropWhile (· = '/'))
    let complete := endings.any fun ending => ending.toList.isSuffixOf inner.toList
    some (root.join (if complete then inner else inner ++ ".lkml"))

def includesIn (path : Path) (text : String) : List String :=
  match Document.parse path.text text with
  | .error _ => []
  | .ok document => document.includes

/-- What a file includes. Only model files that can be read count. -/
def includes (base : Place) (path : Path) : List String :=
  if path.fileName?.any Document.isModelName then
    match base.read path with
    | .error _ => []
    | .ok text => includesIn path text
  else []

/-- How far a search has come. -/
structure Search where
  /-- the files found so far -/
  seen : List Path
  /-- those of them whose includes are still to be followed, the last one first -/
  queue : List Path
  unmatched : List (String × String)

namespace Search

/-- Takes a file in, unless it is left out or known. -/
def add (admits : Path → Bool) (s : Search) (path : Path) : Search :=
  if admits path && !s.seen.any path.same then
    { s with seen := path :: s.seen, queue := path :: s.queue }
  else s

def follow (base : Place) (root : Path) (admits : Path → Bool) (file : Path) (s : Search)
    (pattern : String) : Except Error Search :=
  match includePattern? root pattern with
  | none => .ok s
  | some full => do
    let found ← expand base full
    if found.isEmpty then
      return { s with unmatched := s.unmatched ++ [(root.relativeTo file, pattern)] }
    else return found.foldl (add admits) s

/-- Follows the includes of queued files, at most so many. -/
def run (base : Place) (root : Path) (admits : Path → Bool) :
    Nat → Search → Except Error Search
  | 0, s => .ok s
  | n + 1, s =>
    match s.queue with
    | [] => .ok s
    | file :: queue => do
      run base root admits n <|
        ← (includes base file).foldlM (follow base root admits file) { s with queue := queue }

end Search

/-- The texts of all model files inside a directory and the directories above it, by name. -/
def modelTexts (base : Place) : List (String × String) :=
  ((base.here :: base.above).flatMap FileTree.inside).filterMap fun (name, t) =>
    match t with
    | .directory _ => none
    | .file content =>
      if Document.isModelName name then (String.fromUTF8? content).map fun text => (name, text)
      else none

/-- All that any model file includes. A search finds no more files than these and those that it
begins with. -/
def reachable (base : Place) (root : Path) : List Path :=
  (modelTexts base).flatMap fun (name, text) =>
    ((includesIn ⟨name⟩ text).filterMap (includePattern? root)).flatMap fun pattern =>
      (expand base pattern).toOption.getD []

/-- Finds the files at a path, without those whose relative paths match an exclusion. -/
def run (base : Place) (path : Path) (exclusions : List String) : Except Error Discovery := do
  let (root, first) ←
    if base.hasDirectory path then pure (path, ← lookmlFiles base path)
    else if base.hasFile path then pure (path.parent, [path])
    else .error (.notFound path)
  let excluded ← exclusions.mapM fun pattern =>
    (GlobLibrary.compile pattern).mapError (.badExclusion pattern)
  let admits (file : Path) : Bool := !excluded.any (· (root.relativeTo file))
  let bound := first.length + (reachable base root).length
  let search ← Search.run base root admits bound (first.foldl (.add admits) ⟨[], [], []⟩)
  return {
    root := root
    files := sortPaths search.seen
    unmatched := search.unmatched.mergeSort fun a b =>
      ((compare a.1 b.1).then (compare a.2 b.2)).isLE }

end Search

def relative (d : Discovery) (file : Path) : String :=
  d.root.relativeTo file

def sources (d : Discovery) (base : Place) : List Source :=
  d.files.filterMap fun file =>
    match base.read file with
    | .ok text => some ⟨d.relative file, text⟩
    | .error _ => none

def unreadable (d : Discovery) (base : Place) : List (Path × ReadError) :=
  d.files.filterMap fun file =>
    match base.read file with
    | .ok _ => none
    | .error e => some (file, e)

end Discovery

end LookML
