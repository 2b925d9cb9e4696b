import LookML.Keyed
import LookML.Path
/-!
# File trees

Files and directories as they are found, and how a path leads from one to another.
-/

namespace LookML

/-- A file or a directory. -/
inductive FileTree where
  | file (content : ByteArray)
  | directory (entries : List (String × FileTree))

namespace FileTree

def isDirectory : FileTree → Bool
  | directory _ => true
  | file _ => false

def isFile : FileTree → Bool
  | directory _ => false
  | file _ => true

def entries : FileTree → List (String × FileTree)
  | directory es => es
  | file _ => []

/-- The tree with something put at a path of names. Directories on the way are made; what stands in
the way is replaced. -/
def insert : FileTree → List String → FileTree → FileTree
  | _, [], added => added
  | t, name :: path, added =>
    let old := (t.entries.lookup name).getD (directory [])
    directory (Keyed.put Prod.fst (fun _ new => new) (name, old.insert path added) t.entries)

mutual

def inside : FileTree → List (String × FileTree)
  | file _ => []
  | directory es => insideEntries es

def insideEntries : List (String × FileTree) → List (String × FileTree)
  | [] => []
  | (name, t) :: es => (name, t) :: t.inside ++ insideEntries es

end

/-- A place in a tree: what is there, and the directories above it, the nearest one first. -/
structure Place where
  here : FileTree
  above : List FileTree

namespace Place

/-- The place that a segment of a path leads to. Nothing is inside a file, and nothing is above the
topmost directory but itself. -/
def step (p : Place) (segment : String) : Option Place :=
  match p.here with
  | file _ => none
  | directory es =>
    if segment = "" || segment = "." then some p
    else if segment = ".." then
      match p.above with
      | [] => some p
      | parent :: above => some ⟨parent, above⟩
    else (es.lookup segment).map fun t => ⟨t, p.here :: p.above⟩

def top (p : Place) : Place :=
  ⟨(p.here :: p.above).getLast (List.cons_ne_nil _ _), []⟩

def follow? (p : Place) (path : Path) : Option Place :=
  if path.text = "" then none
  else path.segments.foldlM step (if path.isAbsolute then p.top else p)

def hasFile (p : Place) (path : Path) : Bool :=
  (p.follow? path).any (·.here.isFile)

def hasDirectory (p : Place) (path : Path) : Bool :=
  (p.follow? path).any (·.here.isDirectory)

def has (p : Place) (path : Path) : Bool :=
  (p.follow? path).isSome

end Place

/-- Why there is no text to read. -/
inductive ReadError where
  | absent
  | isDirectory
  | notText
deriving DecidableEq

def ReadError.message : ReadError → String
  | absent => "No such file or directory (os error 2)"
  | isDirectory => "Is a directory (os error 21)"
  | notText => "stream did not contain valid UTF-8"

/-- The text of the file that a path leads to. -/
def Place.read (p : Place) (path : Path) : Except ReadError String :=
  match p.follow? path with
  | none => .error .absent
  | some ⟨directory _, _⟩ => .error .isDirectory
  | some ⟨file content, _⟩ =>
    match String.fromUTF8? content with
    | some text => .ok text
    | none => .error .notText

end FileTree

end LookML
