/-!
# File paths

A path is kept as it is written. What counts when paths are compared are its components: doubled
slashes, and dots that stand for the current directory, make no difference except at the start.
-/

namespace LookML

/-- A path as it is written. -/
structure Path where
  text : String
deriving DecidableEq

namespace Path

/-- What a path is made of. -/
inductive Component where
  /-- the slash that begins an absolute path -/
  | root
  /-- a dot at the start -/
  | current
  | parent
  | name (s : String)
deriving DecidableEq

namespace Component

def text : Component → String
  | root => "/"
  | current => "."
  | parent => ".."
  | name s => s

def rank : Component → Nat
  | root => 0
  | current => 1
  | parent => 2
  | name _ => 3

/-- By kind; names alphabetically. -/
def order (a b : Component) : Ordering :=
  (compare a.rank b.rank).then (compare a.text b.text)

end Component

/-- The texts between the slashes. There is always one more than there are slashes. -/
def splitSlashes : List Char → List (List Char)
  | [] => [[]]
  | c :: cs =>
    match splitSlashes cs with
    | [] => [[c]]
    | s :: rest => if c = '/' then [] :: s :: rest else (c :: s) :: rest

theorem splitSlashes_ne_nil (cs : List Char) : splitSlashes cs ≠ [] := by
  induction cs with
  | nil => simp [splitSlashes]
  | cons c cs ih =>
    simp only [splitSlashes]
    split
    · exact List.cons_ne_nil _ _
    · split <;> exact List.cons_ne_nil _ _

def segments (p : Path) : List String :=
  (splitSlashes p.text.toList).map String.ofList

def isAbsolute (p : Path) : Bool :=
  p.text.toList.head? = some '/'

def component? (segment : String) : Option Component :=
  if segment = "" || segment = "." then none
  else if segment = ".." then some .parent
  else some (.name segment)

def components (p : Path) : List Component :=
  let first := if p.isAbsolute then [.root]
    else if p.segments.head? = some "." then [.current]
    else []
  first ++ p.segments.filterMap component?

def same (p q : Path) : Bool :=
  p.components = q.components

def order (p q : Path) : Ordering :=
  List.compareLex Component.order p.components q.components

def join (directory : Path) (inner : String) : Path :=
  if directory.text = "" || directory.text.toList.getLast? = some '/' then
    ⟨directory.text ++ inner⟩
  else ⟨directory.text ++ "/" ++ inner⟩

/-- The directory that a file is in, as far as the path says. -/
def parent (p : Path) : Path :=
  match p.segments.dropLast with
  | [] => ⟨""⟩
  | first :: rest =>
    let kept := (rest.reverse.dropWhile fun s => s = "" || s = ".").reverse
    if first = "" && kept.isEmpty then ⟨"/"⟩ else ⟨"/".intercalate (first :: kept)⟩

def fileName? (p : Path) : Option String :=
  match p.components.getLast? with
  | some (.name s) => some s
  | _ => none

/-- The path as seen from a directory, with plain slashes; the whole path if the directory is not
where it begins. -/
def relativeTo (directory p : Path) : String :=
  let parts := if directory.components.isPrefixOf p.components
    then p.components.drop directory.components.length
    else p.components
  "/".intercalate (parts.map Component.text)

end Path

end LookML
