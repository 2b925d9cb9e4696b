import LookML.Position
/-!
# Source locations

A span of one source file. The line 0 stands for the whole file.
-/

namespace LookML

/-- The characters of `path` from the first line and column up to the end line and column. -/
structure Location where
  path : String
  line : Nat
  column : Nat
  endLine : Nat
  endColumn : Nat
deriving DecidableEq

namespace Location

/-- The empty span at one place. -/
def point (path : String) (line column : Nat) : Location :=
  ⟨path, line, column, line, column⟩

def wholeFile (path : String) : Location :=
  point path 0 0

def between (path : String) (start stop : Position) : Location :=
  ⟨path, start.line, start.column, stop.line, stop.column⟩

def through (l last : Location) : Location :=
  { l with endLine := last.endLine, endColumn := last.endColumn }

/-- `path:line:column`, or the path alone for a whole file. -/
def render (l : Location) : String :=
  if l.line = 0 then l.path else s!"{l.path}:{l.line}:{l.column}"

/-- By path, then by start, then by end. -/
def order (a b : Location) : Ordering :=
  (compare a.path b.path).then <| (compare a.line b.line).then <|
    (compare a.column b.column).then <| (compare a.endLine b.endLine).then <|
      compare a.endColumn b.endColumn

end Location

end LookML
