import LookML.Document.Parser
/-!
# Source files

The texts of a project. Files that do not parse are left out and reported.
-/

namespace LookML

/-- A file and its text. -/
structure Source where
  path : String
  text : String
deriving DecidableEq

namespace Source

def parse (s : Source) : Except SyntaxError Document :=
  Document.parse s.path s.text

/-- The documents of the files that parse, in order. -/
def documents (sources : List Source) : List Document :=
  sources.filterMap fun s => s.parse.toOption

def errors (sources : List Source) : List SyntaxError :=
  sources.filterMap fun s =>
    match s.parse with
    | .ok _ => none
    | .error e => some e

end Source

end LookML
