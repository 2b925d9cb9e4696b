import LookML.Config.Decode
import LookML.FileTree
/-!
# Looking configurations up
-/

namespace LookML.Config

open FileTree (Place)

/-- The names that a configuration file of a project can have, the preferred one first. -/
def fileNames : List String := ["lkml-lint.yml", "lkml-lint.yaml"]

def read [YamlReader] (base : Place) (path : Path) : Except Error Config :=
  if base.has path then
    match base.read path with
    | .ok text => ofYaml text
    | .error e => .error (.unreadable path.text e.message)
  else .error (.notFound path.text)

/-- The configuration of a project in a directory. Without a file, it is the standard one. -/
def ofProject [YamlReader] (base : Place) (directory : Path) : Except Error Config :=
  match (fileNames.map directory.join).find? base.has with
  | some path => read base path
  | none => .ok standard

def Error.chain (e : Error) : String :=
  match e with
  | unreadable _ reason => s!"{e.message}: {reason}"
  | e => e.message

end LookML.Config
