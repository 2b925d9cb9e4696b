import LookML.Discovery
import LookML.Library.Components
import LookML.Library.Glob.Expansion
import LookML.Library.Pattern.Parser
import LookML.Library.Sql.Statement
import LookML.Library.Yaml.Node
import LookML.Registry
/-!
# Libraries

What runs where the program calls a library. Only the glob library tells what it complains about.
-/

namespace LookML

instance sqlReader : SqlParser where
  parse text :=
    match Sql.statements? text with
    | some statements => .ok statements
    | none => .error "<sqlparser>"

instance patternReader : PatternCompiler where
  compile pattern :=
    match Pattern.parse? pattern with
    | some p => .ok p.isFoundIn
    | none => .error "<regex>"
  exists_standard := by
    have h : (Pattern.parse? RuleOptions.standard.pattern).isSome := by
      decide +kernel
    obtain ⟨p, hp⟩ := Option.isSome_iff_exists.1 h
    exact ⟨p.isFoundIn, by rw [hp]⟩

instance globReader : GlobLibrary where
  paths base pattern := (Glob.paths base pattern).mapError Glob.Error.message
  compile pattern := (Glob.isMatch <$> Glob.parse pattern).mapError Glob.Error.message

/-- A text of comments only is read as if it were empty; two documents are one too many. -/
instance yamlReader : YamlReader where
  read decode text :=
    match Yaml.Node.parse? text with
    | none | some (_ :: _ :: _) => .error "<yaml>"
    | some documents =>
      match decode (documents.headD .empty) with
      | none => .error "<yaml>"
      | some value => .ok value

end LookML
