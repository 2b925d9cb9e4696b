import LookML.Main
import LookML.Proofs.Definition.Accounting
import LookML.Proofs.Definition.Collect
import LookML.Proofs.Definition.Fates
import LookML.Proofs.Definition.Linking
import LookML.Proofs.Definition.Locations
import LookML.Proofs.Definition.Merging
import LookML.Proofs.Definition.Rearrangement
import LookML.Proofs.Definition.SelfReference
import LookML.Proofs.Definition.Separation
import LookML.Proofs.Definition.Split
import LookML.Proofs.Discovery
import LookML.Proofs.Discovery.Closure
import LookML.Proofs.Discovery.Directory
import LookML.Proofs.Discovery.Distinct
import LookML.Proofs.Discovery.Reachable
import LookML.Proofs.Discovery.Search
import LookML.Proofs.Document.Completeness
import LookML.Proofs.Document.Correctness
import LookML.Proofs.Document.Errors
import LookML.Proofs.Document.Grammar
import LookML.Proofs.Document.Includes
import LookML.Proofs.Document.Lines
import LookML.Proofs.Document.Locations
import LookML.Proofs.Document.Lookahead
import LookML.Proofs.Document.Pairs
import LookML.Proofs.Document.Places
import LookML.Proofs.Document.Precedence
import LookML.Proofs.Document.Reading
import LookML.Proofs.Document.Soundness
import LookML.Proofs.Document.Spans
import LookML.Proofs.Document.Unambiguity
import LookML.Proofs.Document.Viability
import LookML.Proofs.Entity.Answers
import LookML.Proofs.Evaluation.Completeness
import LookML.Proofs.Evaluation.DataSource
import LookML.Proofs.Evaluation.Duplicates
import LookML.Proofs.Evaluation.Instances
import LookML.Proofs.Evaluation.Lexicon
import LookML.Proofs.Evaluation.Lines
import LookML.Proofs.Evaluation.Locations
import LookML.Proofs.Evaluation.Orphans
import LookML.Proofs.Evaluation.Selection
import LookML.Proofs.Evaluation.Separation
import LookML.Proofs.Except
import LookML.Proofs.Extends.Afresh
import LookML.Proofs.Extends.Calls
import LookML.Proofs.Extends.Components
import LookML.Proofs.Extends.Coverage
import LookML.Proofs.Extends.CycleEmbedding
import LookML.Proofs.Extends.CyclePath
import LookML.Proofs.Extends.Degradation
import LookML.Proofs.Extends.Embedding
import LookML.Proofs.Extends.Inheritance
import LookML.Proofs.Extends.Memo
import LookML.Proofs.Extends.Observation
import LookML.Proofs.Extends.Provenance
import LookML.Proofs.Extends.SelfReference
import LookML.Proofs.FileTree
import LookML.Proofs.FileTree.Address
import LookML.Proofs.Glob.Expansion
import LookML.Proofs.Glob.Literal
import LookML.Proofs.Glob.Paths
import LookML.Proofs.Glob.Plain
import LookML.Proofs.Keyed
import LookML.Proofs.Layer.Block
import LookML.Proofs.Layer.Locations
import LookML.Proofs.Layer.Lookup
import LookML.Proofs.Layer.Names
import LookML.Proofs.Layer.Observation
import LookML.Proofs.Layer.Overlay
import LookML.Proofs.Layer.Repetitions
import LookML.Proofs.Layer.Trail
import LookML.Proofs.Lint
import LookML.Proofs.Lint.Levels
import LookML.Proofs.Lint.Lines
import LookML.Proofs.Lint.Locations
import LookML.Proofs.Lint.Selection
import LookML.Proofs.Number
import LookML.Proofs.Path
import LookML.Proofs.Project.Accounting
import LookML.Proofs.Project.BareWords
import LookML.Proofs.Project.BaseErrors
import LookML.Proofs.Project.Coverage
import LookML.Proofs.Project.Cycles
import LookML.Proofs.Project.Degradation
import LookML.Proofs.Project.Entities
import LookML.Proofs.Project.Inheritance
import LookML.Proofs.Project.Lines
import LookML.Proofs.Project.Locations
import LookML.Proofs.Project.Names
import LookML.Proofs.Project.Properties
import LookML.Proofs.Project.Provenance
import LookML.Proofs.Project.Reachability
import LookML.Proofs.Project.Rearrangement
import LookML.Proofs.Project.References
import LookML.Proofs.Project.SelfReference
import LookML.Proofs.Project.Separation
import LookML.Proofs.Project.Ways
import LookML.Proofs.Project.WellFormed
import LookML.Proofs.Reference.Extraction
import LookML.Proofs.Reference.Pieces
import LookML.Proofs.Reference.Substitution
import LookML.Proofs.Registry
import LookML.Proofs.Sorting
import LookML.Proofs.Split
import LookML.Proofs.Text.Case
import LookML.Proofs.Text.Trim
import LookML.Proofs.Token.Breaks
import LookML.Proofs.Token.Lexeme
import LookML.Proofs.Token.Order
import LookML.Proofs.Token.Scanning
import LookML.Proofs.Token.Spelling
import LookML.Proofs.Token.Tiling
import LookML.Proofs.Violation.Grouping
import LookML.Proofs.Violation.Order
