import LookML.Project.References
/-!
# Building a project

From documents to the model, with everything found on the way. Nothing stops the build: what is
wrong is reported, and the model goes on without it.
-/

namespace LookML.Project

/-- The model of the documents, and the problems in the order in which they are found:
definitions, refinements, missing bases, cycles, chains that are cut, references. -/
def build [Extends.ComponentFinder] (documents : List Document) : Project × List ResolutionError :=
  let (definitions, problems) := Definition.collect (documents.flatMap Document.blocks)
  let merged := Definition.mergeBases definitions
  let project : Project :=
    { entities := merged.map fun (d, m) => d.toEntity m
      documents := documents
      contributions := merged.flatMap fun (d, m) => d.contributions m }
  (project,
    problems ++
      definitions.flatMap (Definition.missingBaseErrors definitions) ++
      Definition.cycleErrors definitions ++
      merged.filterMap (fun (d, m) => d.tooDeepError? m) ++
      project.checkReferences)

end LookML.Project
