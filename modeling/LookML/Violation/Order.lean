import LookML.Violation
/-!
# The canonical order of violations

Reports list violations in an order that depends on nothing but the violations themselves: by file
in the order of the input, by line, by rule, and by everything else only to break ties. Two
violations that compare equal are equal.
-/

namespace LookML.Violation

/-- The place of a path among the given ones, the last one if it is repeated. A path that is not
among them comes after all of them. -/
def pathRank (paths : List String) (path : String) : Nat :=
  if path ∈ paths then paths.length - 1 - paths.reverse.idxOf path else paths.length

/-- By file, line and rule, findings about a whole file first; then by the rest. -/
def order (paths : List String) (a b : Violation) : Ordering :=
  (compare (pathRank paths a.path) (pathRank paths b.path)).then <|
    (compare a.path b.path).then <|
    (compare a.line b.line).then <|
    (compare a.rule.text b.rule.text).then <|
    (compare a.column b.column).then <|
    (compare a.entity b.entity).then <|
    (compare a.message b.message).then <|
    (compare a.severity.rank b.severity.rank).then <|
    (compare a.origin.rank b.origin.rank).then <|
      List.compareLex Location.order a.related b.related

/-- The violations in canonical order, where `paths` is the order of the files. -/
def sort (paths : List String) (violations : List Violation) : List Violation :=
  violations.mergeSort fun a b => (order paths a b).isLE

theorem sort_perm (paths : List String) (violations : List Violation) :
    (sort paths violations).Perm violations :=
  List.mergeSort_perm violations _

end LookML.Violation
