/-!
# Kinds of blocks

The keyword before the colon decides what a block declares. Keywords outside the vocabulary are
kept, so that the grammar does not depend on it.
-/

namespace LookML

/-- What a block declares. -/
inductive BlockKind where
  | view
  | explore
  | dimension
  | dimensionGroup
  | measure
  | filter
  | parameter
  | join
  | set
  | derivedTable
  | datagroup
  | accessGrant
  | aggregateTable
  | test
  | query
  | materialization
  | link
  | action
  | mapLayer
  | other (keyword : String)
deriving DecidableEq

namespace BlockKind

def vocabulary : List (String × BlockKind) :=
  [("view", view), ("explore", explore), ("dimension", dimension),
    ("dimension_group", dimensionGroup), ("measure", measure), ("filter", filter),
    ("parameter", parameter), ("join", join), ("set", set), ("derived_table", derivedTable),
    ("datagroup", datagroup), ("access_grant", accessGrant),
    ("aggregate_table", aggregateTable), ("test", test), ("query", query),
    ("materialization", materialization), ("link", link), ("action", action),
    ("map_layer", mapLayer)]

def ofKeyword (keyword : String) : BlockKind :=
  (vocabulary.lookup keyword).getD (other keyword)

def keyword : BlockKind → String
  | view => "view"
  | explore => "explore"
  | dimension => "dimension"
  | dimensionGroup => "dimension_group"
  | measure => "measure"
  | filter => "filter"
  | parameter => "parameter"
  | join => "join"
  | set => "set"
  | derivedTable => "derived_table"
  | datagroup => "datagroup"
  | accessGrant => "access_grant"
  | aggregateTable => "aggregate_table"
  | test => "test"
  | query => "query"
  | materialization => "materialization"
  | link => "link"
  | action => "action"
  | mapLayer => "map_layer"
  | other keyword => keyword

/-- Dimensions, dimension groups, measures, filters and parameters are the fields of a view. -/
def isField : BlockKind → Bool
  | dimension | dimensionGroup | measure | filter | parameter => true
  | _ => false

def isKnown : BlockKind → Bool
  | other _ => false
  | _ => true

theorem keyword_of_mem_vocabulary : ∀ entry ∈ vocabulary, entry.2.keyword = entry.1 := by
  decide

theorem keyword_ofKeyword (k : String) : (ofKeyword k).keyword = k := by
  unfold ofKeyword
  cases h : vocabulary.lookup k with
  | none => rfl
  | some kind =>
    obtain ⟨before, after, hentry, _⟩ := List.lookup_eq_some_iff.1 h
    have hmem : (k, kind) ∈ vocabulary := by
      rw [hentry]
      simp
    exact keyword_of_mem_vocabulary (k, kind) hmem

end BlockKind

end LookML
