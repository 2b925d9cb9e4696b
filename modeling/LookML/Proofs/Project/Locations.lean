import LookML.Proofs.Definition.Locations
import LookML.Proofs.Project.Inheritance
/-!
# Where entities stand

Entities and their members stand where the documents of a project do, even if they are inherited,
and every problem between declarations is reported there.
-/

namespace LookML

open Extends

variable {P : Location → Prop}

/-- The entity, its properties and its members stand at places that satisfy `P`. -/
structure Entity.Located (P : Location → Prop) (e : Entity) : Prop where
  location : P e.location
  layer : e.layer.Located P

theorem Entity.Located.field {e : Entity} (h : e.Located P) {f : Member} (hf : f ∈ e.fields) :
    f.block.Located P :=
  h.layer.members.fields f hf

theorem Entity.Located.join {e : Entity} (h : e.Located P) {j : Member} (hj : j ∈ e.joins) :
    j.block.Located P :=
  h.layer.members.joins j hj

theorem Property.mem_of_last? {ps : List Property} {name : String} {p : Property}
    (h : last? ps name = some p) : p ∈ ps :=
  List.mem_reverse.1 (List.mem_of_find?_eq_some h)

namespace Project

variable {documents : List Document}

theorem located_collect (h : ∀ d ∈ documents, d.Located P) :
    Definition.AllLocated P (Definition.collect (documents.flatMap Document.blocks)) := by
  apply Definition.located_collect
  intro b hb
  obtain ⟨d, hd, hb⟩ := List.mem_flatMap.1 hb
  exact (h d hd).blocks b hb

theorem located_entities [ComponentFinder] (h : ∀ d ∈ documents, d.Located P) :
    ∀ e ∈ (build documents).1.entities, e.Located P := by
  have hdefinitions := (located_collect h).definitions
  intro e he
  obtain ⟨id, hid⟩ := List.mem_iff_getElem?.1 he
  rw [getElem?_entities, Option.map_eq_some_iff] at hid
  obtain ⟨d, hd, rfl⟩ := hid
  refine ⟨(hdefinitions d (List.mem_of_getElem? hd)).location, ?_⟩
  exact forall_mergedAt Layer.located_empty (fun hbottom htop => hbottom.overlay htop)
    (fun hbase heir => hbase.bequeath heir) (fun d' hd' => (hdefinitions d' hd').layer) hd

/-! ## Checking references -/

theorem located_unresolved {location : Location} (h : P location) (user : String)
    (problem : Unresolved) : (ResolutionError.unresolved user problem location).Located P :=
  ⟨h, nofun⟩

variable {p : Project} {location : Location} {e : ResolutionError}

theorem located_checkField {view : Entity} {user : String} {r : Reference} (h : P location)
    (he : checkField view user location r = some e) : e.Located P := by
  unfold checkField at he
  split at he
  · cases he
  · cases he
    exact located_unresolved h _ _

theorem located_checkBaseView {explore : Entity} (h : explore.Located P)
    (he : p.checkBaseView explore = some e) : e.Located P := by
  unfold checkBaseView at he
  split at he
  · cases he
  · cases he
    apply located_unresolved
    cases hdeclared : (explore.property? "from").or (explore.property? "view_name") with
    | none => exact h.location
    | some q =>
      apply h.layer.properties q
      rcases Option.or_eq_some_iff.1 hdeclared with hfrom | ⟨_, hviewName⟩
      · exact Property.mem_of_last? hfrom
      · exact Property.mem_of_last? hviewName

theorem located_checkJoinView {explore : Entity} {join : Member} (h : join.block.Located P)
    (he : p.checkJoinView explore join = some e) : e.Located P := by
  unfold checkJoinView at he
  split at he
  · cases he
  · cases he
    exact located_unresolved (Block.located_iff.1 h).1 _ _

theorem located_checkExploreReference {explore : Entity} {r : Reference} (h : P location)
    (he : p.checkExploreReference explore location r = some e) : e.Located P := by
  obtain ⟨name, _, he⟩ := Option.bind_eq_some_iff.1 he
  split at he
  · cases he
    exact located_unresolved h _ _
  · obtain ⟨view, _, he⟩ := Option.bind_eq_some_iff.1 he
    exact located_checkField h he

theorem located_exploreSql {explore : Entity} (h : explore.Located P) :
    ∀ q ∈ exploreSql explore, P q.location := by
  intro q hq
  rcases List.mem_append.1 hq with hq | hq
  · obtain ⟨key, _, hlast⟩ := List.mem_filterMap.1 hq
    exact h.layer.properties q (Property.mem_of_last? hlast)
  · obtain ⟨j, hj, hq⟩ := List.mem_flatMap.1 hq
    obtain ⟨key, _, hlast⟩ := List.mem_filterMap.1 hq
    exact ((Block.located_iff.1 (h.join hj)).2.1 q (Property.mem_of_last? hlast)).location

theorem located_checkExplore {explore : Entity} (h : explore.Located P) :
    ∀ e ∈ p.checkExplore explore, e.Located P := by
  intro e he
  rcases List.mem_append.1 he with he | he
  · rcases List.mem_append.1 he with he | he
    · exact located_checkBaseView h (Option.mem_toList.1 he)
    · obtain ⟨j, hj, he⟩ := List.mem_filterMap.1 he
      exact located_checkJoinView (h.join hj) he
  · obtain ⟨q, hq, he⟩ := List.mem_flatMap.1 he
    obtain ⟨r, _, he⟩ := List.mem_filterMap.1 he
    exact located_checkExploreReference (located_exploreSql h q hq) he

theorem located_checkFieldReference {aliases : List String} {view : Entity} {user : String}
    {r : Reference} (h : P location)
    (he : p.checkFieldReference aliases view user location r = some e) : e.Located P := by
  unfold checkFieldReference at he
  split at he
  · exact located_checkField h he
  · split at he
    · exact located_checkField h he
    · split at he
      · exact located_checkField h he
      · split at he
        · cases he
        · cases he
          exact located_unresolved h _ _

theorem located_checkFieldOf {aliases : List String} {view : Entity} {field : Member}
    (h : field.block.Located P) : ∀ e ∈ p.checkFieldOf aliases view field, e.Located P := by
  intro e he
  obtain ⟨q, hq, he⟩ := List.mem_flatMap.1 he
  obtain ⟨r, _, he⟩ := List.mem_filterMap.1 he
  have hlocation := ((Block.located_iff.1 h).2.1 q (List.mem_filter.1 hq).1).location
  exact located_checkFieldReference hlocation he

theorem located_viewFields (h : ∀ e ∈ p.entities, e.Located P) :
    ∀ x ∈ p.viewFields, x.2.block.Located P := by
  intro x hx
  obtain ⟨view, hview, hx⟩ := List.mem_flatMap.1 hx
  obtain ⟨f, hf, rfl⟩ := List.mem_map.1 hx
  exact (h view (List.mem_filter.1 (List.mem_filter.1 hview).1).1).field hf

theorem located_checkReferences (h : ∀ e ∈ p.entities, e.Located P) :
    ∀ e ∈ p.checkReferences, e.Located P := by
  intro e he
  rcases List.mem_append.1 he with he | he
  · obtain ⟨explore, hexplore, he⟩ := List.mem_flatMap.1 he
    exact located_checkExplore
      (h explore (List.mem_filter.1 (List.mem_filter.1 hexplore).1).1) e he
  · obtain ⟨x, hx, he⟩ := List.mem_flatMap.1 he
    exact located_checkFieldOf (located_viewFields h x hx) e he

/-! ## Main statement -/

theorem located_errors [ComponentFinder] (h : ∀ d ∈ documents, d.Located P) :
    ∀ e ∈ (build documents).2, e.Located P := by
  obtain ⟨hdefinitions, hproblems⟩ := located_collect h
  rw [errors_build]
  intro e he
  simp only [List.mem_append, or_assoc] at he
  rcases he with hcollect | hmissing | hcycle | hdeep | hreference
  · exact hproblems e hcollect
  · obtain ⟨d, hd, he⟩ := List.mem_flatMap.1 hmissing
    exact Definition.located_missingBaseErrors (hdefinitions d hd) e he
  · exact Definition.located_cycleErrors hdefinitions e hcycle
  · obtain ⟨d, hd, he⟩ := List.mem_filterMap.1 hdeep
    exact Definition.located_tooDeepError? (hdefinitions d hd) _ e he
  · exact located_checkReferences (located_entities h) e hreference

end Project

end LookML
