import LookML.Proofs.Entity.Answers
import LookML.Proofs.Project.Inheritance
/-!
# What the check of references finds

Explores use views, by themselves and by their joins, and the SQL of explores, joins and fields
uses references. A use is dangling if what it names is not there. Each dangling use is reported,
once for each time that it occurs, and nothing else is.
-/

namespace LookML

/-- The view that an alias of an explore stands for. A join's alias hides that of the base view. -/
inductive Entity.StandsFor (e : Entity) (name : String) : String → Prop
  | join {j : Member} : j ∈ e.joins → j.name = name → StandsFor e name j.targetView
  | base : (∀ j ∈ e.joins, j.name ≠ name) → name = e.baseAlias → StandsFor e name e.baseView

/-- A place where something is used that has to be there. -/
inductive Use where
  /-- an explore starts from a view -/
  | baseView (explore : Entity)
  /-- a join reads from a view -/
  | joinView (explore : Entity) (join : Member)
  /-- the SQL of an explore or of one of its joins refers to a field -/
  | exploreSql (explore : Entity) (property : Property) (reference : Reference)
  /-- the SQL of a field refers to a field -/
  | fieldSql (view : Entity) (field : Member) (property : Property) (reference : Reference)

namespace Use

/-- The qualified name of the explore or field that is the user. -/
def user : Use → String
  | baseView explore | joinView explore _ | exploreSql explore _ _ => explore.qualified
  | fieldSql _ field _ _ => field.qualified

/-- Where the use stands. The view that an explore starts from is named by its `from`, by its
`view_name`, or by the explore itself. -/
def location : Use → Location
  | baseView explore =>
    match explore.property? "from", explore.property? "view_name" with
    | some p, _ | none, some p => p.location
    | none, none => explore.location
  | joinView _ join => join.location
  | exploreSql _ property _ | fieldSql _ _ property _ => property.location

def report (u : Use) (why : Unresolved) : ResolutionError :=
  .unresolved u.user why u.location

end Use

namespace Project

structure IsView (p : Project) (name : String) (view : Entity) : Prop where
  mem : view ∈ p.entities
  kind : view.kind = .view
  name : view.name = name

/-- The name is the alias of the base view or of a join in some explore. -/
def IsAlias (p : Project) (name : String) : Prop :=
  ∃ e ∈ p.explores, name = e.baseAlias ∨ ∃ j ∈ e.joins, j.name = name

/-- Whether references of a field's property count: `sql` and all that begins with `sql_`. -/
def isSqlName (name : String) : Bool :=
  name = "sql" || "sql_".toList.isPrefixOf name.toList

/-- The uses in an explore. Of its properties and those of its joins the last one of a name takes
effect. -/
def usesOfExplore (e : Entity) : List Use :=
  .baseView e :: e.joins.map (.joinView e) ++
    (["sql_always_where", "sql_always_having"].filterMap e.property? ++
      e.joins.flatMap fun j =>
        ["sql_on", "sql_where", "sql_foreign_key"].filterMap j.block.property?).flatMap
      fun property =>
        (property.value.text?.elim [] Reference.extract).map (.exploreSql e property)

/-- The uses in a view: those of each field, in every property that counts. -/
def usesOfView (v : Entity) : List Use :=
  v.fields.flatMap fun field =>
    (field.block.properties.filter (isSqlName ·.name)).flatMap fun property =>
      (property.value.text?.elim [] Reference.extract).map (.fieldSql v field property)

/-- The uses in a project, templates left out. -/
def uses (p : Project) : List Use :=
  (p.explores.filter (!·.isTemplate)).flatMap usesOfExplore ++
    (p.views.filter (!·.isTemplate)).flatMap usesOfView

/-- What is used is not there, and why. -/
inductive Dangling (p : Project) : Use → Unresolved → Prop
  | undefinedBaseView {e : Entity} : (∀ v, ¬ p.IsView e.baseView v) →
      Dangling p (.baseView e) (.undefinedBaseView e.baseView)
  | undefinedJoinView {e : Entity} {j : Member} : (∀ v, ¬ p.IsView j.targetView v) →
      Dangling p (.joinView e j) (.undefinedJoinView j.name j.targetView)
  /-- a scope in an explore that is no alias there -/
  | unjoinedAlias {e : Entity} {property : Property} {r : Reference} {scope : String} :
      r.scope = some scope → (∀ j ∈ e.joins, j.name ≠ scope) → scope ≠ e.baseAlias →
      Dangling p (.exploreSql e property r) (.unjoinedAlias r scope)
  /-- an alias of a view that has no such field -/
  | noFieldOfAlias {e v : Entity} {property : Property} {r : Reference} {scope name : String} :
      r.scope = some scope → e.StandsFor scope name → p.IsView name v →
      (∀ f ∈ v.fields, ¬ f.Answers r.name) →
      Dangling p (.exploreSql e property r) (.noSuchField r name)
  /-- a field that its own view does not have -/
  | noOwnField {v : Entity} {field : Member} {property : Property} {r : Reference} :
      r.scope = none ∨ r.scope = some v.name → (∀ f ∈ v.fields, ¬ f.Answers r.name) →
      Dangling p (.fieldSql v field property r) (.noSuchField r v.name)
  /-- a field that the other view does not have -/
  | noFieldOfView {v other : Entity} {field : Member} {property : Property} {r : Reference}
      {scope : String} :
      r.scope = some scope → scope ≠ v.name → p.IsView scope other →
      (∀ f ∈ other.fields, ¬ f.Answers r.name) →
      Dangling p (.fieldSql v field property r) (.noSuchField r scope)
  /-- a scope that is neither a view nor an alias of some explore -/
  | unknownScope {v : Entity} {field : Member} {property : Property} {r : Reference}
      {scope : String} :
      r.scope = some scope → scope ≠ v.name → (∀ other, ¬ p.IsView scope other) →
      ¬ p.IsAlias scope → Dangling p (.fieldSql v field property r) (.unknownScope r scope)

/-- Each dangling use is reported once, in order, and nothing else is reported. -/
inductive Reported (p : Project) : List Use → List ResolutionError → Prop
  | nil : Reported p [] []
  | dangling {u : Use} {why : Unresolved} {us : List Use} {errors : List ResolutionError} :
      p.Dangling u why → Reported p us errors → Reported p (u :: us) (u.report why :: errors)
  | resolved {u : Use} {us : List Use} {errors : List ResolutionError} :
      (∀ why, ¬ p.Dangling u why) → Reported p us errors → Reported p (u :: us) errors

def complaint? (p : Project) : Use → Option ResolutionError
  | .baseView e => p.checkBaseView e
  | .joinView e j => p.checkJoinView e j
  | .exploreSql e property r => p.checkExploreReference e property.location r
  | .fieldSql v field property r =>
    p.checkFieldReference p.aliases v field.qualified property.location r

theorem referencesOf_eq (property : Property) :
    referencesOf property = property.value.text?.elim [] Reference.extract := by
  unfold referencesOf
  cases property.value.text? <;> rfl

theorem checkExplore_eq_filterMap (p : Project) (e : Entity) :
    p.checkExplore e = (usesOfExplore e).filterMap p.complaint? := by
  have hbase : (p.checkBaseView e).toList = [Use.baseView e].filterMap p.complaint? := by
    cases h : p.checkBaseView e <;> simp [complaint?, h]
  have hjoins : e.joins.filterMap (p.checkJoinView e) =
      (e.joins.map (.joinView e)).filterMap p.complaint? := by
    rw [List.filterMap_map]
    rfl
  have hsql : ((exploreSql e).flatMap fun property =>
      (referencesOf property).filterMap (p.checkExploreReference e property.location)) =
        ((exploreSql e).flatMap fun property =>
          (property.value.text?.elim [] Reference.extract).map
            (.exploreSql e property)).filterMap p.complaint? := by
    rw [List.filterMap_flatMap]
    simp only [List.filterMap_map, referencesOf_eq]
    rfl
  rw [checkExplore, hbase, hjoins, hsql, ← List.filterMap_append, ← List.filterMap_append]
  rfl

theorem flatMap_checkFieldOf_eq_filterMap (p : Project) (v : Entity) :
    (v.fields.flatMap fun field => p.checkFieldOf p.aliases v field) =
      (usesOfView v).filterMap p.complaint? := by
  unfold usesOfView
  simp only [List.filterMap_flatMap, List.filterMap_map, ← referencesOf_eq]
  rfl

theorem checkReferences_eq_filterMap (p : Project) :
    p.checkReferences = p.uses.filterMap p.complaint? := by
  have hviews : (p.viewFields.flatMap fun x => p.checkFieldOf p.aliases x.1 x.2) =
      (p.views.filter (!·.isTemplate)).flatMap fun v => (usesOfView v).filterMap p.complaint? := by
    rw [viewFields, List.flatMap_assoc]
    simp only [List.flatMap_map, flatMap_checkFieldOf_eq_filterMap]
  rw [uses, List.filterMap_append, List.filterMap_flatMap, List.filterMap_flatMap, ← hviews]
  simp only [← checkExplore_eq_filterMap]
  rfl

/-! ## Complaints are about dangling uses -/

theorem mem_aliases_iff_isAlias {p : Project} {name : String} :
    name ∈ p.aliases ↔ p.IsAlias name := by
  simp [aliases, IsAlias]

theorem mem_entities_of_use {p : Project} {e : Entity} {property : Property} {r : Reference}
    (h : .exploreSql e property r ∈ p.uses) : e ∈ p.entities := by
  simp only [uses, usesOfExplore, usesOfView, List.mem_append, List.mem_flatMap, List.mem_cons,
    List.mem_map, List.mem_filter] at h
  rcases h with ⟨e', he', (h | ⟨_, _, h⟩) | ⟨_, _, _, _, h⟩⟩ | ⟨_, _, _, _, _, _, _, _, h⟩
  · cases h
  · cases h
  · cases h
    exact (List.mem_filter.1 he'.1).1
  · cases h

theorem checkField_eq_some_iff {view : Entity} {user : String} {location : Location}
    {r : Reference} {error : ResolutionError} :
    checkField view user location r = some error ↔
      (∀ f ∈ view.fields, ¬ f.Answers r.name) ∧
        error = .unresolved user (.noSuchField r view.name) location := by
  unfold checkField
  by_cases hanswered : ∃ f ∈ view.fields, f.Answers r.name
  · rw [if_pos (Entity.isSome_resolveField?_iff.2 hanswered)]
    obtain ⟨f, hf, hname⟩ := hanswered
    simp only [reduceCtorEq, false_iff]
    exact fun h => h.1 f hf hname
  · rw [if_neg (fun h => hanswered (Entity.isSome_resolveField?_iff.1 h))]
    have hnone : ∀ f ∈ view.fields, ¬ f.Answers r.name := fun f hf hname =>
      hanswered ⟨f, hf, hname⟩
    rw [Option.some.injEq, eq_comm]
    exact ⟨fun h => ⟨hnone, h⟩, fun h => h.2⟩

theorem viewOfAlias?_eq_none_iff {e : Entity} {name : String} :
    e.viewOfAlias? name = none ↔ (∀ j ∈ e.joins, j.name ≠ name) ∧ name ≠ e.baseAlias := by
  simp [Entity.viewOfAlias?, Entity.join?]

theorem location_baseView (e : Entity) :
    (Use.baseView e).location =
      (((e.property? "from").or (e.property? "view_name")).map Property.location).getD e.location := by
  cases hfrom : e.property? "from" with
  | some p => simp [Use.location, hfrom]
  | none => cases hname : e.property? "view_name" <;> simp [Use.location, hfrom, hname]

/-- Names are unambiguous: no two views share one, and no two joins of an explore. -/
structure Unambiguous (p : Project) : Prop where
  entities : (p.entities.map fun e => (e.kind, e.name)).Nodup
  joins : ∀ e ∈ p.entities, (e.joins.map Member.name).Nodup

namespace Unambiguous

variable {p : Project} (h : p.Unambiguous) {name : String}
include h

theorem view?_eq_some_iff {view : Entity} : p.view? name = some view ↔ p.IsView name view := by
  have hfind : p.view? name =
      p.entities.find? fun e => decide ((e.kind, e.name) = (EntityKind.view, name)) := by
    unfold view? entity?
    congr 1
    funext e
    simp
  rw [hfind, Keyed.find?_eq_some_iff h.entities, Prod.mk.injEq]
  exact ⟨fun ⟨hmem, hkind, hname⟩ => ⟨hmem, hkind, hname⟩,
    fun ⟨hmem, hkind, hname⟩ => ⟨hmem, hkind, hname⟩⟩

theorem view?_eq_none_iff : p.view? name = none ↔ ∀ v, ¬ p.IsView name v := by
  simp only [Option.eq_none_iff_forall_ne_some, ne_eq, h.view?_eq_some_iff]

theorem viewOfAlias?_eq_some_iff {e : Entity} (he : e ∈ p.entities) {view : String} :
    e.viewOfAlias? name = some view ↔ e.StandsFor name view := by
  have hjoin : ∀ {j : Member}, e.join? name = some j ↔ j ∈ e.joins ∧ j.name = name :=
    Keyed.find?_eq_some_iff (h.joins e he)
  unfold Entity.viewOfAlias?
  cases hfound : e.join? name with
  | some j =>
    obtain ⟨hj, hname⟩ := hjoin.1 hfound
    simp only [Option.map_some, Option.some_or, Option.some.injEq]
    constructor
    · rintro rfl
      exact .join hj hname
    · rintro (⟨hj', hname'⟩ | ⟨hnone, _⟩)
      · rw [hjoin.2 ⟨hj', hname'⟩] at hfound
        rw [Option.some.inj hfound]
      · exact absurd hname (hnone j hj)
  | none =>
    have hnone : ∀ j ∈ e.joins, j.name ≠ name := by
      simpa [Entity.join?] using hfound
    simp only [Option.map_none, Option.none_or, Option.ite_none_right_eq_some, Option.some.injEq]
    constructor
    · rintro ⟨hbase, rfl⟩
      exact .base hnone hbase
    · rintro (⟨hj, hname⟩ | ⟨_, hbase⟩)
      · exact absurd hname (hnone _ hj)
      · exact ⟨hbase, rfl⟩

theorem dangling_of_complaint? {u : Use} (hu : u ∈ p.uses) {error : ResolutionError}
    (hcomplaint : p.complaint? u = some error) :
    ∃ why, p.Dangling u why ∧ error = u.report why := by
  cases u with
  | baseView e =>
    simp only [complaint?, checkBaseView, Option.ite_none_left_eq_some, Option.some.injEq,
      Bool.not_eq_true, Option.isSome_eq_false_iff, Option.isNone_iff_eq_none] at hcomplaint
    obtain ⟨hview, rfl⟩ := hcomplaint
    exact ⟨_, .undefinedBaseView (h.view?_eq_none_iff.1 hview), by
      rw [Use.report, location_baseView]; rfl⟩
  | joinView e j =>
    simp only [complaint?, checkJoinView, Option.ite_none_left_eq_some, Option.some.injEq,
      Bool.not_eq_true, Option.isSome_eq_false_iff, Option.isNone_iff_eq_none] at hcomplaint
    obtain ⟨hview, rfl⟩ := hcomplaint
    exact ⟨_, .undefinedJoinView (h.view?_eq_none_iff.1 hview), rfl⟩
  | exploreSql e property r =>
    obtain ⟨scope, hscope, hcomplaint⟩ := Option.bind_eq_some_iff.1 hcomplaint
    split at hcomplaint
    · rename_i halias
      obtain ⟨hjoins, hbase⟩ := viewOfAlias?_eq_none_iff.1 halias
      exact ⟨_, .unjoinedAlias hscope hjoins hbase, (Option.some.inj hcomplaint).symm⟩
    · rename_i name halias
      obtain ⟨v, hv, hcomplaint⟩ := Option.bind_eq_some_iff.1 hcomplaint
      have hstands := (h.viewOfAlias?_eq_some_iff (mem_entities_of_use hu)).1 halias
      have hview := h.view?_eq_some_iff.1 hv
      obtain ⟨hfields, rfl⟩ := checkField_eq_some_iff.1 hcomplaint
      rw [hview.name]
      exact ⟨_, .noFieldOfAlias hscope hstands hview hfields, rfl⟩
  | fieldSql v field property r =>
    simp only [complaint?, checkFieldReference] at hcomplaint
    split at hcomplaint
    · rename_i hscope
      obtain ⟨hfields, rfl⟩ := checkField_eq_some_iff.1 hcomplaint
      exact ⟨_, .noOwnField (.inl hscope) hfields, rfl⟩
    · rename_i scope hscope
      split at hcomplaint
      · rename_i hown
        obtain ⟨hfields, rfl⟩ := checkField_eq_some_iff.1 hcomplaint
        exact ⟨_, .noOwnField (.inr (hown ▸ hscope)) hfields, rfl⟩
      · rename_i hother
        split at hcomplaint
        · rename_i other hfound
          have hview := h.view?_eq_some_iff.1 hfound
          obtain ⟨hfields, rfl⟩ := checkField_eq_some_iff.1 hcomplaint
          rw [hview.name]
          exact ⟨_, .noFieldOfView hscope hother hview hfields, rfl⟩
        · rename_i hfound
          obtain ⟨halias, hcomplaint⟩ := Option.ite_none_left_eq_some.1 hcomplaint
          exact ⟨_, .unknownScope hscope hother (h.view?_eq_none_iff.1 hfound)
            (fun hname => halias (mem_aliases_iff_isAlias.2 hname)),
            (Option.some.inj hcomplaint).symm⟩

theorem complaint?_of_dangling {u : Use} (hu : u ∈ p.uses) {why : Unresolved}
    (hdangling : p.Dangling u why) : p.complaint? u = some (u.report why) := by
  cases hdangling with
  | undefinedBaseView hview =>
    rw [complaint?, checkBaseView, h.view?_eq_none_iff.2 hview, Use.report, location_baseView]
    rfl
  | undefinedJoinView hview =>
    rw [complaint?, checkJoinView, h.view?_eq_none_iff.2 hview]
    rfl
  | unjoinedAlias hscope hjoins hbase =>
    rw [complaint?, checkExploreReference, hscope]
    simp only [Option.bind_eq_bind, Option.bind_some, viewOfAlias?_eq_none_iff.2 ⟨hjoins, hbase⟩]
    rfl
  | noFieldOfAlias hscope hstands hview hfields =>
    have halias := (h.viewOfAlias?_eq_some_iff (mem_entities_of_use hu)).2 hstands
    rw [complaint?, checkExploreReference, hscope]
    simp only [Option.bind_eq_bind, Option.bind_some, halias, h.view?_eq_some_iff.2 hview]
    rw [checkField_eq_some_iff.2 ⟨hfields, rfl⟩, hview.name]
    rfl
  | noOwnField hscope hfields =>
    rw [complaint?, checkFieldReference]
    rcases hscope with hscope | hscope
    · simp only [hscope]
      exact checkField_eq_some_iff.2 ⟨hfields, rfl⟩
    · simp only [hscope, if_true]
      exact checkField_eq_some_iff.2 ⟨hfields, rfl⟩
  | noFieldOfView hscope hother hview hfields =>
    rw [complaint?, checkFieldReference]
    simp only [hscope, if_neg hother, h.view?_eq_some_iff.2 hview]
    rw [checkField_eq_some_iff.2 ⟨hfields, rfl⟩, hview.name]
    rfl
  | unknownScope hscope hother hview halias =>
    rw [complaint?, checkFieldReference]
    simp only [hscope, if_neg hother, h.view?_eq_none_iff.2 hview]
    rw [if_neg (fun hname => halias (mem_aliases_iff_isAlias.1 hname))]
    rfl

end Unambiguous

theorem reported_filterMap {p : Project} {us : List Use}
    (hsound : ∀ u ∈ us, ∀ error, p.complaint? u = some error →
      ∃ why, p.Dangling u why ∧ error = u.report why)
    (hcomplete : ∀ u ∈ us, ∀ why, p.Dangling u why → p.complaint? u = some (u.report why)) :
    p.Reported us (us.filterMap p.complaint?) := by
  induction us with
  | nil => exact .nil
  | cons u us ih =>
    have hrest := ih (fun v hv => hsound v (.tail _ hv)) fun v hv => hcomplete v (.tail _ hv)
    cases hcomplaint : p.complaint? u with
    | none =>
      rw [List.filterMap_cons_none hcomplaint]
      refine .resolved (fun why hwhy => ?_) hrest
      rw [hcomplete u (.head _) why hwhy] at hcomplaint
      cases hcomplaint
    | some error =>
      obtain ⟨why, hwhy, rfl⟩ := hsound u (.head _) error hcomplaint
      rw [List.filterMap_cons_some hcomplaint]
      exact .dangling hwhy hrest

/-! ## Main statement -/

theorem unambiguous_build [Extends.ComponentFinder] (documents : List Document) :
    (build documents).1.Unambiguous where
  entities := nodup_entities documents
  joins := fun _ he => (distinct_layer_of_mem he).joins

/-- In every model each dangling use is reported exactly once, and nothing else is. -/
theorem checkReferences_exact [Extends.ComponentFinder] (documents : List Document) :
    (build documents).1.Reported (build documents).1.uses (build documents).1.checkReferences := by
  have hnames := unambiguous_build documents
  rw [checkReferences_eq_filterMap]
  exact reported_filterMap (fun _ hu _ => hnames.dangling_of_complaint? hu)
    fun _ hu _ => hnames.complaint?_of_dangling hu

end Project

end LookML
