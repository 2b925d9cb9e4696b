import LookML.Proofs.Evaluation.Separation
import LookML.Proofs.Project.Locations
/-!
# Where findings stand

Built-in rules report what they find at fields, views and properties that they are shown. So all
that they report on a project stands where the documents of the project do.
-/

namespace LookML

variable {P : Location → Prop}

/-- The finding and what is related to it stand at places that satisfy `P`. -/
structure Finding.Located (P : Location → Prop) (f : Finding) : Prop where
  location : P f.location
  related : ∀ l ∈ f.related, P l

/-- The entities and documents of the project do so. -/
structure Project.Located (P : Location → Prop) (p : Project) : Prop where
  entities : ∀ e ∈ p.entities, e.Located P
  documents : ∀ d ∈ p.documents, d.Located P

theorem Project.located_build [Extends.ComponentFinder] {documents : List Document}
    (h : ∀ d ∈ documents, d.Located P) :
    (build documents).1.Located P :=
  ⟨located_entities h, h⟩

/-- All that the rule finds in a project whose parts do so does so too. -/
def Rule.Locates (P : Location → Prop) (rule : Rule) : Prop :=
  ∀ p : Project, p.Located P → ∀ f ∈ rule.findings p, f.Located P

namespace Rule

variable {id : RuleId} {severity : Severity} {description : String}

theorem locates_ofField {findings : Entity → Member → List Finding}
    (h : ∀ (e : Entity) (f : Member), f.block.Located P → ∀ x ∈ findings e f, x.Located P) :
    (ofField id severity description findings).Locates P := by
  intro p hp x hx
  obtain ⟨⟨e, f⟩, hmem, hx⟩ := List.mem_flatMap.1 hx
  exact h e f (Project.located_viewFields hp.entities (e, f) hmem) x hx

theorem locates_ofFile {findings : Document → List Finding}
    (h : ∀ d : Document, d.Located P → ∀ x ∈ findings d, x.Located P) :
    (ofFile id severity description findings).Locates P := by
  intro p hp x hx
  obtain ⟨d, hd, hx⟩ := List.mem_flatMap.1 hx
  exact h d (hp.documents d hd) x hx

theorem locates_ofProject {findings : Project → List Finding}
    (h : ∀ p : Project, p.Located P → ∀ x ∈ findings p, x.Located P) :
    (ofProject id severity description findings).Locates P := by
  intro p hp x hx
  rw [findings_ofProject] at hx
  exact h p hp x hx

end Rule

namespace Rules

/-! ## Rules about fields -/

def AboutField (f : Member) (findings : List Finding) : Prop :=
  ∀ x ∈ findings, ∃ message, x = .ofField f message

theorem AboutField.located {f : Member} {findings : List Finding} (h : AboutField f findings)
    (hf : f.block.Located P) : ∀ x ∈ findings, x.Located P := by
  intro x hx
  obtain ⟨message, rfl⟩ := h x hx
  exact ⟨(Block.located_iff.1 hf).1, nofun⟩

theorem aboutField_ite (c : Prop) [Decidable c] (f : Member) (message : String) :
    AboutField f (if c then [.ofField f message] else []) := by
  intro x hx
  split at hx
  · exact ⟨message, List.mem_singleton.1 hx⟩
  · cases hx

theorem aboutField_description (f : Member) : AboutField f (descriptionFindings f) :=
  aboutField_ite _ f _

theorem aboutField_drillDown (f : Member) : AboutField f (drillDownFindings f) :=
  aboutField_ite _ f _

theorem aboutField_yesnoName (starts : List String) (f : Member) :
    AboutField f (yesnoNameFindings starts f) :=
  aboutField_ite _ f _

theorem aboutField_countName (f : Member) : AboutField f (countNameFindings f) :=
  aboutField_ite _ f _

theorem aboutField_allCaps (f : Member) : AboutField f (allCapsFindings f) :=
  aboutField_ite _ f _

theorem aboutField_primaryKeyHidden (f : Member) : AboutField f (primaryKeyHiddenFindings f) :=
  aboutField_ite _ f _

theorem aboutField_fieldNaming (pattern : String → Bool) (spelling : String) (f : Member) :
    AboutField f (fieldNamingFindings pattern spelling f) := by
  intro x hx
  unfold fieldNamingFindings at hx
  split at hx
  · cases hx
  · exact ⟨_, List.mem_singleton.1 hx⟩

theorem aboutField_lexicon (forbidden : List String) (f : Member) :
    AboutField f (lexiconFindings forbidden f) := by
  intro x hx
  obtain ⟨⟨what, text⟩, _, hx⟩ := List.mem_flatMap.1 hx
  obtain ⟨phrase, _, rfl⟩ := List.mem_map.1 hx
  exact ⟨_, rfl⟩

/-! ## Rules about files -/

theorem located_ofView {view : Block} (h : view.Located P) (message : String) :
    (Finding.ofView view message).Located P :=
  ⟨(Block.located_iff.1 h).1, nofun⟩

theorem located_views {d : Document} (h : d.Located P) : ∀ v ∈ d.views, v.Located P :=
  fun v hv => h.blocks v (List.mem_filter.1 hv).1

theorem located_definedViews {d : Document} (h : d.Located P) :
    ∀ v ∈ definedViews d, v.Located P :=
  fun v hv => located_views h v (List.mem_filter.1 hv).1

theorem stands_allBlocks {d : Document} (h : d.Located P) : ∀ b ∈ d.allBlocks, b.Stands P := by
  intro b hb
  obtain ⟨top, htop, hb⟩ := Block.mem_descendantsOf.1 hb
  exact h.blocks top htop b hb

theorem located_dataSource {d : Document} (h : d.Located P) :
    ∀ x ∈ dataSourceFindings d, x.Located P := by
  intro x hx
  obtain ⟨v, hv, rfl⟩ := List.mem_map.1 hx
  have hview := (List.mem_filter.1 (List.mem_filter.1 hv).1).1
  exact located_ofView (located_definedViews h v hview) _

theorem located_oneView {d : Document} (h : d.Located P) :
    ∀ x ∈ oneViewFindings d, x.Located P := by
  have hviews := located_definedViews h
  intro x hx
  unfold oneViewFindings at hx
  split at hx
  · rename_i first others hdefined
    rw [hdefined, List.forall_mem_cons] at hviews
    split at hx
    · obtain ⟨v, hv, rfl⟩ := List.mem_map.1 hx
      refine ⟨(located_ofView (hviews.2 v hv) "").location, ?_⟩
      exact List.forall_mem_singleton.2 (located_ofView hviews.1 "").location
    · cases hx
  · cases hx

theorem located_filename {d : Document} (h : d.Located P) :
    ∀ x ∈ filenameFindings d, x.Located P := by
  have hviews := located_definedViews h
  intro x hx
  unfold filenameFindings at hx
  split at hx
  · rename_i first others hdefined
    rw [hdefined, List.forall_mem_cons] at hviews
    split at hx
    · cases List.mem_singleton.1 hx
      exact located_ofView hviews.1 _
    · cases hx
  · cases hx

theorem eq_occurrences_of_mem_duplicates {ps all : List Property} {name : String}
    (h : (name, all) ∈ Property.duplicates ps) : all = Property.occurrences ps name := by
  obtain ⟨other, _, h⟩ := List.mem_filterMap.1 h
  dsimp only at h
  split at h
  · cases h
  · cases h
    rfl

theorem located_repeatedProperties (what : String) {ps : List Property}
    (h : ∀ p ∈ ps, P p.location) : ∀ x ∈ repeatedProperties what ps, x.Located P := by
  intro x hx
  obtain ⟨⟨name, all⟩, hall, hx⟩ := List.mem_flatMap.1 hx
  obtain ⟨p, hp, rfl⟩ := List.mem_map.1 hx
  obtain rfl := eq_occurrences_of_mem_duplicates hall
  have hsub : Property.occurrences ps name ⊆ ps := List.filter_sublist.subset
  refine ⟨h p (hsub (List.mem_of_mem_drop hp)), fun l hl => ?_⟩
  obtain ⟨first, hfirst, rfl⟩ := Option.map_eq_some_iff.1 (Option.mem_toList.1 hl)
  exact h first (hsub (List.mem_of_head? hfirst))

theorem located_duplicateProperty {d : Document} (h : d.Located P) :
    ∀ x ∈ duplicatePropertyFindings d, x.Located P := by
  intro x hx
  rcases List.mem_append.1 hx with hx | hx
  · exact located_repeatedProperties _ (fun p hp => (h.properties p hp).location) x hx
  · obtain ⟨b, hb, hx⟩ := List.mem_flatMap.1 hx
    exact located_repeatedProperties _ (stands_allBlocks h b hb).properties x hx

theorem located_unknownKind {d : Document} (h : d.Located P) :
    ∀ x ∈ unknownKindFindings d, x.Located P := by
  intro x hx
  obtain ⟨b, hb, rfl⟩ := List.mem_map.1 hx
  exact ⟨(stands_allBlocks h b (List.mem_filter.1 hb).1).location, nofun⟩

theorem stands_of_get? {view b : Block} (h : view.Located P) {key : String} {value : Value}
    (hvalue : view.get? key = some value) (hb : value.block? = some b) : b.Stands P := by
  obtain ⟨p, hp, rfl⟩ := Option.map_eq_some_iff.1 hvalue
  have hproperty := (Block.located_iff.1 h).2.1 p (Property.mem_of_last? hp)
  apply hproperty.blocks
  cases hset : p.value with
  | block c =>
    rw [hset] at hb
    cases hb
    rw [Value.blocks]
    exact Block.mem_descendants.2 (.inl rfl)
  | _ =>
    rw [hset] at hb
    cases hb

theorem located_derivedTableSql [SqlParser] {view : Block} (h : view.Located P) {x : Finding}
    (hx : derivedTableFinding? view = some x) : x.Located P := by
  obtain ⟨value, hvalue, hx⟩ := Option.bind_eq_some_iff.1 hx
  obtain ⟨derived, hderived, hx⟩ := Option.bind_eq_some_iff.1 hx
  obtain ⟨p, hp, hx⟩ := Option.bind_eq_some_iff.1 hx
  obtain ⟨sql, _, hx⟩ := Option.bind_eq_some_iff.1 hx
  obtain ⟨message, _, hx⟩ := Option.bind_eq_some_iff.1 hx
  cases hx
  have hstands := stands_of_get? h hvalue hderived
  exact ⟨hstands.properties p (Property.mem_of_last? hp), nofun⟩

/-! ## Rules about the project -/

theorem located_ofEntity {e : Entity} (h : e.Located P) (message : String) :
    (Finding.ofEntity e message).Located P :=
  ⟨h.location, nofun⟩

theorem located_primaryKey {view : Entity} (h : view.Located P) {x : Finding}
    (hx : primaryKeyFinding? view = some x) : x.Located P := by
  unfold primaryKeyFinding? at hx
  split at hx
  · cases hx
  · split at hx
    · cases hx
    · cases hx
      exact located_ofEntity h _
    · cases hx
      refine ⟨h.location, List.forall_mem_map.2 fun key hkey => ?_⟩
      exact (Block.located_iff.1 (h.field (List.mem_filter.1 hkey).1)).1

theorem located_noOrphans {p : Project} (h : p.Located P) :
    ∀ x ∈ noOrphansFindings p, x.Located P := by
  intro x hx
  obtain ⟨v, hv, rfl⟩ := List.mem_map.1 hx
  have hview := (List.mem_filter.1 (List.mem_filter.1 hv).1).1
  exact located_ofEntity (h.entities v hview) _

/-! ## Main statements -/

variable [SqlParser] {options : RuleOptions} {pattern : String → Bool} {rule : Rule}

theorem locates_builtIn (h : rule ∈ builtIn options pattern) : rule.Locates P := by
  have hfield : ∀ {findings : Member → List Finding}, (∀ f, AboutField f (findings f)) →
      ∀ (e : Entity) (f : Member), f.block.Located P → ∀ x ∈ findings f, x.Located P :=
    fun habout e f hf => (habout f).located hf
  simp only [builtIn, List.mem_cons, List.not_mem_nil, or_false] at h
  rcases h with rfl | rfl | rfl | rfl | rfl | rfl | rfl | rfl | rfl | rfl | rfl | rfl | rfl | rfl |
    rfl | rfl
  · exact Rule.locates_ofField (hfield aboutField_description)
  · exact Rule.locates_ofField (hfield aboutField_drillDown)
  · exact Rule.locates_ofField (hfield (aboutField_yesnoName _))
  · exact Rule.locates_ofField (hfield aboutField_countName)
  · exact Rule.locates_ofField (hfield aboutField_allCaps)
  · exact Rule.locates_ofField (hfield (aboutField_fieldNaming _ _))
  · exact Rule.locates_ofField (hfield (aboutField_lexicon _))
  · exact Rule.locates_ofField (hfield aboutField_primaryKeyHidden)
  · exact Rule.locates_ofFile fun d hd => located_dataSource hd
  · exact Rule.locates_ofFile fun d hd => located_oneView hd
  · exact Rule.locates_ofFile fun d hd => located_filename hd
  · exact Rule.locates_ofFile fun d hd => located_duplicateProperty hd
  · exact Rule.locates_ofFile fun d hd => located_unknownKind hd
  · apply Rule.locates_ofFile
    intro d hd x hx
    obtain ⟨v, hv, hx⟩ := List.mem_filterMap.1 hx
    exact located_derivedTableSql (located_views hd v hv) hx
  · apply Rule.locates_ofProject
    intro p hp x hx
    obtain ⟨v, hv, hx⟩ := List.mem_filterMap.1 hx
    exact located_primaryKey (hp.entities v (List.mem_filter.1 hv).1) hx
  · exact Rule.locates_ofProject fun p hp => located_noOrphans hp

end Rules

end LookML
