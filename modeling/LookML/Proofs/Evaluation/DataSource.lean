import LookML.Proofs.Evaluation.Separation
import LookML.Proofs.Project.Properties
/-!
# Data sources

Whether a view has a table to read from is decided file by file, from the definition of the view
alone: it is reported if it declares neither a table nor bases. The merged view may have a table
from elsewhere, be it a refinement or a base, and the bases need not have one. So the report and the
merged view agree exactly if the definition declares a table itself, or has bases if and only if a
table is declared elsewhere.
-/

namespace LookML

open Extends

/-- Whether the block declares a table to read from. -/
def Block.DeclaresSource (b : Block) : Prop :=
  b.has "sql_table_name" ∨ b.has "derived_table"

/-- Whether the merged view has a table to read from. -/
def Entity.HasSource (e : Entity) : Prop :=
  (e.get? "sql_table_name").isSome ∨ (e.get? "derived_table").isSome

instance (b : Block) : Decidable b.DeclaresSource :=
  inferInstanceAs (Decidable (_ ∨ _))

instance (e : Entity) : Decidable e.HasSource :=
  inferInstanceAs (Decidable (_ ∨ _))

/-- A table is declared in a refinement, or in a block of another entity to which this one leads
with no more links than the cap allows. -/
def Project.SourcedElsewhere (blocks : List Block) (p : Project) (e : Entity) : Prop :=
  (∃ r ∈ blocks.filter (Block.refines e.key), r.DeclaresSource) ∨
    ∃ x, x.key ≠ e.key ∧ LeadsWithin p.Links maxExtendsDepth e x ∧
      ∃ b ∈ Block.own blocks x.key, b.DeclaresSource

namespace Rules

open Project

variable {documents : List Document} {e : Entity} {b : Block} {key : EntityKey}

/-! ## What is reported -/

/-- Whether the definition says where the rows come from: from a table or from bases. -/
def accountsForSource (view : Block) : Bool :=
  view.has "extends" || view.has "sql_table_name" || view.has "derived_table"

/-- What is reported about a view that does not say where its rows come from. -/
def sourceFinding (view : Block) : Finding :=
  .ofView view s!"view '{view.nameOrEmpty}' has neither sql_table_name nor derived_table"

/-- Whether the rule reports something about the view. -/
def Reported (p : Project) (e : Entity) : Prop :=
  ∃ f ∈ dataSource.findings p, f.entity = some e.qualified

instance (p : Project) (e : Entity) : Decidable (Reported p e) :=
  inferInstanceAs (Decidable (∃ f ∈ dataSource.findings p, f.entity = some e.qualified))

def isReported (b : Block) : Bool :=
  b.kind = .view && !isRefinement b &&
    (b.text? "extension" ≠ some "required" && !accountsForSource b)

theorem findings_dataSource [ComponentFinder] (documents : List Document) :
    dataSource.findings (build documents).1 =
      ((documents.flatMap Document.blocks).filter isReported).map sourceFinding := by
  have hfile : ∀ d, dataSourceFindings d = (d.blocks.filter isReported).map sourceFinding := by
    intro d
    unfold dataSourceFindings concreteViews definedViews Document.views
    rw [List.filter_filter, List.filter_filter, List.filter_filter]
    congr 1
    apply List.filter_congr
    intro b _
    simp only [isReported, accountsForSource]
    grind
  rw [dataSource, Rule.findings_ofFile, List.filter_flatMap, List.map_flatMap]
  exact List.flatMap_congr fun d _ => hfile d

theorem isRefinement_iff : isRefinement b = true ↔ b.nameOrEmpty.toList.head? = some '+' := by
  have hplus : "+".toList = ['+'] := rfl
  rw [isRefinement, Text.startsWith, hplus]
  cases b.nameOrEmpty.toList with
  | nil => exact iff_of_false Bool.false_ne_true nofun
  | cons c cs =>
    rw [List.head?_cons, Option.some.injEq]
    simpa [List.isPrefixOf] using eq_comm

theorem isDefinitionOf_iff (hkind : key.kind = .view) :
    b.IsDefinitionOf key ↔ (b.kind = .view ∧ isRefinement b = false) ∧
      (sourceFinding b).entity = some key.qualified := by
  have hview : EntityKind.ofBlockKind? b.kind = some key.kind ↔ b.kind = .view := by
    rw [hkind]
    cases b.kind <;> simp [EntityKind.ofBlockKind?]
  have hname : (sourceFinding b).entity = some key.qualified ↔ b.name = some key.name.text := by
    have hentity : (sourceFinding b).entity = some ("view:" ++ b.nameOrEmpty) := rfl
    have hqualified : key.qualified = "view:" ++ key.name.text := by
      rw [EntityKey.qualified, hkind]
      rfl
    rw [hentity, hqualified, Option.some.injEq, String.append_right_inj, Block.nameOrEmpty]
    cases b.name with
    | none => simpa using key.name.text_ne.symm
    | some name => simp
  rw [hname, ← Bool.not_eq_true, isRefinement_iff]
  constructor
  · intro h
    have hsame : b.nameOrEmpty = key.name.text := by rw [Block.nameOrEmpty, h.name]; rfl
    exact ⟨⟨hview.1 h.kind, hsame ▸ h.plain⟩, h.name⟩
  · rintro ⟨⟨hkind, hplain⟩, hname⟩
    have hsame : b.nameOrEmpty = key.name.text := by rw [Block.nameOrEmpty, hname]; rfl
    exact ⟨hview.2 hkind, hname, hsame ▸ hplain⟩

theorem findings_of_defined [ComponentFinder] (hkind : key.kind = .view)
    (hdefined : (documents.flatMap Document.blocks).filter (Block.defines key) = [b])
    (hconcrete : b.text? "extension" ≠ some "required") :
    (dataSource.findings (build documents).1).filter (·.entity = some key.qualified) =
      if accountsForSource b then [] else [sourceFinding b] := by
  -- What is reported under the name of the key are blocks that define the key, and only `b` does.
  calc
    _ = (((documents.flatMap Document.blocks).filter (Block.defines key)).filter fun c =>
        c.text? "extension" ≠ some "required" && !accountsForSource c).map sourceFinding := by
      rw [findings_dataSource, List.filter_map, List.filter_filter, List.filter_filter]
      congr 1
      apply List.filter_congr
      intro c _
      rw [Bool.eq_iff_iff]
      simp only [Function.comp_apply, isReported, Bool.and_eq_true, decide_eq_true_eq,
        Bool.not_eq_true', Block.defines_iff, isDefinitionOf_iff hkind]
      tauto
    _ = _ := by
      rw [hdefined]
      cases h : accountsForSource b <;> simp [hconcrete, h]

/-! ## What the merged view has -/

theorem own_eq_cons {blocks : List Block} (hdefined : blocks.filter (Block.defines key) = [b]) :
    Block.own blocks key = b :: blocks.filter (Block.refines key) := by
  rw [Block.own, ← List.head?_filter, hdefined]
  rfl

/-- A merged view has a table if a block that is near enough declares one. -/
theorem hasSource_iff_leadsWithin [ComponentFinder] (he : e ∈ (build documents).1.entities) :
    e.HasSource ↔ ∃ x, LeadsWithin (build documents).1.Links maxExtendsDepth e x ∧
      ∃ b ∈ Block.own (documents.flatMap Document.blocks) x.key, b.DeclaresSource := by
  simp only [Entity.HasSource, Entity.get?, Option.isSome_map, Block.DeclaresSource,
    isSome_property?_iff he (show "sql_table_name" ∉ Layer.ownProperties by decide),
    isSome_property?_iff he (show "derived_table" ∉ Layer.ownProperties by decide),
    Block.OwnHas, ← exists_or, ← and_or_left]

theorem hasSource_iff [ComponentFinder] (he : e ∈ (build documents).1.entities)
    (hdefined : (documents.flatMap Document.blocks).filter (Block.defines e.key) = [b]) :
    e.HasSource ↔ b.DeclaresSource ∨
      (build documents).1.SourcedElsewhere (documents.flatMap Document.blocks) e := by
  rw [hasSource_iff_leadsWithin he]
  constructor
  · rintro ⟨x, hreach, c, hc, hsource⟩
    -- A chain may lead back to the entity, whose own blocks are no place elsewhere.
    by_cases hkey : x.key = e.key
    · rw [hkey, own_eq_cons hdefined] at hc
      rcases List.mem_cons.1 hc with rfl | hrefines
      · exact .inl hsource
      · exact .inr (.inl ⟨c, hrefines, hsource⟩)
    · exact .inr (.inr ⟨x, hkey, hreach, c, hc, hsource⟩)
  · rintro (hsource | ⟨r, hrefines, hsource⟩ | ⟨x, _, hreach, hsource⟩)
    · exact ⟨e, .refl, b, own_eq_cons hdefined ▸ List.mem_cons_self, hsource⟩
    · exact ⟨e, .refl, r, own_eq_cons hdefined ▸ List.mem_cons_of_mem b hrefines, hsource⟩
    · exact ⟨x, hreach, hsource⟩

/-- A view that neither extends anything nor has a table from a refinement has none from
elsewhere. -/
theorem not_sourcedElsewhere [ComponentFinder] (he : e ∈ (build documents).1.entities)
    (hextends : ¬ Block.OwnHas (documents.flatMap Document.blocks) e.key "extends")
    (hrefined : ∀ r ∈ (documents.flatMap Document.blocks).filter (Block.refines e.key),
      ¬ r.DeclaresSource) :
    ¬ (build documents).1.SourcedElsewhere (documents.flatMap Document.blocks) e := by
  rintro (⟨r, hr, hsource⟩ | ⟨x, hkey, hreach, _⟩)
  · exact hrefined r hr hsource
  · exact hkey (hreach.eq_of_forall_not (not_links_of_not_extends he hextends) ▸ rfl)

/-! ## Main statement -/

/-- What the rule reports about a view with the given definition, and what the merged view has. -/
structure SourceReport (blocks : List Block) (p : Project) (e : Entity) (b : Block) : Prop where
  /-- once, and by what the definition says, whatever else makes up the view -/
  report : (dataSource.findings p).filter (·.entity = some e.qualified) =
    if accountsForSource b then [] else [sourceFinding b]
  source : e.HasSource ↔ b.DeclaresSource ∨ p.SourcedElsewhere blocks e
  agrees_iff : (Reported p e ↔ ¬ e.HasSource) ↔
    b.DeclaresSource ∨ (b.has "extends" ↔ p.SourcedElsewhere blocks e)
  /-- in particular where nothing is extended and no refinement declares a table -/
  agrees : ¬ Block.OwnHas blocks e.key "extends" →
    (∀ r ∈ blocks.filter (Block.refines e.key), ¬ r.DeclaresSource) →
    (Reported p e ↔ ¬ e.HasSource)

theorem reported_iff_filter_ne_nil {p : Project} :
    Reported p e ↔ (dataSource.findings p).filter (·.entity = some e.qualified) ≠ [] := by
  rw [Reported, ne_eq, List.filter_eq_nil_iff]
  simp

theorem accountsForSource_iff :
    accountsForSource b = true ↔ b.has "extends" ∨ b.DeclaresSource := by
  simp only [accountsForSource, Block.DeclaresSource, Bool.or_eq_true, or_assoc]

/-- A view that is defined once and is no template is reported by its definition alone, which
agrees with the merged view exactly if the definition declares a table, or has bases if and only if
a table is declared elsewhere. -/
theorem dataSource_reports [ComponentFinder] (hkind : key.kind = .view)
    (hdefined : (documents.flatMap Document.blocks).filter (Block.defines key) = [b])
    (hconcrete : b.text? "extension" ≠ some "required") :
    ∃ e, (build documents).1.view? key.name.text = some e ∧
      SourceReport (documents.flatMap Document.blocks) (build documents).1 e b := by
  have hb : b ∈ (documents.flatMap Document.blocks).filter (Block.defines key) :=
    hdefined ▸ List.mem_singleton_self b
  obtain ⟨hmem, hdefines⟩ := List.mem_filter.1 hb
  obtain ⟨e, hfound⟩ := exists_entity_of_isDefinitionOf ⟨b, hmem, Block.defines_iff.1 hdefines⟩
  obtain ⟨he, hkind', hname⟩ := (entity?_eq_some_iff documents _ _ _).1 hfound
  obtain rfl : e.key = key := Definition.eq_key_iff.2 ⟨hkind', hname⟩
  have hreport := findings_of_defined hkind hdefined hconcrete
  have hsource := hasSource_iff he hdefined
  have hreported : Reported (build documents).1 e ↔ ¬ (b.has "extends" ∨ b.DeclaresSource) := by
    have hfilter := reported_iff_filter_ne_nil (p := (build documents).1) (e := e)
    rw [Entity.qualified, hreport] at hfilter
    rw [hfilter, ← accountsForSource_iff]
    cases accountsForSource b <;> simp
  have hagrees : (Reported (build documents).1 e ↔ ¬ e.HasSource) ↔ b.DeclaresSource ∨
      (b.has "extends" ↔
        (build documents).1.SourcedElsewhere (documents.flatMap Document.blocks) e) := by
    -- If the definition declares a table, both sides know of it, whatever else there is.
    rw [hreported, hsource, not_iff_not]
    by_cases hdeclares : b.DeclaresSource <;> simp [hdeclares]
  refine ⟨e, by rw [view?, ← hkind]; exact hfound, hreport, hsource, hagrees, ?_⟩
  intro hextends hrefined
  have hnone := not_sourcedElsewhere he hextends hrefined
  refine hagrees.2 (.inr (iff_of_false ?_ hnone))
  exact fun h => hextends ⟨b, own_eq_cons hdefined ▸ List.mem_cons_self, h⟩

/-- A view `a` that extends one without a table, and a view `c` whose refinement declares one. -/
def borrowing : List Document :=
  let span := fun line column endColumn => Location.mk "a.lkml" line column line endColumn
  [⟨"a.lkml", [],
    [.mk .view (some "b") [] [] (span 1 1 11),
      .mk .view (some "a") [.mk "extends" (.list [.text "b"]) (span 2 11 23)] [] (span 2 1 25),
      .mk .view (some "c") [] [] (span 3 1 11),
      .mk .view (some "+c") [.mk "sql_table_name" (.text "t") (span 4 12 32)] [] (span 4 1 34)]⟩]

theorem dataSource_reports_borrowing :
    ∃ b, (borrowing.flatMap Document.blocks).filter (Block.defines ⟨.view, "c", by decide⟩) = [b] ∧
      b.text? "extension" ≠ some "required" ∧
      ∃ e, (build borrowing).1.view? "c" = some e ∧
        SourceReport (borrowing.flatMap Document.blocks) (build borrowing).1 e b := by
  have hdefined : ((borrowing.flatMap Document.blocks).filter
      (Block.defines ⟨.view, "c", by decide⟩)).length = 1 := by
    decide +kernel
  obtain ⟨b, hb⟩ := List.length_eq_one_iff.1 hdefined
  have hconcrete : ∀ b ∈ borrowing.flatMap Document.blocks,
      b.text? "extension" ≠ some "required" := by
    decide +kernel
  have hmem : b ∈ borrowing.flatMap Document.blocks :=
    (List.mem_filter.1 (hb ▸ List.mem_singleton_self b)).1
  exact ⟨b, hb, hconcrete b hmem, dataSource_reports rfl hb (hconcrete b hmem)⟩

/-- The view `a` has no table and goes unreported; `c` is reported and has one. -/
theorem disagrees_borrowing :
    ∃ a ∈ (build borrowing).1.views, ∃ c ∈ (build borrowing).1.views,
      (∀ e ∈ [a, c],
        ((borrowing.flatMap Document.blocks).filter (Block.defines e.key)).length = 1 ∧
          ∀ b ∈ Block.own (borrowing.flatMap Document.blocks) e.key,
            b.text? "extension" ≠ some "required") ∧
      (¬ Reported (build borrowing).1 a ∧ ¬ a.HasSource) ∧
      (Reported (build borrowing).1 c ∧ c.HasSource) := by
  decide +kernel

end Rules

end LookML
