import LookML.Proofs.Project.BareWords
import LookML.Proofs.Project.Provenance
/-!
# Where properties come from

An entity has a property exactly if one of its own blocks declares it, or a block of an entity that
it leads to with no more links than the cap allows. Only what declares the bases, or a template, is
never passed on.
-/

namespace LookML

open Extends

theorem Property.isSome_all?_iff {properties : List Property} {name : String} :
    (all? properties name).isSome ↔ ∃ p ∈ properties, p.name = name := by
  have hall : (all? properties name).isSome ↔ occurrences properties name ≠ [] := by
    unfold all?
    cases occurrences properties name <;> simp
  rw [hall, occurrences, ne_eq, List.filter_eq_nil_iff]
  simp

theorem Property.isSome_last?_iff {properties : List Property} {name : String} :
    (last? properties name).isSome ↔ ∃ p ∈ properties, p.name = name := by
  simp [last?]

namespace Block

/-- Whether one of the blocks of the view or explore declares the property. -/
def OwnHas (blocks : List Block) (key : EntityKey) (name : String) : Prop :=
  ∃ b ∈ own blocks key, b.has name

theorem isSome_all?_iff {b : Block} {name : String} :
    (Property.all? b.properties name).isSome ↔ b.has name := by
  rw [Property.isSome_all?_iff, has, property?, Property.isSome_last?_iff]

end Block

theorem Definition.isSome_propertiesOf_iff {blocks : List Block} {d : Definition}
    (hd : d ∈ (collect blocks).1) (name : String) :
    (d.layer.propertiesOf name).isSome ↔ Block.OwnHas blocks d.key name := by
  rw [lookup_layer (Layer.lookup_propertiesOf name) hd
    (Layer.propertiesOf_ofBlock name d.key.name), Block.isSome_own?_iff]
  simp only [Block.isSome_all?_iff, Block.OwnHas]

namespace Extends

/-- Where no step is possible, a chain leads nowhere else. -/
theorem LeadsWithin.eq_of_forall_not {α : Type} {r : α → α → Prop} {n : Nat} {a b : α}
    (h : LeadsWithin r n a b) (hnone : ∀ c, ¬ r a c) : b = a := by
  induction h with
  | refl => rfl
  | tail _ hr ih =>
    obtain rfl := ih hnone
    exact absurd hr (hnone _)

end Extends

namespace Project

variable {documents : List Document} {e : Entity} {name : String}

theorem isSome_property?_iff [ComponentFinder] (he : e ∈ (build documents).1.entities)
    (hname : name ∉ Layer.ownProperties) :
    (e.property? name).isSome ↔ ∃ b, LeadsWithin (build documents).1.Links maxExtendsDepth e b ∧
      Block.OwnHas (documents.flatMap Document.blocks) b.key name := by
  obtain ⟨i, hi⟩ := List.mem_iff_getElem?.1 he
  obtain ⟨d, hd, rfl⟩ := exists_definition hi
  have hbequeath : ∀ (base : Layer) (heir : EntityName),
      (base.bequeath heir).propertiesOf name = base.propertiesOf name := by
    intro base heir
    rw [Layer.propertiesOf_bequeath, if_neg hname]
  have hlast : ∀ ps : List Property,
      (Property.last? ps name).isSome ↔ (Property.all? ps name).isSome :=
    fun _ => Property.isSome_last?_iff.trans Property.isSome_all?_iff.symm
  refine (hlast _).trans ?_
  exact gathers_mergedAt_iff
    (gathers_isSome (Layer.lookup_propertiesOf name) hbequeath distinct_own) hd
    (Q := fun key => Block.OwnHas (documents.flatMap Document.blocks) key name)
    fun _ hd => Definition.isSome_propertiesOf_iff hd name

theorem isSome_extends_iff [ComponentFinder] (he : e ∈ (build documents).1.entities) :
    (e.property? "extends").isSome ↔
      Block.OwnHas (documents.flatMap Document.blocks) e.key "extends" := by
  obtain ⟨i, hi⟩ := List.mem_iff_getElem?.1 he
  obtain ⟨d, hd, rfl⟩ := exists_definition hi
  rw [property?_extends_toEntity hd, Layer.extends?, Property.isSome_last?_iff,
    ← Property.isSome_all?_iff]
  exact Definition.isSome_propertiesOf_iff (List.mem_of_getElem? hd) "extends"

theorem not_links_of_not_extends [ComponentFinder] (he : e ∈ (build documents).1.entities)
    (h : ¬ Block.OwnHas (documents.flatMap Document.blocks) e.key "extends") (b : Entity) :
    ¬ (build documents).1.Links e b := by
  have hnone : e.property? "extends" = none := by
    rwa [← isSome_extends_iff he, Option.not_isSome_iff_eq_none] at h
  have hbases : e.bases = [] := by
    rw [bases_eq_filterMap he, Entity.declaredBases, Entity.get?, hnone]
    rfl
  rw [Links, linkedBases, hbases]
  exact List.not_mem_nil

end Project

end LookML
