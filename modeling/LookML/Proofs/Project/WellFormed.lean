import LookML.Proofs.Project.Provenance
/-!
# What entities look like

Whatever the chains of bases look like, an entity has one member of each name. The member belongs to
the entity, is one that the blocks of the entity declare, or of one that the entity leads to, and
counts as inherited exactly if the blocks of the entity itself do not declare it.
-/

namespace LookML

open Relation Extends

namespace Block

/-- The last child that is a declaration of the given kind. -/
def last? (declares : Block → Bool) (b : Block) : Option Block :=
  b.children.reverse.find? declares

theorem declares_of_own? {blocks : List Block} {key : EntityKey} {declares : Block → Bool}
    {c : Block} (h : own? blocks key (last? declares) = some c) : declares c = true := by
  have hlast : ∀ b, last? declares b = some c → declares c = true :=
    fun b hb => List.find?_some hb
  rcases Option.or_eq_some_iff.1 h with hrefinement | ⟨_, hdefinition⟩
  · obtain ⟨b, _, hb⟩ := List.exists_of_findSome?_eq_some hrefinement
    exact hlast b hb
  · obtain ⟨b, _, hb⟩ := Option.bind_eq_some_iff.1 hdefinition
    exact hlast b hb

end Block

namespace Project

/-- What a member of an entity is, where `declares` tells the declarations of its name. -/
structure MemberOf (blocks : List Block) (p : Project) (e : Entity)
    (declares : String → Block → Bool) (m : Member) : Prop where
  owner : m.owner = e.key.name
  block : declares m.name m.block = true
  source : ∃ b ∈ p.entities, ReflTransGen p.Links e b ∧ b.kind = e.kind ∧
    b.key.name = m.declaredIn ∧
      Block.own? blocks b.key (Block.last? (declares m.name)) = some m.block
  /-- what the entity's own blocks say of that name -/
  own : Block.own? blocks e.key (Block.last? (declares m.name)) =
    if m.isInherited then none else some m.block

/-- The members of an entity have distinct names and are what they should be. -/
structure WellFormed (blocks : List Block) (p : Project) (e : Entity) : Prop where
  fields_nodup : (e.fields.map Member.name).Nodup
  joins_nodup : (e.joins.map Member.name).Nodup
  others_nodup : (e.others.map Layer.otherKey).Nodup
  fields : ∀ m ∈ e.fields, p.MemberOf blocks e Block.declaresField m
  joins : ∀ m ∈ e.joins, p.MemberOf blocks e Block.declaresJoin m

variable {documents : List Document} {e b : Entity} {m : Member}

theorem kind_of_links [ComponentFinder] (h : (build documents).1.Links e b) : b.kind = e.kind := by
  obtain ⟨base, _, hbase⟩ := List.mem_filterMap.1 h
  exact ((entity?_eq_some_iff documents e.kind base.text b).1 hbase).2.1

theorem kind_of_reaches [ComponentFinder] (h : ReflTransGen (build documents).1.Links e b) :
    b.kind = e.kind := by
  induction h with
  | refl => rfl
  | tail _ hlinks ih => exact (kind_of_links hlinks).trans ih

theorem mem_entities_of_reaches [ComponentFinder] (he : e ∈ (build documents).1.entities)
    (h : ReflTransGen (build documents).1.Links e b) : b ∈ (build documents).1.entities := by
  obtain ⟨i, hi⟩ := List.mem_iff_getElem?.1 he
  obtain ⟨j, hj, _⟩ := exists_place_of_reaches hi h
  exact List.mem_of_getElem? hj

theorem ownedBy_of_mem [ComponentFinder] (he : e ∈ (build documents).1.entities) :
    e.layer.OwnedBy e.key.name := by
  obtain ⟨i, hi⟩ := List.mem_iff_getElem?.1 he
  obtain ⟨d, hd, rfl⟩ := exists_definition hi
  exact ownedBy_mergedAt hd

theorem exists_merged [ComponentFinder] {i : Nat} (hi : (build documents).1.entities[i]? = some e) :
    ∃ d ∈ definitions documents, d.key = e.key ∧ ∃ node : Node, node.own = d.layer ∧
      (Definition.nodes (definitions documents))[i]? = some node ∧
        e.layer = (mergeAfresh (Definition.nodes (definitions documents)) maxExtendsDepth [] node
          i).layer := by
  obtain ⟨d, hd, rfl⟩ := exists_definition hi
  exact ⟨d, List.mem_of_getElem? hd, rfl, d.toNode (definitions documents) (baseGraph documents) i,
    rfl, Definition.getElem?_nodes_of_getElem? hd, rfl⟩

/-! ## Where a declaration comes from -/

section Declaration

variable {f : Layer → Option (Block × EntityName)} (hf : Layer.Lookup f)
  (hg : ∀ (base : Layer) (heir : EntityName), f (base.bequeath heir) = f base)
  {declares : Block → Bool}
  (hblock : ∀ owner b, f (Layer.ofBlock owner b).1 = (b.last? declares).map (·, owner))
include hf hblock

theorem lookup_definition {d : Definition} (hd : d ∈ definitions documents) :
    f d.layer = (Block.own? (documents.flatMap Document.blocks) d.key
      (Block.last? declares)).map (·, d.key.name) := by
  rw [Definition.lookup_layer hf hd (hblock d.key.name), Block.own?_map]

theorem lookup_of_own? [ComponentFinder] (he : e ∈ (build documents).1.entities) {c : Block}
    (h : Block.own? (documents.flatMap Document.blocks) e.key (Block.last? declares) = some c) :
    f e.layer = some (c, e.key.name) := by
  obtain ⟨i, hi⟩ := List.mem_iff_getElem?.1 he
  obtain ⟨d, hd, hkey, node, hown, hnode, hlayer⟩ := exists_merged hi
  rw [hlayer]
  apply lookup_of_own hf distinct_own hnode
  rw [hown, lookup_definition hf hblock hd, hkey, h]
  rfl

include hg in
theorem exists_source [ComponentFinder] (he : e ∈ (build documents).1.entities) {c : Block}
    {name : EntityName} (h : f e.layer = some (c, name)) :
    ∃ b, ReflTransGen (build documents).1.Links e b ∧ b.key.name = name ∧
      Block.own? (documents.flatMap Document.blocks) b.key (Block.last? declares) = some c := by
  obtain ⟨i, hi⟩ := List.mem_iff_getElem?.1 he
  obtain ⟨_, _, _, node, _, hnode, hlayer⟩ := exists_merged hi
  rw [hlayer] at h
  have hown := exists_own_of_lookup hf hg distinct_own hnode h
  rw [link_eq_edge] at hown
  refine (exists_own_iff (P := fun l => f l = some (c, name)) (Q := fun key => key.name = name ∧
    Block.own? (documents.flatMap Document.blocks) key (Block.last? declares) = some c)
    (exists_entity_of_reaches hi) (exists_place_of_reaches hi) ?_).1 hown
  intro d hd
  rw [lookup_definition hf hblock hd, Option.map_eq_some_iff]
  constructor
  · rintro ⟨_, hc, heq⟩
    cases heq
    exact ⟨rfl, hc⟩
  · rintro ⟨rfl, hc⟩
    exact ⟨c, hc, rfl⟩

end Declaration

theorem memberOf_of_lookup [ComponentFinder] {f : String → Layer → Option (Block × EntityName)}
    (hf : ∀ name, Layer.Lookup (f name))
    (hg : ∀ name (base : Layer) (heir : EntityName), f name (base.bequeath heir) = f name base)
    {declares : String → Block → Bool} (hblock : ∀ name owner b,
      f name (Layer.ofBlock owner b).1 = (b.last? (declares name)).map (·, owner))
    (he : e ∈ (build documents).1.entities) (howner : m.owner = e.key.name)
    (h : f m.name e.layer = some m.declared) :
    (build documents).1.MemberOf (documents.flatMap Document.blocks) e declares m := by
  obtain ⟨b, hreach, hname, hown⟩ :=
    exists_source (hf m.name) (hg m.name) (hblock m.name) he h
  refine ⟨howner, Block.declares_of_own? hown,
    ⟨b, mem_entities_of_reaches he hreach, hreach, kind_of_reaches hreach, hname, hown⟩, ?_⟩
  cases hanswer : Block.own? (documents.flatMap Document.blocks) e.key
    (Block.last? (declares m.name)) with
  | some c =>
    -- the entity's own declaration wins
    have hwins := lookup_of_own? (hf m.name) (hblock m.name) he hanswer
    obtain ⟨hc, hdeclared⟩ := Prod.mk.inj (Option.some.inj (h.symm.trans hwins))
    have hnot : m.isInherited = false := by
      simp [Member.isInherited, howner, hdeclared]
    rw [hnot, hc]
    rfl
  | none =>
    have hinherited : m.isInherited = true := by
      apply decide_eq_true
      intro hsame
      have hkey : b.key = e.key := Definition.eq_key_iff.2
        ⟨kind_of_reaches hreach, congrArg Identifier.text (hname.trans (hsame.trans howner))⟩
      rw [hkey, hanswer] at hown
      cases hown
    rw [hinherited]
    rfl

/-! ## Main statement -/

theorem wellFormed_of_mem [ComponentFinder] (he : e ∈ (build documents).1.entities) :
    (build documents).1.WellFormed (documents.flatMap Document.blocks) e := by
  have hdistinct := distinct_layer_of_mem he
  have howned := ownedBy_of_mem he
  refine ⟨hdistinct.fields, hdistinct.joins, hdistinct.others, fun m hm => ?_, fun m hm => ?_⟩
  · apply memberOf_of_lookup Layer.lookup_fieldOf Layer.fieldOf_bequeath Layer.fieldOf_ofBlock he
      (howned.fields m hm)
    rw [Layer.fieldOf, (Keyed.find?_eq_some_iff hdistinct.fields).2 ⟨hm, rfl⟩]
    rfl
  · apply memberOf_of_lookup Layer.lookup_joinOf Layer.joinOf_bequeath Layer.joinOf_ofBlock he
      (howned.joins m hm)
    rw [Layer.joinOf, (Keyed.find?_eq_some_iff hdistinct.joins).2 ⟨hm, rfl⟩]
    rfl

theorem wellFormed_circle :
    ∃ e ∈ (build circle).1.entities, e.name = "a" ∧
      e.fields.map (fun m => (m.name, m.isInherited)) =
        [("z", true), ("w", true), ("y", true), ("x", false)] ∧
      (build circle).1.WellFormed (circle.flatMap Document.blocks) e := by
  have hfirst : ((build circle).1.entities.head?.any fun e =>
      e.name = "a" && e.fields.map (fun m => (m.name, m.isInherited)) =
        [("z", true), ("w", true), ("y", true), ("x", false)]) = true := by
    decide +kernel
  obtain ⟨e, he, hfound⟩ := (Option.any_eq_true _ _).1 hfirst
  rw [Bool.and_eq_true, decide_eq_true_eq, decide_eq_true_eq] at hfound
  have hmem := List.mem_of_mem_head? he
  exact ⟨e, hmem, hfound.1, hfound.2, wellFormed_of_mem hmem⟩

end Project

end LookML
