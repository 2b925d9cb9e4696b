import LookML.Library
import LookML.Proofs.Extends.Inheritance
import LookML.Proofs.Layer.Block
import LookML.Proofs.Project.Entities
/-!
# The inheritance equation

Where every chain of linked bases is merged to its end, an entity is determined member by member
and property by property: its own blocks decide if they say anything, the last refinement first,
and otherwise the last of its bases that has something to pass on.
-/

namespace LookML

/-- What the blocks of a view or explore say themselves: the last refinement that has an answer
gives it, or else the definition that counts. -/
def Block.own? {β : Type} (blocks : List Block) (key : EntityKey) (answer : Block → Option β) :
    Option β :=
  ((blocks.filter (refines key)).reverse.findSome? answer).or
    ((blocks.find? (defines key)).bind answer)

theorem Block.own?_map {β γ : Type} (blocks : List Block) (key : EntityKey)
    (answer : Block → Option β) (g : β → γ) :
    own? blocks key (fun b => (answer b).map g) = (own? blocks key answer).map g := by
  unfold own?
  rw [Option.map_or, List.map_findSome?, Option.map_bind]
  rfl

namespace Definition

theorem distinct_layer {blocks : List Block} {d : Definition} (hd : d ∈ (collect blocks).1) :
    d.layer.Distinct := by
  obtain ⟨b, _, hlayer⟩ := exists_layer_eq hd
  rw [hlayer]
  exact (Layer.distinct_ofBlock _ b).foldl_overlay _

theorem lookup_layer {β : Type} {f : Layer → Option β} (hf : Layer.Lookup f)
    {blocks : List Block} {d : Definition} (hd : d ∈ (collect blocks).1)
    {answer : Block → Option β} (h : ∀ b, f (Layer.ofBlock d.key.name b).1 = answer b) :
    f d.layer = Block.own? blocks d.key answer := by
  obtain ⟨b, hfind, hlayer⟩ := exists_layer_eq hd
  have hdistinct : ∀ top ∈ (blocks.filter (Block.refines d.key)).map fun r =>
      (Layer.ofBlock d.key.name r).1, top.Distinct := by
    intro top htop
    obtain ⟨r, _, rfl⟩ := List.mem_map.1 htop
    exact Layer.distinct_ofBlock _ r
  rw [hlayer, hf.foldl_overlay hdistinct, ← List.map_reverse, List.findSome?_map, h b]
  simp only [Block.own?, hfind, Option.bind_some, Function.comp_def, h]

end Definition

/-- The four lists of an entity as a layer. -/
def Entity.layer (e : Entity) : Layer :=
  ⟨e.properties, e.fields, e.joins, e.others⟩

namespace Project

open Extends

/-- No chain of linked bases from the entity has more than `n` links, as it would if it led into a
cycle. -/
def ChainsWithin (p : Project) (n : Nat) (e : Entity) : Prop :=
  ∀ chain, List.IsChain p.Links (e :: chain) → chain.length ≤ n

/-- The entity is what its own blocks and the merged entities of its bases make it. -/
structure Inherits (blocks : List Block) (p : Project) (e : Entity) : Prop where
  /-- a field's declaration, with its kind and location, and who made it -/
  field : ∀ name, (e.field? name).map Member.declared =
    ((Block.own? blocks e.key (·.lastField? name)).map (·, e.key.name)).or
      ((p.linkedBases e).reverse.findSome? fun b => (b.field? name).map Member.declared)
  /-- a join's declaration and who made it -/
  join : ∀ name, (e.join? name).map Member.declared =
    ((Block.own? blocks e.key (·.lastJoin? name)).map (·, e.key.name)).or
      ((p.linkedBases e).reverse.findSome? fun b => (b.join? name).map Member.declared)
  /-- any other child, by kind and name -/
  other : ∀ key, e.others.find? (Layer.otherKey · = key) =
    (Block.own? blocks e.key (·.lastOther? key)).or
      ((p.linkedBases e).reverse.findSome? fun b => b.others.find? (Layer.otherKey · = key))
  /-- all occurrences of a property -/
  property : ∀ name, Property.all? e.properties name =
    (Block.own? blocks e.key (Property.all? ·.properties name)).or
      (if name ∈ ["extends", "extension"] then none
      else (p.linkedBases e).reverse.findSome? fun b => Property.all? b.properties name)
  fields_nodup : (e.fields.map Member.name).Nodup
  joins_nodup : (e.joins.map Member.name).Nodup
  others_nodup : (e.others.map Layer.otherKey).Nodup

/-! ## From entities to nodes -/

variable {documents : List Document} {id : Nat} {e : Entity}

theorem exists_entity_of_link [ComponentFinder] {b : Nat}
    (hlink : Link (Definition.nodes (definitions documents)) id b)
    (he : (build documents).1.entities[id]? = some e) :
    ∃ e', (build documents).1.entities[b]? = some e' ∧ (build documents).1.Links e e' := by
  have hedge := (Definition.link_nodes_iff _ id b).1 hlink
  obtain ⟨node, hnode, hb⟩ := hlink
  obtain ⟨base, hbase⟩ := (Definition.consistent_nodes _).exists_base hnode hb
  rw [Definition.getElem?_nodes, Option.map_eq_some_iff] at hbase
  obtain ⟨d', hd', _⟩ := hbase
  rw [getElem?_entities, Option.map_eq_some_iff] at he
  obtain ⟨d, hd, rfl⟩ := he
  refine ⟨_, by rw [getElem?_entities, hd']; rfl, ?_⟩
  rw [Links, linkedBases_build hd]
  exact List.mem_filterMap.2 ⟨b, hedge, by rw [getElem?_entities, hd']; rfl⟩

theorem distinct_own [ComponentFinder] {node : Node}
    (hnode : (Definition.nodes (definitions documents))[id]? = some node) :
    node.own.Distinct := by
  rw [Definition.getElem?_nodes, Option.map_eq_some_iff] at hnode
  obtain ⟨d, hd, rfl⟩ := hnode
  exact Definition.distinct_layer (List.mem_of_getElem? hd)

/-- What holds of the content of every definition, and of layers put on one another and passed on,
holds of what a definition is merged to. -/
theorem forall_mergedAt [ComponentFinder] {P : Layer → Prop} (hempty : P .empty)
    (hoverlay : ∀ {bottom top : Layer}, P bottom → P top → P (bottom.overlay top))
    (hbequeath : ∀ {base : Layer}, P base → ∀ heir, P (base.bequeath heir))
    (hown : ∀ d ∈ definitions documents, P d.layer) {d : Definition}
    (hd : (definitions documents)[id]? = some d) :
    P (Definition.mergedAt (definitions documents) id d).layer := by
  apply forall_mergeAfresh hempty hoverlay hbequeath
  · intro id node hnode
    rw [Definition.getElem?_nodes, Option.map_eq_some_iff] at hnode
    obtain ⟨d', hd', rfl⟩ := hnode
    exact hown d' (List.mem_of_getElem? hd')
  · exact Definition.getElem?_nodes_of_getElem? hd

theorem ChainsWithin.nodes [ComponentFinder] {n : Nat} (h : (build documents).1.ChainsWithin n e)
    (he : (build documents).1.entities[id]? = some e) :
    ChainsFit (Definition.nodes (definitions documents)) n id := by
  have hmap : ∀ (chain : List Nat) (id : Nat) (e : Entity),
      (build documents).1.entities[id]? = some e →
      List.IsChain (Link (Definition.nodes (definitions documents))) (id :: chain) →
      ∃ es, es.length = chain.length ∧ List.IsChain (build documents).1.Links (e :: es) := by
    intro chain
    induction chain with
    | nil => exact fun _ e _ _ => ⟨[], rfl, .singleton e⟩
    | cons b chain ih =>
      intro id e he hchain
      obtain ⟨hlink, hrest⟩ := List.isChain_cons_cons.1 hchain
      obtain ⟨e', he', hlinks⟩ := exists_entity_of_link hlink he
      obtain ⟨es, hlength, hes⟩ := ih b e' he' hrest
      exact ⟨e' :: es, by simp [hlength], List.isChain_cons_cons.2 ⟨hlinks, hes⟩⟩
  intro chain hchain
  obtain ⟨es, hlength, hes⟩ := hmap chain id e he hchain
  exact hlength ▸ h es hes

/-- Whatever is asked of an entity, its own blocks answer, or else the last of its bases that has
an answer to pass on. -/
theorem lookup_entity [ComponentFinder] {β : Type} {f g : Layer → Option β} (hf : Layer.Lookup f)
    (hg : ∀ (base : Layer) (heir : EntityName), f (base.bequeath heir) = g base)
    {answer : Block → Option β} (hblock : ∀ b, f (Layer.ofBlock e.key.name b).1 = answer b)
    (he : e ∈ (build documents).1.entities)
    (hfits : (build documents).1.ChainsWithin maxExtendsDepth e) :
    f e.layer = (Block.own? (documents.flatMap Document.blocks) e.key answer).or
      (((build documents).1.linkedBases e).reverse.findSome? fun b => g b.layer) := by
  obtain ⟨id, hid⟩ := List.mem_iff_getElem?.1 he
  have hchains := hfits.nodes hid
  rw [getElem?_entities, Option.map_eq_some_iff] at hid
  obtain ⟨d, hd, rfl⟩ := hid
  have hmem : d ∈ (Definition.collect (documents.flatMap Document.blocks)).1 :=
    List.mem_of_getElem? hd
  have hlayer := hchains.lookup_layer hf hg (Definition.consistent_nodes _)
    (Definition.getElem?_nodes_of_getElem? hd) (Definition.distinct_layer hmem)
  rw [linkedBases_build hd, findSome?_reverse_filterMap]
  refine hlayer.trans ?_
  congr 1
  · exact Definition.lookup_layer hf hmem hblock
  · congr 1
    funext b
    rw [Definition.getElem?_nodes, getElem?_entities, Option.bind_map, Option.bind_map]
    rfl

theorem distinct_layer_of_mem [ComponentFinder] (he : e ∈ (build documents).1.entities) :
    e.layer.Distinct := by
  obtain ⟨id, hid⟩ := List.mem_iff_getElem?.1 he
  rw [getElem?_entities, Option.map_eq_some_iff] at hid
  obtain ⟨d, _, rfl⟩ := hid
  exact distinct_mergeAfresh (Definition.nodes (definitions documents)) maxExtendsDepth []
    (d.toNode (definitions documents) (Definition.graph (definitions documents)) id) id

/-! ## Main statement -/

theorem inherits_of_chainsWithin [ComponentFinder] (he : e ∈ (build documents).1.entities)
    (hfits : (build documents).1.ChainsWithin maxExtendsDepth e) :
    Inherits (documents.flatMap Document.blocks) (build documents).1 e := by
  have hdistinct : e.layer.Distinct := by
    obtain ⟨id, hid⟩ := List.mem_iff_getElem?.1 he
    rw [getElem?_entities, Option.map_eq_some_iff] at hid
    obtain ⟨d, _, rfl⟩ := hid
    exact distinct_mergeAfresh (Definition.nodes (definitions documents)) maxExtendsDepth []
      (d.toNode (definitions documents) (Definition.graph (definitions documents)) id) id
  constructor
  · intro name
    rw [← Block.own?_map]
    exact lookup_entity (Layer.lookup_fieldOf name) (Layer.fieldOf_bequeath name)
      (Layer.fieldOf_ofBlock name e.key.name) he hfits
  · intro name
    rw [← Block.own?_map]
    exact lookup_entity (Layer.lookup_joinOf name) (Layer.joinOf_bequeath name)
      (Layer.joinOf_ofBlock name e.key.name) he hfits
  · intro key
    exact lookup_entity (Layer.lookup_otherOf key) (Layer.otherOf_bequeath key)
      (Layer.otherOf_ofBlock key e.key.name) he hfits
  · intro name
    have h := lookup_entity (Layer.lookup_propertiesOf name) (Layer.propertiesOf_bequeath name)
      (Layer.propertiesOf_ofBlock name e.key.name) he hfits
    rw [Layer.ownProperties] at h
    by_cases hname : name ∈ ["extends", "extension"]
    · rw [if_pos hname]
      have hnone : ((build documents).1.linkedBases e).reverse.findSome?
          (fun _ => (none : Option (List Property))) = none :=
        List.findSome?_eq_none_iff.2 fun _ _ => rfl
      simp only [if_pos hname, hnone] at h
      exact h
    · rw [if_neg hname]
      simp only [if_neg hname] at h
      exact h
  · exact hdistinct.fields
  · exact hdistinct.joins
  · exact hdistinct.others

def heirBeforeBase : List Document :=
  let l := Location.wholeFile "f"
  let dimension := fun name => Block.mk .dimension (some name) [] [] l
  [⟨"f", [],
    [.mk .view (some "b") [.mk "extends" (.list [.text "a"]) l] [dimension "x"] l,
      .mk .view (some "+a") [] [dimension "y"] l,
      .mk .view (some "a") [] [dimension "x"] l]⟩]

theorem inherits_heirBeforeBase :
    ∃ e ∈ (build heirBeforeBase).1.entities, e.key.name.text = "b" ∧
      (build heirBeforeBase).1.ChainsWithin maxExtendsDepth e ∧
      Inherits (heirBeforeBase.flatMap Document.blocks) (build heirBeforeBase).1 e := by
  obtain ⟨e, he⟩ : ∃ e, (build heirBeforeBase).1.entities.head? = some e :=
    Option.isSome_iff_exists.1 (by decide +kernel)
  have hname : (build heirBeforeBase).1.entities.head?.map (·.key.name.text) = some "b" := by
    decide +kernel
  have hbases : ((build heirBeforeBase).1.entities.head?.all fun e =>
      ((build heirBeforeBase).1.linkedBases e).all fun b =>
        ((build heirBeforeBase).1.linkedBases b).isEmpty) = true := by
    decide +kernel
  rw [he] at hname hbases
  have hfits : (build heirBeforeBase).1.ChainsWithin maxExtendsDepth e := by
    rintro (_ | ⟨b, _ | ⟨c, chain⟩⟩) hchain
    · exact Nat.zero_le _
    · exact Nat.succ_le_of_lt (Nat.zero_lt_succ _)
    · obtain ⟨hb, hrest⟩ := List.isChain_cons_cons.1 hchain
      obtain ⟨hc, _⟩ := List.isChain_cons_cons.1 hrest
      have hempty := List.all_eq_true.1 hbases b hb
      rw [List.isEmpty_iff] at hempty
      rw [Links, hempty] at hc
      cases hc
  have hmem : e ∈ (build heirBeforeBase).1.entities := List.mem_of_mem_head? he
  exact ⟨e, hmem, Option.some.inj hname, hfits, inherits_of_chainsWithin hmem hfits⟩

end Project

end LookML
