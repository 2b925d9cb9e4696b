import LookML.Proofs.Extends.Coverage
import LookML.Proofs.Project.Degradation
/-!
# Nothing is lost in the merge

Whatever the chains of bases look like, and even if they go round in circles, an entity whose
chains are not cut has the members that its own blocks declare and those that the blocks of the
entities it leads to declare, and no others.
-/

namespace LookML

open Relation Extends

namespace Block

/-- The blocks of a view or explore: the definition that counts and the refinements. -/
def own (blocks : List Block) (key : EntityKey) : List Block :=
  (blocks.find? (defines key)).toList ++ blocks.filter (refines key)

theorem isSome_own?_iff {β : Type} {blocks : List Block} {key : EntityKey}
    {answer : Block → Option β} :
    (own? blocks key answer).isSome ↔ ∃ b ∈ own blocks key, (answer b).isSome := by
  rw [own?, Option.isSome_or, Bool.or_eq_true, List.findSome?_isSome_iff, Option.isSome_bind,
    Option.any_eq_true]
  simp only [own, List.mem_reverse, List.mem_append, Option.mem_toList, or_and_right, exists_or]
  exact or_comm

theorem isSome_reverse_find?_iff {children : List Block} {declares : Block → Bool} :
    (children.reverse.find? declares).isSome ↔ ∃ c ∈ children, declares c := by
  simp only [List.find?_isSome, List.mem_reverse]

end Block

namespace Layer

variable {l : Layer} {name : String} {key : BlockKind × Option String}

theorem isSome_fieldOf_iff : (fieldOf name l).isSome ↔ name ∈ l.fields.map Member.name := by
  simp [fieldOf]

theorem isSome_joinOf_iff : (joinOf name l).isSome ↔ name ∈ l.joins.map Member.name := by
  simp [joinOf]

theorem isSome_otherOf_iff : (otherOf key l).isSome ↔ key ∈ l.others.map otherKey := by
  simp [otherOf]

theorem isSome_fieldOf_ofBlock_iff (owner : EntityName) (b : Block) :
    (fieldOf name (ofBlock owner b).1).isSome ↔ ∃ c ∈ b.children, c.declaresField name := by
  rw [fieldOf_ofBlock, Option.isSome_map]
  exact Block.isSome_reverse_find?_iff

theorem isSome_joinOf_ofBlock_iff (owner : EntityName) (b : Block) :
    (joinOf name (ofBlock owner b).1).isSome ↔ ∃ c ∈ b.children, c.declaresJoin name := by
  rw [joinOf_ofBlock, Option.isSome_map]
  exact Block.isSome_reverse_find?_iff

theorem isSome_otherOf_ofBlock_iff (owner : EntityName) (b : Block) :
    (otherOf key (ofBlock owner b).1).isSome ↔ ∃ c ∈ b.children, c.declaresOther key := by
  rw [otherOf_ofBlock]
  exact Block.isSome_reverse_find?_iff

end Layer

namespace Project

def LeadsToDeclaration (blocks : List Block) (p : Project) (e : Entity) (declares : Block → Bool) :
    Prop :=
  ∃ b, ReflTransGen p.Links e b ∧ ∃ block ∈ Block.own blocks b.key, ∃ c ∈ block.children, declares c

/-- The entity has what it leads to a declaration of, and nothing else. -/
structure Covers (blocks : List Block) (p : Project) (e : Entity) : Prop where
  field : ∀ name, name ∈ e.fields.map Member.name ↔
    p.LeadsToDeclaration blocks e (Block.declaresField name)
  join : ∀ name, name ∈ e.joins.map Member.name ↔
    p.LeadsToDeclaration blocks e (Block.declaresJoin name)
  /-- any other child, by kind and name -/
  other : ∀ key, key ∈ e.others.map Layer.otherKey ↔
    p.LeadsToDeclaration blocks e (Block.declaresOther key)

variable {documents : List Document} {e : Entity} {i : Nat} {d : Definition}

theorem truncated_eq_false_of_error [ComponentFinder] (hi : (definitions documents)[i]? = some d)
    (h : ∀ location, .extendsTooDeep d.key location ∉ (build documents).2) :
    (Definition.mergedAt (definitions documents) i d).truncated = false := by
  by_contra htruncated
  rw [Bool.not_eq_false] at htruncated
  have herror : .extendsTooDeep d.key d.location ∈ tooDeepErrors documents := by
    refine List.mem_filterMap.2 ⟨d, List.mem_of_getElem? hi, ?_⟩
    rw [Definition.mergedIn, Definition.placeOf_eq (nodup_keys_definitions documents) hi,
      Definition.tooDeepError?, if_pos htruncated]
  exact h d.location ((mem_errors_iff rfl).2 (Or.inr (Or.inr herror)))

/-- What the content of the definitions has to which a place leads, the blocks of the entities have
to which the entity at that place leads. -/
theorem exists_own_iff [ComponentFinder] {R : Nat → Nat → Prop} {S : Entity → Entity → Prop}
    {P : Layer → Prop} {Q : EntityKey → Prop}
    (hentity : ∀ {j : Nat}, R i j → ∃ b, (build documents).1.entities[j]? = some b ∧ S e b)
    (hplace : ∀ {b : Entity}, S e b → ∃ j, (build documents).1.entities[j]? = some b ∧ R i j)
    (hQ : ∀ d ∈ definitions documents, P d.layer ↔ Q d.key) :
    (∃ j node, R i j ∧ (Definition.nodes (definitions documents))[j]? = some node ∧ P node.own) ↔
      ∃ b, S e b ∧ Q b.key := by
  constructor
  · rintro ⟨j, node, hij, hj, hown⟩
    obtain ⟨b, hb, hreach⟩ := hentity hij
    obtain ⟨d, hd, rfl⟩ := exists_definition hb
    rw [Definition.getElem?_nodes_of_getElem? hd] at hj
    cases hj
    exact ⟨_, hreach, (hQ d (List.mem_of_getElem? hd)).1 hown⟩
  · rintro ⟨b, hreach, hown⟩
    obtain ⟨j, hj, hij⟩ := hplace hreach
    obtain ⟨d, hd, rfl⟩ := exists_definition hj
    exact ⟨j, _, hij, Definition.getElem?_nodes_of_getElem? hd,
      (hQ d (List.mem_of_getElem? hd)).2 hown⟩

theorem isSome_lookup_entity_iff [ComponentFinder] {β : Type} {f : Layer → Option β}
    (hf : Layer.Lookup f)
    (hg : ∀ (base : Layer) (heir : EntityName), f (base.bequeath heir) = f base)
    {declares : Block → Bool}
    (hblock : ∀ owner b, (f (Layer.ofBlock owner b).1).isSome ↔ ∃ c ∈ b.children, declares c)
    (he : e ∈ (build documents).1.entities)
    (hdeep : ∀ location, .extendsTooDeep e.key location ∉ (build documents).2) :
    (f e.layer).isSome ↔ (build documents).1.LeadsToDeclaration
      (documents.flatMap Document.blocks) e declares := by
  obtain ⟨i, hi⟩ := List.mem_iff_getElem?.1 he
  obtain ⟨d, hd, rfl⟩ := exists_definition hi
  have hlookup := isSome_lookup_iff hf hg distinct_own (Definition.getElem?_nodes_of_getElem? hd)
    (truncated_eq_false_of_error hd hdeep)
  refine hlookup.trans ?_
  rw [link_eq_edge]
  refine exists_own_iff (P := fun l => (f l).isSome = true) (Q := fun key =>
    ∃ block ∈ Block.own (documents.flatMap Document.blocks) key, ∃ c ∈ block.children, declares c)
    (exists_entity_of_reaches hi) (exists_place_of_reaches hi) ?_
  intro d hd
  rw [Definition.lookup_layer hf hd fun _ => rfl, Block.isSome_own?_iff]
  simp only [hblock]

/-! ## Main statement -/

theorem covers_of_not_tooDeep [ComponentFinder] (he : e ∈ (build documents).1.entities)
    (hdeep : ∀ location, .extendsTooDeep e.key location ∉ (build documents).2) :
    Covers (documents.flatMap Document.blocks) (build documents).1 e where
  field := by
    intro name
    rw [← isSome_lookup_entity_iff (Layer.lookup_fieldOf name) (Layer.fieldOf_bequeath name)
      Layer.isSome_fieldOf_ofBlock_iff he hdeep, Layer.isSome_fieldOf_iff]
    rfl
  join := by
    intro name
    rw [← isSome_lookup_entity_iff (Layer.lookup_joinOf name) (Layer.joinOf_bequeath name)
      Layer.isSome_joinOf_ofBlock_iff he hdeep, Layer.isSome_joinOf_iff]
    rfl
  other := by
    intro key
    rw [← isSome_lookup_entity_iff (Layer.lookup_otherOf key) (Layer.otherOf_bequeath key)
      Layer.isSome_otherOf_ofBlock_iff he hdeep, Layer.isSome_otherOf_iff]
    rfl

/-- Three views that extend one another in a circle, and a refinement of the last one. -/
def circle : List Document :=
  let l := Location.wholeFile "f"
  let view := fun name base field => Block.mk .view (some name)
    [.mk "extends" (.text base) l] [.mk .dimension (some field) [] [] l] l
  [⟨"f", [],
    [view "a" "b" "x", view "b" "c" "y", view "c" "a" "z",
      .mk .view (some "+c") [] [.mk .measure (some "w") [] [] l] l]⟩]

theorem covers_circle :
    ∃ e ∈ (build circle).1.entities, e.name = "a" ∧ e.resolution.isDegraded ∧
      (∀ location, .extendsTooDeep e.key location ∉ (build circle).2) ∧
      e.fields.map Member.name = ["z", "w", "y", "x"] ∧
      Covers (circle.flatMap Document.blocks) (build circle).1 e := by
  have hfirst : ((build circle).1.entities.head?.any fun e =>
      e.name = "a" && e.resolution.isDegraded &&
        e.fields.map Member.name = ["z", "w", "y", "x"]) = true := by
    decide +kernel
  have herrors : ((build circle).2.all (·.isCycle)) = true := by
    decide +kernel
  obtain ⟨e, he, hfound⟩ := (Option.any_eq_true _ _).1 hfirst
  simp only [Bool.and_eq_true, decide_eq_true_eq] at hfound
  obtain ⟨⟨hname, hdegraded⟩, hfields⟩ := hfound
  have hmem := List.mem_of_mem_head? he
  have hdeep : ∀ location, .extendsTooDeep e.key location ∉ (build circle).2 := by
    intro location herror
    cases List.all_eq_true.1 herrors _ herror
  exact ⟨e, hmem, hname, hdegraded, hdeep, hfields, covers_of_not_tooDeep hmem hdeep⟩

end Project

end LookML
