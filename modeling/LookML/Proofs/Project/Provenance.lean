import LookML.Proofs.Definition.Fates
import LookML.Proofs.Extends.Provenance
import LookML.Proofs.Project.Coverage
/-!
# Where fields come from

The history of a field is kept under its qualified name. It holds the place of its declaration in
every block of its view and of the entities that the view leads to with no more links than the cap
allows. From each block it holds one place only: that of the last declaration, not of one that is
repeated within the block. Whatever else has the same qualified name is kept under it as well.
-/

namespace LookML

open Extends

namespace Layer

theorem mem_fieldTrail_iff {l : Layer} (h : l.Distinct) {name : String} {place : Location} :
    place ∈ l.fieldTrail name ↔ ∃ f ∈ l.fields, f.name = name ∧ place ∈ f.trail := by
  have hfind : ∀ f, l.fields.find? (·.name = name) = some f ↔ f ∈ l.fields ∧ f.name = name :=
    fun f => Keyed.find?_eq_some_iff h.fields
  unfold fieldTrail trailIn
  constructor
  · intro hplace
    cases hname : l.fields.find? (·.name = name) with
    | none =>
      rw [hname] at hplace
      cases hplace
    | some f =>
      rw [hname] at hplace
      exact ⟨f, ((hfind f).1 hname).1, ((hfind f).1 hname).2, hplace⟩
  · rintro ⟨f, hf, hname, hplace⟩
    rw [(hfind f).2 ⟨hf, hname⟩]
    exact hplace

end Layer

namespace Block

/-- The place of a declaration of the view or explore itself, be it kept, repeated or a
refinement. -/
def EntityPlace (blocks : List Block) (key : EntityKey) (place : Location) : Prop :=
  ∃ b ∈ blocks, (b.IsDefinitionOf key ∨ b.IsRefinementOf key.kind key.name.text) ∧
    b.location = place

/-- The place of the last declaration of the field in some block of the view or explore. -/
def FieldPlace (blocks : List Block) (key : EntityKey) (name : String) (place : Location) : Prop :=
  ∃ b ∈ own blocks key, ∃ c, b.lastField? name = some c ∧ c.location = place

/-- The places of the children that `answer` picks in the blocks of the view or explore. -/
def places (answer : Block → Option Block) (blocks : List Block) (key : EntityKey) :
    List Location :=
  (own blocks key).flatMap fun b => (answer b).toList.map Block.location

end Block

namespace Definition

variable {blocks : List Block} {d : Definition} {place : Location}

theorem mem_ownPlaces_iff (hd : d ∈ (collect blocks).1) :
    place ∈ d.location :: (d.refinements ++ d.conflicts) ↔
      Block.EntityPlace blocks d.key place := by
  obtain ⟨b, bs, hdefine, heq⟩ := eq_assemble hd
  have hlocation : d.location = b.location := congrArg location heq
  have hrefinements : d.refinements = (blocks.filter (Block.refines d.key)).map Block.location :=
    congrArg refinements heq
  have hconflicts : d.conflicts = bs.map Block.location := congrArg conflicts heq
  have hdefinitions : ∀ c, c = b ∨ c ∈ bs ↔ c ∈ blocks ∧ c.IsDefinitionOf d.key := by
    intro c
    rw [← List.mem_cons, ← hdefine, List.mem_filter, Block.defines_iff]
  have hplaces : d.location :: (d.refinements ++ d.conflicts) =
      [b.location] ++ ((blocks.filter (Block.refines d.key)).map Block.location ++
        bs.map Block.location) := by
    rw [hlocation, hrefinements, hconflicts]
    rfl
  rw [hplaces]
  simp only [List.mem_append, List.mem_singleton, List.mem_map, List.mem_filter,
    Block.refines_iff]
  constructor
  · rintro (rfl | ⟨c, ⟨hc, hrefines⟩, rfl⟩ | ⟨c, hc, rfl⟩)
    · obtain ⟨hb, hdefines⟩ := (hdefinitions b).1 (.inl rfl)
      exact ⟨b, hb, .inl hdefines, rfl⟩
    · exact ⟨c, hc, .inr hrefines, rfl⟩
    · obtain ⟨hc, hdefines⟩ := (hdefinitions c).1 (.inr hc)
      exact ⟨c, hc, .inl hdefines, rfl⟩
  · rintro ⟨c, hc, hdefines | hrefines, rfl⟩
    · rcases (hdefinitions c).2 ⟨hc, hdefines⟩ with rfl | hrest
      · exact .inl rfl
      · exact .inr (.inr ⟨c, hrest, rfl⟩)
    · exact .inr (.inl ⟨c, ⟨hc, hrefines⟩, rfl⟩)

/-- The trail of a definition goes through its blocks, the definition that counts first. -/
theorem trail_layer {f : Layer → List Location} (hf : Layer.Trail f)
    {answer : Block → Option Block} (hd : d ∈ (collect blocks).1)
    (hblock : ∀ b, f (Layer.ofBlock d.key.name b).1 = (answer b).toList.map Block.location) :
    f d.layer = Block.places answer blocks d.key := by
  obtain ⟨b, hfind, hlayer⟩ := exists_layer_eq hd
  have hdistinct : ∀ top ∈ (blocks.filter (Block.refines d.key)).map fun r =>
      (Layer.ofBlock d.key.name r).1, top.Distinct := by
    intro top htop
    obtain ⟨r, _, rfl⟩ := List.mem_map.1 htop
    exact Layer.distinct_ofBlock _ r
  rw [hlayer, hf.foldl_overlay hdistinct, Layer.foldl_append_eq_flatten, List.map_map,
    ← List.flatMap_def, hblock, Block.places, Block.own, hfind]
  simp only [Function.comp_def, hblock, Option.toList_some, List.singleton_append,
    List.flatMap_cons]

theorem mem_fieldTrail_layer_iff (hd : d ∈ (collect blocks).1) (name : String) :
    place ∈ d.layer.fieldTrail name ↔ Block.FieldPlace blocks d.key name place := by
  rw [trail_layer (Layer.trail_fieldTrail name) hd (Layer.fieldTrail_ofBlock name d.key.name)]
  simp only [Block.places, List.mem_flatMap, List.mem_map, Option.mem_toList, Block.FieldPlace]

theorem allMembers_layer {P : Member → Prop} (hP : ∀ old m, P m → P (Member.replacing old m))
    (hd : d ∈ (collect blocks).1)
    (hblock : ∀ b ∈ blocks, (Layer.ofBlock d.key.name b).1.AllMembers P) : d.layer.AllMembers P := by
  obtain ⟨b, hfind, hlayer⟩ := exists_layer_eq hd
  rw [hlayer]
  apply Layer.allMembers_foldl_overlay hP _ (hblock b (List.mem_of_find?_eq_some hfind))
  intro top htop
  obtain ⟨r, hr, rfl⟩ := List.mem_map.1 htop
  exact hblock r (List.mem_filter.1 hr).1

theorem ownedBy_layer (hd : d ∈ (collect blocks).1) : d.layer.OwnedBy d.key.name :=
  allMembers_layer (fun _ _ h => h) hd fun _ _ => Layer.allMembers_ofBlock fun _ _ _ _ => rfl

theorem mem_contributions_iff (d : Definition) (m : Merged) (qualified : String) :
    (∃ c ∈ d.contributions m, c.1 = qualified ∧ place ∈ c.2) ↔
      (d.key.qualified = qualified ∧ place ∈ d.location :: (d.refinements ++ d.conflicts)) ∨
        (d.key.kind = .view ∧ ∃ f ∈ m.layer.fields, f.qualified = qualified ∧ place ∈ f.trail) := by
  unfold contributions
  cases d.key.kind <;> simp [Member.trail]

end Definition

namespace Project

/-- The place of the last declaration of the field in some block of the entity or of one that it
leads to with no more links than the cap allows. -/
def FieldPlace (blocks : List Block) (p : Project) (e : Entity) (name : String) (place : Location) :
    Prop :=
  ∃ b, LeadsWithin p.Links maxExtendsDepth e b ∧ Block.FieldPlace blocks b.key name place

variable {documents : List Document} {e v : Entity} {f : Member} {i j : Nat} {d : Definition}
  {place : Location}

/-! ## From places to entities -/

theorem exists_entity_of_leadsWithin [ComponentFinder] {n : Nat}
    (hi : (build documents).1.entities[i]? = some e)
    (h : LeadsWithin (baseGraph documents).Edge n i j) :
    ∃ b, (build documents).1.entities[j]? = some b ∧
      LeadsWithin (build documents).1.Links n e b := by
  induction h with
  | refl => exact ⟨e, hi, .refl⟩
  | tail _ hedge ih =>
    obtain ⟨b, hb, heb⟩ := ih hi
    obtain ⟨c, hc, hbc⟩ := exists_entity_of_edge hb hedge
    exact ⟨c, hc, heb.tail hbc⟩

theorem exists_place_of_leadsWithin [ComponentFinder] {n : Nat}
    (hi : (build documents).1.entities[i]? = some e)
    (h : LeadsWithin (build documents).1.Links n e v) :
    ∃ j, (build documents).1.entities[j]? = some v ∧
      LeadsWithin (baseGraph documents).Edge n i j := by
  induction h with
  | refl => exact ⟨i, hi, .refl⟩
  | tail _ hlinks ih =>
    obtain ⟨k, hk, hik⟩ := ih hi
    obtain ⟨j, hj, hkj⟩ := exists_edge_of_links hk hlinks
    exact ⟨j, hj, hik.tail hkj⟩

theorem gathers_mergedAt_iff [ComponentFinder] {P : Layer → Prop}
    (hP : Gathers (Definition.nodes (definitions documents)) P)
    (hi : (definitions documents)[i]? = some d) {Q : EntityKey → Prop}
    (hQ : ∀ d' ∈ definitions documents, P d'.layer ↔ Q d'.key) :
    P (Definition.mergedAt (definitions documents) i d).layer ↔
      ∃ b, LeadsWithin (build documents).1.Links maxExtendsDepth
        (d.toEntity (Definition.mergedAt (definitions documents) i d)) b ∧ Q b.key := by
  have he := getElem?_entities documents i
  rw [hi, Option.map_some] at he
  refine (hP.iff_leadsWithin (Definition.getElem?_nodes_of_getElem? hi)).trans ?_
  rw [link_eq_edge]
  exact exists_own_iff (exists_entity_of_leadsWithin he) (exists_place_of_leadsWithin he) hQ

/-! ## Fields -/

theorem mem_fieldTrail_mergedAt_iff [ComponentFinder] (hi : (definitions documents)[i]? = some d)
    (name : String) :
    place ∈ (Definition.mergedAt (definitions documents) i d).layer.fieldTrail name ↔
      FieldPlace (documents.flatMap Document.blocks) (build documents).1
        (d.toEntity (Definition.mergedAt (definitions documents) i d)) name place :=
  gathers_mergedAt_iff (gathers_mem_trail (Layer.trail_fieldTrail name) distinct_own place) hi
    (Q := fun key => Block.FieldPlace (documents.flatMap Document.blocks) key name place)
    fun _ hd => Definition.mem_fieldTrail_layer_iff hd name

theorem ownedBy_mergedAt [ComponentFinder] (hd : (definitions documents)[i]? = some d) :
    (Definition.mergedAt (definitions documents) i d).layer.OwnedBy d.key.name := by
  let node := d.toNode (definitions documents) (baseGraph documents) i
  have hown : node.own.OwnedBy node.name := Definition.ownedBy_layer (List.mem_of_getElem? hd)
  exact ownedBy_mergeAfresh maxExtendsDepth [] i hown

theorem qualified_field [ComponentFinder] (he : e ∈ (build documents).1.entities)
    (hf : f ∈ e.fields) :
    f.qualified = e.name ++ "." ++ f.name := by
  obtain ⟨i, hi⟩ := List.mem_iff_getElem?.1 he
  obtain ⟨d, hd, rfl⟩ := exists_definition hi
  have howner : f.owner = d.key.name := (ownedBy_mergedAt hd).fields f hf
  rw [Member.qualified, howner]
  rfl

theorem exists_field_iff [ComponentFinder] (he : e ∈ (build documents).1.entities) (name : String) :
    (∃ f ∈ e.fields, f.name = name ∧ place ∈ f.trail) ↔
      FieldPlace (documents.flatMap Document.blocks) (build documents).1 e name place := by
  obtain ⟨i, hi⟩ := List.mem_iff_getElem?.1 he
  obtain ⟨d, hd, rfl⟩ := exists_definition hi
  rw [← mem_fieldTrail_mergedAt_iff hd]
  exact (Layer.mem_fieldTrail_iff (distinct_mergeAfresh _ _ _ _ _)).symm

/-! ## Histories -/

theorem mem_provenance_iff_exists_contribution [ComponentFinder] (documents : List Document)
    (qualified : String) (place : Location) :
    place ∈ (build documents).1.provenance qualified ↔ ∃ d ∈ definitions documents,
      ∃ c ∈ d.contributions (Definition.mergedIn (definitions documents) d),
        c.1 = qualified ∧ place ∈ c.2 := by
  have hcontributions : (build documents).1.contributions =
      (Definition.mergeBases (definitions documents)).flatMap fun x => x.1.contributions x.2 := rfl
  rw [provenance, hcontributions,
    Definition.mergeBases_eq_map (nodup_keys_definitions documents), List.flatMap_map]
  simp only [List.mem_flatMap, List.mem_filter, decide_eq_true_eq]
  constructor
  · rintro ⟨c, ⟨⟨d, hd, hc⟩, hqualified⟩, hplace⟩
    exact ⟨d, hd, c, hc, hqualified, hplace⟩
  · rintro ⟨d, hd, c, hc, hqualified, hplace⟩
    exact ⟨c, ⟨⟨d, hd, hc⟩, hqualified⟩, hplace⟩

/-- What is kept under a qualified name: where the entity of that name is declared, and where the
field of that name is, whichever view it belongs to. -/
theorem mem_provenance_iff [ComponentFinder] (documents : List Document) (qualified : String)
    (place : Location) :
    place ∈ (build documents).1.provenance qualified ↔
      (∃ e ∈ (build documents).1.entities, e.qualified = qualified ∧
        Block.EntityPlace (documents.flatMap Document.blocks) e.key place) ∨
      ∃ v ∈ (build documents).1.views, ∃ name, v.name ++ "." ++ name = qualified ∧
        FieldPlace (documents.flatMap Document.blocks) (build documents).1 v name place := by
  simp only [mem_provenance_iff_exists_contribution, Definition.mem_contributions_iff]
  constructor
  · rintro ⟨d, hd, ⟨hqualified, hplace⟩ | ⟨hview, f, hf, hqualified, hplace⟩⟩
    · exact .inl ⟨_, toEntity_mem_entities hd, hqualified,
        (Definition.mem_ownPlaces_iff hd).1 hplace⟩
    · have he := toEntity_mem_entities hd
      refine .inr ⟨_, List.mem_filter.2 ⟨he, decide_eq_true hview⟩, f.name, ?_,
        (exists_field_iff he f.name).1 ⟨f, hf, rfl, hplace⟩⟩
      rw [← qualified_field he hf, hqualified]
  · rintro (⟨e, he, hqualified, hplace⟩ | ⟨v, hv, name, hqualified, hplace⟩)
    · rw [entities_build_eq_map, List.mem_map] at he
      obtain ⟨d, hd, rfl⟩ := he
      exact ⟨d, hd, .inl ⟨hqualified, (Definition.mem_ownPlaces_iff hd).2 hplace⟩⟩
    · obtain ⟨he, hview⟩ := List.mem_filter.1 hv
      obtain ⟨f, hf, rfl, htrail⟩ := (exists_field_iff he name).2 hplace
      rw [← qualified_field he hf] at hqualified
      rw [entities_build_eq_map, List.mem_map] at he
      obtain ⟨d, hd, rfl⟩ := he
      exact ⟨d, hd, .inr ⟨of_decide_eq_true hview, f, hf, hqualified, htrail⟩⟩

/-! ## Main statement -/

/-- The history of a field holds every place of the field; any other place in it is one of
something else with the same qualified name, of which there is nothing unless names hold dots and
colons. -/
structure KeepsHistory (blocks : List Block) (p : Project) (v : Entity) (f : Member) : Prop where
  complete : ∀ place, p.FieldPlace blocks v f.name place → place ∈ p.provenance f.qualified
  shared : ∀ place ∈ p.provenance f.qualified,
    (∃ e ∈ p.entities, e.qualified = f.qualified ∧ Block.EntityPlace blocks e.key place) ∨
      ∃ w ∈ p.views, ∃ name, w.name ++ "." ++ name = f.qualified ∧
        p.FieldPlace blocks w name place
  unmixed : (∀ w ∈ p.views, '.' ∉ w.name.toList) → ':' ∉ v.name.toList →
    ∀ place ∈ p.provenance f.qualified, p.FieldPlace blocks v f.name place

theorem takeWhile_before_dot {before : String} (h : '.' ∉ before.toList) (after : String) :
    (before ++ "." ++ after).toList.takeWhile (· ≠ '.') = before.toList := by
  have hletters : (before ++ "." ++ after).toList = before.toList ++ '.' :: after.toList := by
    simp
  have hbefore : ∀ c ∈ before.toList, decide (c ≠ '.') = true :=
    fun c hc => decide_eq_true fun heq => h (heq ▸ hc)
  rw [hletters, List.takeWhile_append_of_pos hbefore, List.takeWhile_cons_of_neg (by simp),
    List.append_nil]

theorem eq_of_append_dot {a b c d : String} (ha : '.' ∉ a.toList) (hc : '.' ∉ c.toList)
    (h : a ++ "." ++ b = c ++ "." ++ d) : a = c ∧ b = d := by
  have hbefore : a = c := by
    rw [← String.toList_inj, ← takeWhile_before_dot ha b, h, takeWhile_before_dot hc d]
  subst hbefore
  refine ⟨rfl, ?_⟩
  rw [← String.toList_inj] at h ⊢
  simpa using h

theorem colon_mem_of_qualified_eq (key : EntityKey) {view name : String}
    (hdot : '.' ∉ view.toList) (h : key.qualified = view ++ "." ++ name) : ':' ∈ view.toList := by
  have hprefix : ∀ c ∈ key.kind.word.toList ++ [':'], decide (c ≠ '.') = true := by
    cases key.kind <;> simp [EntityKind.word]
  rw [← takeWhile_before_dot hdot name, ← h, key.toList_qualified,
    List.takeWhile_append_of_pos hprefix]
  simp

/-- Under its qualified name every field keeps the place of its declaration in each block of its
view and of the entities that the view leads to, as far as the cap allows, and no other place that
the name does not account for. -/
theorem keepsHistory [ComponentFinder] (hv : v ∈ (build documents).1.views) (hf : f ∈ v.fields) :
    KeepsHistory (documents.flatMap Document.blocks) (build documents).1 v f := by
  have he : v ∈ (build documents).1.entities := (List.mem_filter.1 hv).1
  have hqualified := qualified_field he hf
  refine ⟨?complete, ?shared, ?unmixed⟩
  case complete =>
    intro place hplace
    exact (mem_provenance_iff documents f.qualified place).2
      (.inr ⟨v, hv, f.name, hqualified.symm, hplace⟩)
  case shared => exact fun place => (mem_provenance_iff documents f.qualified place).1
  case unmixed =>
    intro hdots hcolon place hplace
    rcases (mem_provenance_iff documents f.qualified place).1 hplace with
      ⟨e, _, hsame, _⟩ | ⟨w, hw, name, hsame, hplace⟩
    · rw [hqualified] at hsame
      exact absurd (colon_mem_of_qualified_eq e.key (hdots v hv) hsame) hcolon
    · rw [hqualified] at hsame
      obtain ⟨hname, rfl⟩ := eq_of_append_dot (hdots w hw) (hdots v hv) hsame
      have hkey : (w.kind, w.name) = (v.kind, v.name) := by
        rw [of_decide_eq_true (List.mem_filter.1 hw).2, of_decide_eq_true (List.mem_filter.1 hv).2,
          hname]
      obtain rfl := List.inj_on_of_nodup_map (nodup_entities documents)
        (List.mem_filter.1 hw).1 he hkey
      exact hplace

/-- A view that declares its field `x` twice, as its base and its refinement do once. -/
def repeating : List Document :=
  let span := fun line column endLine endColumn =>
    Location.mk "a.view.lkml" line column endLine endColumn
  let x := fun line => Block.mk .dimension (some "x") [] [] (span line 3 line 18)
  [⟨"a.view.lkml", [],
    [.mk .view (some "base") [] [x 2] (span 1 1 3 2),
      .mk .view (some "a") [.mk "extends" (.text "base") (span 5 3 5 16)] [x 6, x 7] (span 4 1 8 2),
      .mk .view (some "+a") [] [x 10] (span 9 1 11 2)]⟩]

theorem keepsHistory_repeating :
    ∃ v ∈ (build repeating).1.views, ∃ f ∈ v.fields, f.qualified = "a.x" ∧
      ((build repeating).1.provenance "a.x").map Location.line = [2, 7, 10] ∧
      KeepsHistory (repeating.flatMap Document.blocks) (build repeating).1 v f := by
  have hfield : ((build repeating).1.views.any fun v => v.fields.any (·.qualified = "a.x")) =
      true := by
    decide +kernel
  have hlines : ((build repeating).1.provenance "a.x").map Location.line = [2, 7, 10] := by
    decide +kernel
  obtain ⟨v, hv, hfield⟩ := List.any_eq_true.1 hfield
  obtain ⟨f, hf, hname⟩ := List.any_eq_true.1 hfield
  exact ⟨v, hv, f, hf, of_decide_eq_true hname, hlines, keepsHistory hv hf⟩

/-- The first of two declarations in one block is lost from the history of the field. -/
theorem declaration_lost_repeating :
    ∃ v ∈ (build repeating).1.views, ∃ f ∈ v.fields,
      ∃ b ∈ Block.own (repeating.flatMap Document.blocks) v.key, ∃ c ∈ b.children,
        c.declaresField f.name ∧ c.location ∉ (build repeating).1.provenance f.qualified := by
  have hlost : ((build repeating).1.views.any fun v => v.fields.any fun f =>
      (Block.own (repeating.flatMap Document.blocks) v.key).any fun b => b.children.any fun c =>
        c.declaresField f.name && c.location ∉ (build repeating).1.provenance f.qualified) =
      true := by
    decide +kernel
  simpa only [List.any_eq_true, Bool.and_eq_true, decide_eq_true_eq] using hlost

end Project

end LookML
