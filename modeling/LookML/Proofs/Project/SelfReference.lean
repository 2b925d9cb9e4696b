import LookML.Proofs.Definition.SelfReference
import LookML.Proofs.Extends.Calls
import LookML.Proofs.Project.Provenance
/-!
# Entities that extend themselves

The walk over the bases comes back to an entity if the entity extends itself, and in no other case.
Taking such a reference out leaves every entity whose chains are not cut as it was, but for the
histories of its fields and joins, which hold nothing new.
-/

namespace LookML

open Extends

/-- The document without the references of the view or explore of the given key to itself. -/
def Document.withoutSelf (key : EntityKey) (d : Document) : Document :=
  { d with blocks := d.blocks.map (Block.withoutSelf key) }

def Member.withoutHistory (m : Member) : Member :=
  { m with overridden := [] }

theorem Keyed.map_eq_of_find?_eq {α κ β : Type} [DecidableEq κ] {key : α → κ} {xs ys : List α}
    (hkeys : xs.map key = ys.map key) (hxs : (xs.map key).Nodup) (g : α → β)
    (h : ∀ k, (xs.find? (key · = k)).map g = (ys.find? (key · = k)).map g) :
    xs.map g = ys.map g := by
  have hlength : xs.length = ys.length := by simpa using congrArg List.length hkeys
  apply List.ext_getElem (by simpa using hlength)
  intro i hi hi'
  rw [List.length_map] at hi hi'
  have hkey : key xs[i] = key ys[i] := by
    have hat := congrArg (·[i]?) hkeys
    simpa [hi, hi'] using hat
  have hx : xs.find? (key · = key xs[i]) = some xs[i] :=
    (find?_eq_some_iff hxs).2 ⟨List.getElem_mem hi, rfl⟩
  have hy : ys.find? (key · = key xs[i]) = some ys[i] :=
    (find?_eq_some_iff (hkeys ▸ hxs)).2 ⟨List.getElem_mem hi', hkey.symm⟩
  have hfound := h (key xs[i])
  rw [hx, hy] at hfound
  simpa using hfound

theorem Member.map_withoutHistory_eq {owner : EntityName} {xs ys : List Member}
    (hxs : ∀ m ∈ xs, m.owner = owner) (hys : ∀ m ∈ ys, m.owner = owner)
    (hnames : xs.map name = ys.map name) (hdeclared : xs.map declared = ys.map declared) :
    xs.map withoutHistory = ys.map withoutHistory := by
  have hlength : xs.length = ys.length := by simpa using congrArg List.length hnames
  apply List.ext_getElem (by simpa using hlength)
  intro i hi hi'
  rw [List.length_map] at hi hi'
  have hname := congrArg (·[i]?) hnames
  have hsame := congrArg (·[i]?) hdeclared
  simp only [List.getElem?_map, List.getElem?_eq_getElem hi, List.getElem?_eq_getElem hi',
    Option.map_some, Option.some.injEq, declared, Prod.mk.injEq] at hname hsame
  have howner : xs[i].owner = ys[i].owner :=
    (hxs _ (List.getElem_mem hi)).trans (hys _ (List.getElem_mem hi')).symm
  simp only [List.getElem_map, withoutHistory, hname, howner, hsame]

namespace Layer

/-- The layers differ in nothing but what they extend and the histories of fields and joins, of
which the second one's may hold less. -/
structure SameButHistory (l l' : Layer) : Prop where
  fields : l'.fields.map Member.withoutHistory = l.fields.map Member.withoutHistory
  joins : l'.joins.map Member.withoutHistory = l.joins.map Member.withoutHistory
  others : l'.others = l.others
  properties : ∀ name ≠ "extends", propertiesOf name l' = propertiesOf name l
  fieldTrail : ∀ name, (l'.fieldTrail name).Sublist (l.fieldTrail name)
  joinTrail : ∀ name, (l'.joinTrail name).Sublist (l.joinTrail name)

/-- What is observed of the layers is related, whatever it is, unless it is about what they
extend. -/
def Related (l l' : Layer) : Prop :=
  ∀ ⦃α : Type⦄ ⦃op : α → α → α⦄ ⦃unit : α⦄ ⦃r : α → α → Prop⦄ ⦃f : Layer → α⦄,
    Observation op unit f → Collapses op unit r →
      (∀ (name : String) (l : Layer), f (l.withoutBase name) = f l) → r (f l) (f l')

section Related

variable {l l' : Layer} (h : Related l l')
include h

theorem Related.lookup_eq {β : Type} {f : Layer → Option β} (hf : Lookup f)
    (hg : ∀ (base : Layer) (heir : EntityName), f (base.bequeath heir) = f base)
    (hedit : ∀ (name : String) (l : Layer), f (l.withoutBase name) = f l) : f l' = f l :=
  (h (hf.observation hg) (collapses_eq _ _) hedit).symm

theorem Related.sublist {f : Layer → List Location} (hf : Trail f)
    (hedit : ∀ (name : String) (l : Layer), f (l.withoutBase name) = f l) :
    (f l').Sublist (f l) :=
  have hrelated := h hf (collapses_sublist Location) hedit
  hrelated

theorem Related.members_eq (members : Layer → List Member)
    (hnames : Observation Keyed.addNew [] fun l => (members l).map Member.name)
    (hlookup : ∀ name, Lookup fun l => ((members l).find? (·.name = name)).map Member.declared)
    (hbequeath : ∀ name (base : Layer) (heir : EntityName),
      ((members (base.bequeath heir)).find? (·.name = name)).map Member.declared =
        ((members base).find? (·.name = name)).map Member.declared)
    (hedit : ∀ (name : String) (l : Layer), members (l.withoutBase name) = members l)
    (hnodup : ((members l').map Member.name).Nodup) {owner : EntityName}
    (howned : ∀ m ∈ members l, m.owner = owner) (howned' : ∀ m ∈ members l', m.owner = owner) :
    (members l').map Member.withoutHistory = (members l).map Member.withoutHistory := by
  have hsame : (members l').map Member.name = (members l).map Member.name :=
    (h hnames (collapses_eq _ _) fun name l => by rw [hedit]).symm
  apply Member.map_withoutHistory_eq howned' howned hsame
  apply Keyed.map_eq_of_find?_eq hsame hnodup
  intro name
  exact h.lookup_eq (hlookup name) (hbequeath name) fun name l => by rw [hedit]

theorem Related.others_eq (hnodup : (l'.others.map otherKey).Nodup) : l'.others = l.others := by
  have hkeys : l'.others.map otherKey = l.others.map otherKey :=
    (h observation_otherKeys (collapses_eq _ _) fun _ _ => rfl).symm
  have hfound : ∀ k, otherOf k l' = otherOf k l := fun k =>
    h.lookup_eq (lookup_otherOf k) (otherOf_bequeath k) fun _ _ => rfl
  have hsame := Keyed.map_eq_of_find?_eq hkeys hnodup id fun k =>
    congrArg (Option.map id) (hfound k)
  rwa [List.map_id, List.map_id] at hsame

theorem Related.properties_eq {name : String} (hname : name ≠ "extends")
    (hpassed : name ∉ ownProperties) : propertiesOf name l' = propertiesOf name l := by
  apply h.lookup_eq (lookup_propertiesOf name)
  · intro base heir
    rw [propertiesOf_bequeath, if_neg hpassed]
  · exact fun base l => Property.all?_map_withoutBase base hname l.properties

theorem Related.sameButHistory (hdistinct : l'.Distinct) {owner : EntityName}
    (howned : l.OwnedBy owner) (howned' : l'.OwnedBy owner)
    (hown : ∀ name ≠ "extends", name ∈ ownProperties → propertiesOf name l' = propertiesOf name l) :
    SameButHistory l l' where
  fields := h.members_eq Layer.fields observation_fieldNames lookup_fieldOf fieldOf_bequeath
    (fun _ _ => rfl) hdistinct.fields howned.fields howned'.fields
  joins := h.members_eq Layer.joins observation_joinNames lookup_joinOf joinOf_bequeath
    (fun _ _ => rfl) hdistinct.joins howned.joins howned'.joins
  others := h.others_eq hdistinct.others
  properties := by
    intro name hname
    by_cases hmem : name ∈ ownProperties
    · exact hown name hname hmem
    · exact h.properties_eq hname hmem
  fieldTrail := fun name => h.sublist (trail_fieldTrail name) fun _ _ => rfl
  joinTrail := fun name => h.sublist (trail_joinTrail name) fun _ _ => rfl

end Related

end Layer

/-- The entities differ in nothing but their resolution, what they extend and the histories of
fields and joins, of which the second one's may hold less. -/
structure Entity.SameButHistory (e e' : Entity) : Prop where
  key : e'.key = e.key
  location : e'.location = e.location
  refinements : e'.refinements = e.refinements
  isTemplate : e'.isTemplate = e.isTemplate
  layer : e.layer.SameButHistory e'.layer

namespace Definition

variable {d d' : Definition} (key : EntityKey)

theorem isTemplate_withoutSelf (d : Definition) :
    (d.withoutSelf key).layer.isTemplate = d.layer.isTemplate := by
  have hlast : ∀ l : Layer, Property.last? l.properties "extension" =
      (Layer.propertiesOf "extension" l).bind List.getLast? :=
    fun l => Property.last?_eq_all? l.properties "extension"
  unfold withoutSelf
  split
  · have hsame : Layer.propertiesOf "extension" (d.layer.withoutBase key.name.text) =
        Layer.propertiesOf "extension" d.layer :=
      Property.all?_map_withoutBase _ (by decide) d.layer.properties
    rw [Layer.isTemplate, Layer.isTemplate, hlast, hlast, hsame]
  · rfl

theorem sameButHistory_toEntity {m m' : Merged} (h : m.layer.SameButHistory m'.layer) :
    (d.toEntity m).SameButHistory ((d.withoutSelf key).toEntity m') where
  key := key_withoutSelf key d
  location := by
    have hlocation : (d.withoutSelf key).location = d.location := by unfold withoutSelf; split <;> rfl
    exact hlocation
  refinements := by
    have hrefinements : (d.withoutSelf key).refinements = d.refinements := by
      unfold withoutSelf; split <;> rfl
    exact hrefinements
  isTemplate := isTemplate_withoutSelf key d
  layer := h

end Definition

namespace Project

variable {documents : List Document} {e : Entity} {i : Nat} {d : Definition} (key : EntityKey)

/-! ## The edited project -/

theorem definitions_withoutSelf (documents : List Document) :
    definitions (documents.map (Document.withoutSelf key)) =
      (definitions documents).map (Definition.withoutSelf key) := by
  have hblocks : (documents.map (Document.withoutSelf key)).flatMap Document.blocks =
      (documents.flatMap Document.blocks).map (Block.withoutSelf key) := by
    rw [List.flatMap_map, List.map_flatMap]
    rfl
  rw [definitions, hblocks, Definition.collect_withoutSelf]
  rfl

theorem getElem?_definitions_withoutSelf (hd : (definitions documents)[i]? = some d) :
    (definitions (documents.map (Document.withoutSelf key)))[i]? = some (d.withoutSelf key) := by
  rw [definitions_withoutSelf, List.getElem?_map, hd]
  rfl

abbrev editedAt [ComponentFinder] (documents : List Document) (key : EntityKey) (i : Nat)
    (d : Definition) : Merged :=
  Definition.mergedAt (definitions (documents.map (Document.withoutSelf key))) i
    (d.withoutSelf key)

theorem related_editedAt [ComponentFinder] (hd : (definitions documents)[i]? = some d)
    (huncut : (Definition.mergedAt (definitions documents) i d).truncated = false) :
    (Definition.mergedAt (definitions documents) i d).layer.Related
      (editedAt documents key i d).layer := by
  intro α op unit r f hf hr hedit
  rw [editedAt, definitions_withoutSelf]
  refine (Definition.nodes_withoutSelf (nodup_keys_definitions documents)).related
    (Definition.consistent_nodes _) hf hr distinct_own ?_ (Definition.getElem?_nodes_of_getElem? hd)
    (Definition.getElem?_nodes_withoutSelf hd) huncut
  intro id node node' hid hid'
  rw [Definition.getElem?_nodes, Option.map_eq_some_iff] at hid
  obtain ⟨b, hb, rfl⟩ := hid
  rw [Definition.getElem?_nodes_withoutSelf hb, Option.some.injEq] at hid'
  subst hid'
  have hown := Definition.distinct_layer (List.mem_of_getElem? hb)
  simp only [Definition.toNode, Definition.withoutSelf]
  split
  · exact ⟨⟨hown.fields, hown.joins, hown.others⟩, hedit _ _⟩
  · exact ⟨hown, rfl⟩

theorem propertiesOf_mergedAt_of_own [ComponentFinder] (hd : (definitions documents)[i]? = some d)
    {name : String} (hown : name ∈ Layer.ownProperties) :
    Layer.propertiesOf name (Definition.mergedAt (definitions documents) i d).layer =
      Layer.propertiesOf name d.layer := by
  have hhidden : ∀ (base : Layer) (heir : EntityName),
      Layer.propertiesOf name (base.bequeath heir) = none := by
    intro base heir
    rw [Layer.propertiesOf_bequeath, if_pos hown]
  let node := d.toNode (definitions documents) (baseGraph documents) i
  have hdistinct : node.own.Distinct := Definition.distinct_layer (List.mem_of_getElem? hd)
  exact lookup_layer_own (Layer.lookup_propertiesOf name) hhidden maxExtendsDepth [] i hdistinct

theorem layer_editedAt [ComponentFinder] (hd : (definitions documents)[i]? = some d)
    (huncut : (Definition.mergedAt (definitions documents) i d).truncated = false) :
    (Definition.mergedAt (definitions documents) i d).layer.SameButHistory
      (editedAt documents key i d).layer := by
  have hd' := getElem?_definitions_withoutSelf key hd
  have howned' := ownedBy_mergedAt hd'
  rw [Definition.key_withoutSelf] at howned'
  refine (related_editedAt key hd huncut).sameButHistory (distinct_mergeAfresh _ _ _ _ _)
    (ownedBy_mergedAt hd) howned' ?_
  intro name hname hown
  rw [propertiesOf_mergedAt_of_own hd' hown, propertiesOf_mergedAt_of_own hd hown,
    Definition.withoutSelf]
  split
  · exact Property.all?_map_withoutBase _ hname d.layer.properties
  · rfl

theorem truncated_editedAt [ComponentFinder] (hd : (definitions documents)[i]? = some d)
    (huncut : (Definition.mergedAt (definitions documents) i d).truncated = false) :
    (editedAt documents key i d).truncated = false := by
  rw [editedAt, definitions_withoutSelf]
  exact (Definition.nodes_withoutSelf (nodup_keys_definitions documents)).truncated_eq_false
    (Definition.getElem?_nodes_of_getElem? hd) (Definition.getElem?_nodes_withoutSelf hd) huncut

theorem not_tooDeep_of_truncated_eq_false [ComponentFinder]
    (hd : (definitions documents)[i]? = some d)
    (huncut : (Definition.mergedAt (definitions documents) i d).truncated = false)
    (location : Location) : .extendsTooDeep d.key location ∉ (build documents).2 := by
  intro herror
  rcases (mem_errors_iff rfl).1 herror with hmissing | hcycle | hdeep
  · obtain ⟨_, _, _, _, _, heq⟩ := exists_of_mem_missingErrors hmissing
    cases heq
  · obtain ⟨_, _, _, _, heq⟩ := exists_cycleStart_of_error hcycle
    cases heq
  · obtain ⟨d', hd', htruncated, heq⟩ := exists_of_mem_tooDeepErrors hdeep
    have hkey : d.key = d'.key := by
      injection heq
    have hsame := List.inj_on_of_nodup_map (nodup_keys_definitions documents)
      (List.mem_of_getElem? hd) hd' hkey
    subst hsame
    rw [Definition.mergedIn, Definition.placeOf_eq (nodup_keys_definitions documents) hd,
      huncut] at htruncated
    cases htruncated

/-- Taking the references of any one view or explore to itself out of the project changes nothing
of an entity whose chains are not cut but its histories, and none of its chains is cut then. -/
theorem sameButHistory_withoutSelf [ComponentFinder] (he : e ∈ (build documents).1.entities)
    (hdeep : ∀ location, .extendsTooDeep e.key location ∉ (build documents).2) :
    ∃ e' ∈ (build (documents.map (Document.withoutSelf key))).1.entities, e.SameButHistory e' ∧
      ∀ location, .extendsTooDeep e.key location ∉
        (build (documents.map (Document.withoutSelf key))).2 := by
  obtain ⟨i, hi⟩ := List.mem_iff_getElem?.1 he
  obtain ⟨d, hd, rfl⟩ := exists_definition hi
  have huncut := truncated_eq_false_of_error hd hdeep
  have hd' := getElem?_definitions_withoutSelf key hd
  have hentity := getElem?_entities (documents.map (Document.withoutSelf key)) i
  rw [hd', Option.map_some] at hentity
  refine ⟨_, List.mem_of_getElem? hentity,
    Definition.sameButHistory_toEntity key (layer_editedAt key hd huncut), ?_⟩
  have hnone := not_tooDeep_of_truncated_eq_false hd' (truncated_editedAt key hd huncut)
  rwa [Definition.key_withoutSelf] at hnone

/-- Whatever the documents declare, the walk comes back to an entity that is being merged exactly
if the entity extends itself, once and straight from itself. Without such references the entities
whose chains are not cut are the same but for their histories. -/
theorem self_references [ComponentFinder] (documents : List Document) :
    (∀ room above memo id, Called (Definition.nodes (definitions documents)) room above memo id →
      StraightCall (Definition.nodes (definitions documents)) room above id) ∧
    (∀ room above memo id,
      Called (Definition.nodes (definitions documents)) (room + 1) above memo id →
      Link (Definition.nodes (definitions documents)) id id → id ∉ above →
      ∃ memo', Called (Definition.nodes (definitions documents)) room (id :: above) memo' id) ∧
    ∀ key, ∀ e ∈ (build documents).1.entities,
      (∀ location, .extendsTooDeep e.key location ∉ (build documents).2) →
      ∃ e' ∈ (build (documents.map (Document.withoutSelf key))).1.entities, e.SameButHistory e' ∧
        ∀ location, .extendsTooDeep e.key location ∉
          (build (documents.map (Document.withoutSelf key))).2 := by
  refine ⟨fun _ _ _ _ h => h.straight, ?_, fun key e => sameButHistory_withoutSelf key⟩
  intro room above memo id h hself hfresh
  exact h.again (Definition.consistent_nodes _) hself hfresh

def selfExtending : List Document :=
  let span := fun line column endLine endColumn =>
    Location.mk "a.view.lkml" line column endLine endColumn
  [⟨"a.view.lkml", [],
    [.mk .view (some "a") [.mk "extends" (.text "a") (span 2 3 2 13)]
      [.mk .dimension (some "x") [] [] (span 3 3 3 18)] (span 1 1 4 2)]⟩]

/-- The view is merged below itself, so that its field overrides itself. Without the reference the
field overrides nothing. -/
theorem overridden_selfExtending :
    (∃ room above memo id,
      Called (Definition.nodes (definitions selfExtending)) room above memo id ∧ id ∈ above) ∧
    ∃ e ∈ (build selfExtending).1.entities, (∃ f ∈ e.fields, f.overridden = [f.location]) ∧
      ∀ e' ∈ (build (selfExtending.map (Document.withoutSelf e.key))).1.entities,
        ∀ f ∈ e'.fields, f.overridden = [] := by
  have hself : ((Definition.nodes (definitions selfExtending))[0]?.any fun node =>
      0 ∈ node.bases) = true := by
    decide +kernel
  have hfields : ((build selfExtending).1.entities.any fun e =>
      (e.fields.any fun f => f.overridden = [f.location]) &&
      (build (selfExtending.map (Document.withoutSelf e.key))).1.entities.all fun e' =>
        e'.fields.all fun f => f.overridden = []) = true := by
    decide +kernel
  constructor
  · obtain ⟨node, hnode, hbase⟩ := (Option.any_eq_true _ _).1 hself
    have hsize : 0 < (Definition.nodes (definitions selfExtending)).size := by
      decide +kernel
    have hcall : Called (Definition.nodes (definitions selfExtending)) (31 + 1) []
        (memoAfter (Definition.nodes (definitions selfExtending)) 0) 0 := .alone hsize
    obtain ⟨memo, hagain⟩ := hcall.again (Definition.consistent_nodes _)
      ⟨node, hnode, of_decide_eq_true hbase⟩ (by simp)
    exact ⟨31, [0], memo, 0, hagain, List.mem_singleton.2 rfl⟩
  · simpa only [List.any_eq_true, List.all_eq_true, Bool.and_eq_true, decide_eq_true_eq]
      using hfields

end Project

end LookML
