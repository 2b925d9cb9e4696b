import LookML.Proofs.Definition.Fates
import LookML.Proofs.Definition.Merging
import LookML.Proofs.Extends.SelfReference
import LookML.Proofs.Layer.Block
/-!
# Taking the references to itself out of a definition

A view or explore is edited by taking its own name out of what its blocks extend. Collecting the
edited blocks yields the edited definitions, and of their nodes only that of the edited definition
is another one: it has lost its references to itself.
-/

namespace LookML

open Extends

/-! ## The edit -/

/-- The value without the given text among the names that it gives. -/
def Value.withoutText (name : String) : Value → Value
  | .text s => if s = name then .list [] else .text s
  | .list items => .list (items.filter fun item => item.text? ≠ some name)
  | v => v

def Property.withoutBase (name : String) (p : Property) : Property :=
  if p.name = "extends" then .mk p.name (p.value.withoutText name) p.location else p

def Block.withoutBase (name : String) (b : Block) : Block :=
  .mk b.kind b.name (b.properties.map (Property.withoutBase name)) b.children b.location

def Layer.withoutBase (name : String) (l : Layer) : Layer :=
  { l with properties := l.properties.map (Property.withoutBase name) }

namespace Declaration

/-- The declaration, edited if it is one of the view or explore of the given key. -/
def withoutSelf (key : EntityKey) : Declaration → Declaration
  | .definition k b => .definition k (if k = key then b.withoutBase key.name.text else b)
  | .refinement kind target b =>
    .refinement kind target
      (if kind = key.kind ∧ target = key.name.text then b.withoutBase key.name.text else b)

end Declaration

/-- The block without references to the view or explore of the given key, if it is one of its
blocks. -/
def Block.withoutSelf (key : EntityKey) (b : Block) : Block :=
  if b.defines key || b.refines key then b.withoutBase key.name.text else b

def Definition.withoutSelf (key : EntityKey) (d : Definition) : Definition :=
  if d.key = key then { d with layer := d.layer.withoutBase key.name.text } else d

/-! ## Properties -/

theorem Value.texts_withoutText (name : String) (v : Value) :
    (v.withoutText name).texts = v.texts.filter (· ≠ name) := by
  cases v with
  | text s => by_cases h : s = name <;> simp [withoutText, texts, h]
  | list items =>
    simp only [withoutText, texts]
    rw [List.filterMap_filter, List.filter_filterMap]
    apply List.filterMap_congr
    intro item _
    cases item.text? with
    | none => rfl
    | some t => by_cases h : t = name <;> simp [h, Option.filter]
  | flag b => rfl
  | number n => rfl
  | pair k v => rfl
  | block b => rfl

namespace Property

theorem name_withoutBase (name : String) (p : Property) : (p.withoutBase name).name = p.name := by
  unfold withoutBase
  split <;> rfl

section Map

variable {edit : Property → Property} (hedit : ∀ p, (edit p).name = p.name)
include hedit

theorem names_map (ps : List Property) : names (ps.map edit) = names ps := by
  induction ps with
  | nil => rfl
  | cons p ps ih => simp only [List.map_cons, names, hedit, ih]

theorem occurrences_map (ps : List Property) (name : String) :
    occurrences (ps.map edit) name = (occurrences ps name).map edit := by
  unfold occurrences
  rw [List.filter_map]
  simp only [Function.comp_def, hedit]

theorem replaceNamed_map (name : String) (incoming ps : List Property) :
    replaceNamed name (incoming.map edit) (ps.map edit) =
      (replaceNamed name incoming ps).map edit := by
  unfold replaceNamed
  rw [List.takeWhile_map, List.dropWhile_map, List.filter_map]
  simp only [Function.comp_def, hedit, List.map_append]

theorem overlay_map (ps qs : List Property) :
    overlay (ps.map edit) (qs.map edit) = (overlay ps qs).map edit := by
  unfold overlay
  rw [names_map hedit]
  induction names qs generalizing ps with
  | nil => rfl
  | cons name ns ih =>
    rw [List.foldl_cons, List.foldl_cons, occurrences_map hedit, replaceNamed_map hedit, ih]

theorem last?_map (ps : List Property) (name : String) :
    last? (ps.map edit) name = (last? ps name).map edit := by
  unfold last?
  rw [← List.map_reverse, List.find?_map]
  simp only [Function.comp_def, hedit]

end Map

theorem all?_map_withoutBase (base : String) {name : String} (h : name ≠ "extends")
    (ps : List Property) : all? (ps.map (withoutBase base)) name = all? ps name := by
  have hsame : occurrences (ps.map (withoutBase base)) name = occurrences ps name := by
    rw [occurrences_map (name_withoutBase base)]
    have hother : ∀ p ∈ occurrences ps name, withoutBase base p = p := by
      intro p hp
      have hname : p.name = name := of_decide_eq_true (List.mem_filter.1 hp).2
      rw [withoutBase, if_neg (hname ▸ h)]
    rw [List.map_congr_left hother, List.map_id']
  unfold all?
  rw [hsame]

end Property

/-! ## Layers -/

namespace Layer

theorem overlay_withoutBase (name : String) (bottom top : Layer) :
    (bottom.withoutBase name).overlay (top.withoutBase name) =
      (bottom.overlay top).withoutBase name := by
  simp only [overlay, withoutBase, Property.overlay_map (Property.name_withoutBase name)]

theorem declareAll_withoutBase (name : String) (owner : EntityName) (l : Layer)
    (children : List Block) :
    ((l.withoutBase name).declareAll owner children).1 =
      (l.declareAll owner children).1.withoutBase name := by
  induction children generalizing l with
  | nil => rfl
  | cons child children ih =>
    have hstep : ∀ l : Layer, (l.declareAll owner (child :: children)).1 =
        ((l.declare owner child).1.declareAll owner children).1 := fun _ => rfl
    have hchild : ((l.withoutBase name).declare owner child).1 =
        (l.declare owner child).1.withoutBase name := by
      unfold declare
      split <;> rfl
    rw [hstep, hstep, hchild, ih]

theorem ofBlock_withoutBase (name : String) (owner : EntityName) (b : Block) :
    (ofBlock owner (b.withoutBase name)).1 = (ofBlock owner b).1.withoutBase name :=
  declareAll_withoutBase name owner { empty with properties := b.properties } b.children

theorem bases_withoutBase (name : String) (l : Layer) :
    (l.withoutBase name).bases = l.bases.filter (·.text ≠ name) := by
  have hextends : (l.withoutBase name).extends? = l.extends?.map (Property.withoutBase name) :=
    Property.last?_map (Property.name_withoutBase name) l.properties "extends"
  unfold bases
  rw [hextends]
  cases hfound : l.extends? with
  | none => rfl
  | some p =>
    have hname : p.name = "extends" := by
      have hfind := List.find?_some hfound
      simpa using hfind
    have hvalue : (p.withoutBase name).value = p.value.withoutText name := by
      rw [Property.withoutBase, if_pos hname]
      rfl
    simp only [Option.map_some, hvalue, Value.texts_withoutText]
    rw [List.filterMap_filter, List.filter_filterMap]
    apply List.filterMap_congr
    intro t _
    by_cases ht : t = ""
    · simp [Identifier.ofText?, ht]
    · have hsome : Identifier.ofText? t = some ⟨t, ht⟩ := Identifier.ofText?_eq_some_iff.2 rfl
      by_cases hname : t = name
      · subst hname
        simp [hsome, Option.filter]
      · simp [hsome, hname, Option.filter]

end Layer

/-! ## Declarations -/

namespace Declaration

theorem ofBlock?_withoutSelf (key : EntityKey) (b : Block) :
    ofBlock? (b.withoutSelf key) = (ofBlock? b).map (withoutSelf key) := by
  have hkind : (b.withoutSelf key).kind = b.kind := by unfold Block.withoutSelf; split <;> rfl
  have hname : (b.withoutSelf key).name = b.name := by unfold Block.withoutSelf; split <;> rfl
  cases h : ofBlock? b with
  | none =>
    apply Option.eq_none_iff_forall_ne_some.2
    intro declaration hedited
    rcases cases_of_ofBlock? hedited with ⟨k, _, hk⟩ | ⟨kind, target, _, hk⟩
    · have hb : b.IsDefinitionOf k := ⟨hkind ▸ hk.kind, hname ▸ hk.name, hk.plain⟩
      rw [ofBlock?_of_isDefinitionOf hb] at h
      cases h
    · have hb : b.IsRefinementOf kind target := ⟨hkind ▸ hk.kind, hname ▸ hk.name⟩
      rw [ofBlock?_of_isRefinementOf hb] at h
      cases h
  | some declaration =>
    rcases cases_of_ofBlock? h with ⟨k, rfl, hk⟩ | ⟨kind, target, rfl, hk⟩
    · have hb : (b.withoutSelf key).IsDefinitionOf k :=
        ⟨hkind.symm ▸ hk.kind, hname.symm ▸ hk.name, hk.plain⟩
      rw [ofBlock?_of_isDefinitionOf hb]
      simp [withoutSelf, Block.withoutSelf, Block.defines, Block.refines, h]
    · have hb : (b.withoutSelf key).IsRefinementOf kind target :=
        ⟨hkind.symm ▸ hk.kind, hname.symm ▸ hk.name⟩
      rw [ofBlock?_of_isRefinementOf hb]
      simp [withoutSelf, Block.withoutSelf, Block.defines, Block.refines, h]

end Declaration

/-! ## Definitions -/

namespace Definition

theorem key_withoutSelf (key : EntityKey) (d : Definition) : (d.withoutSelf key).key = d.key := by
  unfold withoutSelf
  split <;> rfl

theorem addAll_map {step : List Definition → Declaration → List Definition × List ResolutionError}
    {edit : Definition → Definition} {editDeclaration : Declaration → Declaration}
    (hstep : ∀ ds declaration, (step (ds.map edit) (editDeclaration declaration)).1 =
      (step ds declaration).1.map edit)
    (ds : List Definition) (declarations : List Declaration) :
    (addAll step (ds.map edit) (declarations.map editDeclaration)).1 =
      (addAll step ds declarations).1.map edit := by
  induction declarations generalizing ds with
  | nil => rfl
  | cons declaration rest ih => rw [List.map_cons, addAll_cons, addAll_cons, hstep, ih]

theorem addDefinition_withoutSelf (key : EntityKey) (ds : List Definition)
    (declaration : Declaration) :
    (addDefinition (ds.map (withoutSelf key)) (declaration.withoutSelf key)).1 =
      (addDefinition ds declaration).1.map (withoutSelf key) := by
  cases declaration with
  | refinement => rfl
  | definition k b =>
    simp only [Declaration.withoutSelf, addDefinition]
    induction ds with
    | nil =>
      by_cases hk : k = key
      · simp [define, ofBlock, withoutSelf, hk, Layer.ofBlock_withoutBase]
        rfl
      · simp [define, ofBlock, withoutSelf, hk]
    | cons d ds ih =>
      by_cases hd : d.key = k
      · have hd' : (d.withoutSelf key).key = k := by rwa [key_withoutSelf]
        have hhead : ∀ (e : Definition) (es : List Definition) (c : Block), e.key = k →
            (define k c (e :: es)).1 = { e with conflicts := e.conflicts ++ [c.location] } :: es := by
          intro e es c he
          simp [define, he]
        rw [List.map_cons, hhead _ _ _ hd', hhead _ _ _ hd, List.map_cons]
        subst hd
        simp only [withoutSelf]
        split <;> rfl
      · have hd' : ¬ (d.withoutSelf key).key = k := by rwa [key_withoutSelf]
        simp only [List.map_cons, define, if_neg hd, if_neg hd', ih]

theorem addRefinement_withoutSelf (key : EntityKey) (ds : List Definition)
    (declaration : Declaration) :
    (addRefinement (ds.map (withoutSelf key)) (declaration.withoutSelf key)).1 =
      (addRefinement ds declaration).1.map (withoutSelf key) := by
  cases declaration with
  | definition => rfl
  | refinement kind target b =>
    simp only [Declaration.withoutSelf, addRefinement]
    induction ds with
    | nil => rfl
    | cons d ds ih =>
      by_cases hd : d.key.kind = kind ∧ d.key.name.text = target
      · have hd' : (d.withoutSelf key).key.kind = kind ∧
            (d.withoutSelf key).key.name.text = target := by
          rwa [key_withoutSelf]
        have hkey : d.key = key ↔ kind = key.kind ∧ target = key.name.text := by
          rw [eq_key_iff, hd.1, hd.2]
        have hrefine : ((d.withoutSelf key).refine
            (if kind = key.kind ∧ target = key.name.text then b.withoutBase key.name.text
              else b)).1 = ((d.refine b).1).withoutSelf key := by
          have hrefined : (d.refine b).1.key = d.key := rfl
          simp only [withoutSelf, hrefined, ← hkey]
          split
          · simp only [refine, Layer.ofBlock_withoutBase, Layer.overlay_withoutBase]
            rfl
          · rfl
        simp only [List.map_cons, refineTarget, if_pos hd, if_pos hd', hrefine]
      · have hd' : ¬ ((d.withoutSelf key).key.kind = kind ∧ (d.withoutSelf key).key.name.text = target) := by
          rwa [key_withoutSelf]
        simp only [List.map_cons, refineTarget, if_neg hd, if_neg hd', ih]

theorem collect_withoutSelf (key : EntityKey) (blocks : List Block) :
    (collect (blocks.map (Block.withoutSelf key))).1 =
      (collect blocks).1.map (withoutSelf key) := by
  have hcollect : ∀ blocks, (collect blocks).1 = (addAll addRefinement
      (addAll addDefinition [] (blocks.filterMap Declaration.ofBlock?)).1
      (blocks.filterMap Declaration.ofBlock?)).1 := fun _ => rfl
  have hdeclarations : (blocks.map (Block.withoutSelf key)).filterMap Declaration.ofBlock? =
      (blocks.filterMap Declaration.ofBlock?).map (Declaration.withoutSelf key) := by
    rw [List.filterMap_map, List.map_filterMap]
    apply List.filterMap_congr
    intro b _
    exact Declaration.ofBlock?_withoutSelf key b
  have hdefinitions := addAll_map (addDefinition_withoutSelf key) []
    (blocks.filterMap Declaration.ofBlock?)
  rw [List.map_nil] at hdefinitions
  rw [hcollect, hcollect, hdeclarations, hdefinitions,
    addAll_map (addRefinement_withoutSelf key)]

/-! ## Nodes -/

section Nodes

variable {ds : List Definition} {key : EntityKey}

theorem indexOf?_map_withoutSelf (k : EntityKey) :
    indexOf? (ds.map (withoutSelf key)) k = indexOf? ds k := by
  unfold indexOf?
  rw [List.findIdx?_map]
  simp only [Function.comp_def, key_withoutSelf]

def editedPlace (ds : List Definition) (key : EntityKey) : Nat :=
  (indexOf? ds key).getD ds.length

theorem eq_editedPlace_iff (nodup : (ds.map Definition.key).Nodup) {d : Definition} {id : Nat}
    (hid : ds[id]? = some d) : id = editedPlace ds key ↔ d.key = key := by
  obtain ⟨hlt, _⟩ := List.getElem?_eq_some_iff.1 hid
  constructor
  · intro heq
    cases hindex : indexOf? ds key with
    | none =>
      rw [editedPlace, hindex] at heq
      exact absurd heq (Nat.ne_of_lt hlt)
    | some j =>
      rw [editedPlace, hindex, Option.getD_some] at heq
      subst heq
      obtain ⟨d', hd', hkey⟩ := key_of_indexOf? hindex
      rw [hid] at hd'
      cases hd'
      exact hkey
  · intro hkey
    rw [editedPlace, (indexOf?_eq_some_iff nodup).2 ⟨d, hid, hkey⟩, Option.getD_some]

theorem linkedIds_withoutSelf (nodup : (ds.map Definition.key).Nodup) {d : Definition} {id : Nat}
    (hid : ds[id]? = some d) :
    linkedIds (ds.map (withoutSelf key)) (d.withoutSelf key) =
      if id = editedPlace ds key then (linkedIds ds d).filter (· ≠ editedPlace ds key)
      else linkedIds ds d := by
  have hlinked : linkedIds (ds.map (withoutSelf key)) (d.withoutSelf key) =
      (d.withoutSelf key).layer.bases.filterMap fun base => indexOf? ds ⟨d.key.kind, base⟩ := by
    unfold linkedIds
    rw [key_withoutSelf]
    simp only [indexOf?_map_withoutSelf]
  rw [hlinked]
  simp only [eq_editedPlace_iff nodup hid]
  by_cases hkey : d.key = key
  · rw [if_pos hkey]
    have hplace : indexOf? ds key = some (editedPlace ds key) := by
      rw [← (eq_editedPlace_iff nodup hid).2 hkey]
      exact (indexOf?_eq_some_iff nodup).2 ⟨d, hid, hkey⟩
    have hlayer : (d.withoutSelf key).layer = d.layer.withoutBase key.name.text := by
      rw [withoutSelf, if_pos hkey]
    rw [hlayer, Layer.bases_withoutBase, List.filterMap_filter, linkedIds, List.filter_filterMap]
    apply List.filterMap_congr
    intro base _
    by_cases hbase : base.text = key.name.text
    · have hself : (⟨d.key.kind, base⟩ : EntityKey) = key :=
        eq_key_iff.2 ⟨by rw [← hkey], hbase⟩
      simp [hbase, hself, hplace, Option.filter]
    · have hother : ∀ j, indexOf? ds ⟨d.key.kind, base⟩ = some j → j ≠ editedPlace ds key := by
        rintro j hj rfl
        obtain ⟨b, hb, hbkey⟩ := key_of_indexOf? hj
        obtain ⟨c, hc, hckey⟩ := key_of_indexOf? hplace
        rw [hb] at hc
        cases hc
        exact hbase (eq_key_iff.1 (hbkey.symm.trans hckey)).2
      cases hindex : indexOf? ds ⟨d.key.kind, base⟩ with
      | none => simp [Option.filter]
      | some j => simp [hbase, hother j hindex, Option.filter]
  · rw [if_neg hkey, withoutSelf, if_neg hkey]
    rfl

theorem getElem?_nodes_withoutSelf [ComponentFinder] {id : Nat} {d : Definition}
    (hid : ds[id]? = some d) :
    (nodes (ds.map (withoutSelf key)))[id]? = some ((d.withoutSelf key).toNode
      (ds.map (withoutSelf key)) (graph (ds.map (withoutSelf key))) id) :=
  getElem?_nodes_of_getElem? (by rw [List.getElem?_map, hid, Option.map_some])

theorem nodes_withoutSelf [ComponentFinder] (nodup : (ds.map Definition.key).Nodup) :
    WithoutSelf (editedPlace ds key) (nodes ds) (nodes (ds.map (withoutSelf key))) where
  size_eq := by simp
  bases := by
    intro id node node' hid hid'
    rw [getElem?_nodes, Option.map_eq_some_iff] at hid
    obtain ⟨d, hd, rfl⟩ := hid
    rw [getElem?_nodes_withoutSelf hd, Option.some.injEq] at hid'
    subst hid'
    have hd' : (ds.map (withoutSelf key))[id]? = some (d.withoutSelf key) := by
      rw [List.getElem?_map, hd]
      rfl
    simp only [toNode, basesOf_graph hd, basesOf_graph hd']
    exact linkedIds_withoutSelf nodup hd

end Nodes

end Definition

end LookML
