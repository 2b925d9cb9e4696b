import LookML.Proofs.Definition.Split
import LookML.Proofs.Project.Inheritance
/-!
# The names that entities use

An entity inherits what its bases use, and these are named by entities that are named in turn. So
if all blocks keep to some names, all entities do: what they extend, read from, join and refer to
has such a name.
-/

namespace LookML

open Extends

variable {mine : String → Prop}

/-! ## Texts -/

theorem Property.mem_mentions_of_last? {ps : List Property} {key text : String}
    (hkey : key = "from" ∨ key = "view_name")
    (h : ((last? ps key).map value).bind Value.text? = some text) :
    ∃ p ∈ ps, text ∈ p.mentions := by
  obtain ⟨value, hvalue, htext⟩ := Option.bind_eq_some_iff.1 h
  obtain ⟨p, hp, rfl⟩ := Option.map_eq_some_iff.1 hvalue
  have hname : p.name = key := by simpa using List.find?_some hp
  refine ⟨p, List.mem_reverse.1 (List.mem_of_find?_eq_some hp), ?_⟩
  simp [mentions, hname, hkey, htext]

theorem Property.scope_mem_mentions {p : Property} {r : Reference} {scope : String}
    (hr : r ∈ Project.referencesOf p) (hscope : r.scope = some scope) : scope ∈ p.mentions :=
  List.mem_append_right _ (List.mem_filterMap.2 ⟨r, hr, hscope⟩)

/-! ## Entities -/

/-- The entity has a name in `mine` and uses no others. -/
structure Entity.Within (mine : String → Prop) (e : Entity) : Prop where
  name : mine e.name
  bases : ∀ base ∈ e.bases, mine base.text
  layer : e.layer.Within mine

namespace Entity.Within

variable {e : Entity} {view : String}

theorem mono {mine' : String → Prop} (h : e.Within mine) (hle : ∀ name, mine name → mine' name) :
    e.Within mine' where
  name := hle e.name h.name
  bases := fun base hbase => hle base.text (h.bases base hbase)
  layer := h.layer.mono hle

theorem text? (h : e.Within mine) {key : String} (hkey : key = "from" ∨ key = "view_name")
    (htext : e.text? key = some view) : mine view := by
  obtain ⟨p, hp, hmention⟩ := Property.mem_mentions_of_last? hkey htext
  exact h.layer.properties p hp view hmention

theorem baseView (h : e.Within mine) : mine e.baseView := by
  unfold Entity.baseView
  cases hfrom : e.text? "from" with
  | some view => exact h.text? (Or.inl rfl) hfrom
  | none =>
    cases hviewName : e.text? "view_name" with
    | some view => exact h.text? (Or.inr rfl) hviewName
    | none => exact h.name

theorem baseAlias (h : e.Within mine) : mine e.baseAlias := by
  unfold Entity.baseAlias
  split
  · exact h.name
  · cases hviewName : e.text? "view_name" with
    | some view => exact h.text? (Or.inr rfl) hviewName
    | none => exact h.name

theorem targetView (h : e.Within mine) {j : Member} (hj : j ∈ e.joins) : mine j.targetView := by
  obtain ⟨hname, hmentions⟩ := h.layer.joins j hj
  unfold Member.targetView
  cases hfrom : j.block.text? "from" with
  | some view =>
    obtain ⟨p, hp, hmention⟩ := Property.mem_mentions_of_last? (Or.inl rfl) hfrom
    exact hmentions view (Property.mentions_subset hp hmention)
  | none => exact hname

theorem aliases (h : e.Within mine) {name : String}
    (hname : name ∈ e.baseAlias :: e.joins.map Member.name) : mine name := by
  rcases List.mem_cons.1 hname with rfl | hjoin
  · exact h.baseAlias
  · obtain ⟨j, hj, rfl⟩ := List.mem_map.1 hjoin
    exact (h.layer.joins j hj).1

theorem scope (h : e.Within mine) {field : Member} (hfield : field ∈ e.fields) {p : Property}
    (hp : p ∈ Project.fieldSql field) {r : Reference} (hr : r ∈ Project.referencesOf p)
    {scope : String} (hscope : r.scope = some scope) : mine scope := by
  apply h.layer.fields field hfield
  exact Property.mentions_subset (List.mem_filter.1 hp).1 (Property.scope_mem_mentions hr hscope)

end Entity.Within

/-! ## Main statement -/

theorem Definition.within_toEntity {d : Definition} {m : Merged} (hname : mine d.key.name.text)
    (hown : d.layer.Within mine) (hm : m.layer.Within mine) : (d.toEntity m).Within mine where
  name := hname
  bases := fun _ hbase => hown.mem_bases hbase
  layer := hm

theorem Project.within_entities [ComponentFinder] {documents : List Document}
    (h : ∀ b ∈ documents.flatMap Document.blocks, ∀ name ∈ b.names, mine name) :
    ∀ e ∈ (build documents).1.entities, e.Within mine := by
  intro e he
  obtain ⟨id, hid⟩ := List.mem_iff_getElem?.1 he
  rw [getElem?_entities, Option.map_eq_some_iff] at hid
  obtain ⟨d, hd, rfl⟩ := hid
  obtain ⟨hname, hown⟩ := Definition.within_of_mem_collect h (List.mem_of_getElem? hd)
  apply Definition.within_toEntity hname hown
  exact forall_mergedAt Layer.within_empty (fun hbottom htop => hbottom.overlay htop)
    (fun hbase heir => hbase.bequeath heir)
    (fun d' hd' => (Definition.within_of_mem_collect h hd').2) hd

end LookML
