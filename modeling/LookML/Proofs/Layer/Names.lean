import LookML.Project.References
import LookML.Proofs.Layer.Block
/-!
# The names that blocks use

What a view or explore has to do with others goes by their names: those it extends or reads from,
those of its joins, and the scopes of the references in its texts. A layer uses no names but those
that its blocks use.
-/

namespace LookML

/-- The names of views and explores, or of their aliases, that a property uses: the bases, the view
to read from and the scopes of references. -/
def Property.mentions (p : Property) : List String :=
  (if p.name = "extends" then p.value.texts else []) ++
    (if p.name = "from" ∨ p.name = "view_name" then p.value.text?.toList else []) ++
      (Project.referencesOf p).filterMap Reference.scope

/-- The names that the properties of a block use. -/
def Block.mentions (b : Block) : List String :=
  b.properties.flatMap Property.mentions

def Block.joinName? (b : Block) : Option String :=
  if b.kind = .join then b.name else none

/-- The names that a block and its children use, those of joins among them. -/
def Block.allMentions (b : Block) : List String :=
  b.mentions ++ b.children.flatMap fun child => child.joinName?.toList ++ child.mentions

theorem Property.mentions_subset {b : Block} {p : Property} (h : p ∈ b.properties) :
    p.mentions ⊆ b.mentions :=
  fun _ hname => List.mem_flatMap.2 ⟨p, h, hname⟩

/-! ## Layers -/

/-- All names that the layer uses are among `mine`. -/
structure Layer.Within (mine : String → Prop) (l : Layer) : Prop where
  properties : ∀ p ∈ l.properties, ∀ name ∈ p.mentions, mine name
  fields : ∀ f ∈ l.fields, ∀ name ∈ f.block.mentions, mine name
  joins : ∀ j ∈ l.joins, mine j.name ∧ ∀ name ∈ j.block.mentions, mine name

namespace Keyed

variable {α κ : Type} [DecidableEq κ] {key : α → κ} {join : α → α → α} {P : α → Prop}

theorem forall_put (hjoin : ∀ y x, P x → P (join y x)) {x : α} (hx : P x) {ys : List α}
    (hys : ∀ y ∈ ys, P y) : ∀ z ∈ put key join x ys, P z := by
  induction ys with
  | nil =>
    intro z hz
    exact List.mem_singleton.1 hz ▸ hx
  | cons y ys ih =>
    have hrest := fun z hz => hys z (List.mem_cons_of_mem y hz)
    rw [put]
    split
    · exact List.forall_mem_cons.2 ⟨hjoin y x hx, hrest⟩
    · exact List.forall_mem_cons.2 ⟨hys y List.mem_cons_self, ih hrest⟩

theorem forall_putAll (hjoin : ∀ y x, P x → P (join y x)) {xs ys : List α}
    (hxs : ∀ x ∈ xs, P x) (hys : ∀ y ∈ ys, P y) : ∀ z ∈ putAll key join ys xs, P z := by
  induction xs generalizing ys with
  | nil => exact hys
  | cons x xs ih =>
    apply ih (fun z hz => hxs z (List.mem_cons_of_mem x hz))
    exact forall_put hjoin (hxs x List.mem_cons_self) hys

end Keyed

theorem Property.mem_of_mem_replaceNamed {name : String} {incoming ps : List Property}
    {p : Property} (h : p ∈ replaceNamed name incoming ps) : p ∈ ps ∨ p ∈ incoming := by
  simp only [replaceNamed, List.mem_append, List.mem_filter] at h
  rcases h with (hbefore | hincoming) | ⟨hafter, _⟩
  · exact Or.inl ((List.takeWhile_prefix _).subset hbefore)
  · exact Or.inr hincoming
  · exact Or.inl ((List.dropWhile_suffix _).subset hafter)

theorem Property.mem_of_mem_overlay {ps qs : List Property} {p : Property}
    (h : p ∈ overlay ps qs) : p ∈ ps ∨ p ∈ qs := by
  have hfold : ∀ (names : List String) (acc : List Property),
      p ∈ names.foldl (fun acc name => replaceNamed name (occurrences qs name) acc) acc →
      p ∈ acc ∨ p ∈ qs := by
    intro names
    induction names with
    | nil => exact fun acc hp => Or.inl hp
    | cons name names ih =>
      intro acc hp
      rcases ih _ hp with hacc | hqs
      · exact (mem_of_mem_replaceNamed hacc).imp_right fun hocc => (List.mem_filter.1 hocc).1
      · exact Or.inr hqs
  exact hfold (names qs) ps h

namespace Layer

variable {mine : String → Prop}

theorem within_empty : Within mine .empty where
  properties := by simp [empty]
  fields := by simp [empty]
  joins := by simp [empty]

theorem Within.mono {mine' : String → Prop} {l : Layer} (h : l.Within mine)
    (hle : ∀ name, mine name → mine' name) : l.Within mine' where
  properties := fun p hp name hname => hle name (h.properties p hp name hname)
  fields := fun f hf name hname => hle name (h.fields f hf name hname)
  joins := fun j hj =>
    ⟨hle j.name (h.joins j hj).1, fun name hname => hle name ((h.joins j hj).2 name hname)⟩

theorem Within.overlay {bottom top : Layer} (hbottom : bottom.Within mine)
    (htop : top.Within mine) : (bottom.overlay top).Within mine where
  properties := by
    intro p hp
    rcases Property.mem_of_mem_overlay hp with hp | hp
    · exact hbottom.properties p hp
    · exact htop.properties p hp
  fields := by
    have hreplacing : ∀ old m : Member, (∀ name ∈ m.block.mentions, mine name) →
        ∀ name ∈ (Member.replacing old m).block.mentions, mine name := fun _ _ h => h
    exact Keyed.forall_putAll hreplacing htop.fields hbottom.fields
  joins := by
    have hreplacing : ∀ old m : Member, (mine m.name ∧ ∀ name ∈ m.block.mentions, mine name) →
        mine (Member.replacing old m).name ∧
          ∀ name ∈ (Member.replacing old m).block.mentions, mine name := fun _ _ h => h
    exact Keyed.forall_putAll hreplacing htop.joins hbottom.joins

theorem within_foldl_overlay {tops : List Layer} (htops : ∀ top ∈ tops, top.Within mine)
    {bottom : Layer} (hbottom : bottom.Within mine) :
    (tops.foldl Layer.overlay bottom).Within mine := by
  induction tops generalizing bottom with
  | nil => exact hbottom
  | cons top tops ih =>
    rw [List.forall_mem_cons] at htops
    exact ih htops.2 (hbottom.overlay htops.1)

theorem Within.bequeath {base : Layer} (h : base.Within mine) (heir : EntityName) :
    (base.bequeath heir).Within mine where
  properties := fun p hp => h.properties p (List.mem_filter.1 hp).1
  fields := by
    intro f hf
    obtain ⟨own, hown, rfl⟩ := List.mem_map.1 hf
    exact h.fields own hown
  joins := by
    intro j hj
    obtain ⟨own, hown, rfl⟩ := List.mem_map.1 hj
    exact h.joins own hown

theorem Within.declare {l : Layer} (h : l.Within mine) (owner : EntityName) {child : Block}
    (hchild : ∀ name ∈ child.joinName?.toList ++ child.mentions, mine name) :
    (l.declare owner child).1.Within mine := by
  have hmentions : ∀ name ∈ child.mentions, mine name :=
    fun name hname => hchild name (List.mem_append_right _ hname)
  rcases child_cases child with ⟨name, hkind, hname⟩ | ⟨name, hkind, hname⟩ | hother
  · rw [declare_field hkind hname]
    exact ⟨h.properties, Keyed.forall_put (fun _ _ hm => hm) hmentions h.fields, h.joins⟩
  · have hjoin : mine name := by
      apply hchild
      simp [Block.joinName?, hkind, hname]
    rw [declare_join hkind hname]
    exact ⟨h.properties, h.fields,
      Keyed.forall_put (fun _ _ hm => hm) ⟨hjoin, hmentions⟩ h.joins⟩
  · rw [declare_other hother]
    exact ⟨h.properties, h.fields, h.joins⟩

theorem Within.declareAll {l : Layer} (h : l.Within mine) (owner : EntityName)
    {children : List Block}
    (hchildren : ∀ name ∈ children.flatMap fun child => child.joinName?.toList ++ child.mentions,
      mine name) :
    (l.declareAll owner children).1.Within mine := by
  induction children generalizing l with
  | nil => exact h
  | cons child children ih =>
    rw [List.flatMap_cons] at hchildren
    have hfirst := h.declare owner fun name hname =>
      hchildren name (List.mem_append_left _ hname)
    exact ih hfirst fun name hname => hchildren name (List.mem_append_right _ hname)

theorem within_ofBlock (owner : EntityName) {b : Block} (h : ∀ name ∈ b.allMentions, mine name) :
    (ofBlock owner b).1.Within mine := by
  have hstart : ({ empty with properties := b.properties } : Layer).Within mine := by
    refine ⟨?_, within_empty.fields, within_empty.joins⟩
    intro p hp name hname
    exact h name (List.mem_append_left _ (Property.mentions_subset hp hname))
  exact hstart.declareAll owner fun name hname => h name (List.mem_append_right _ hname)

theorem Within.mem_bases {l : Layer} (h : l.Within mine) {base : EntityName}
    (hbase : base ∈ l.bases) : mine base.text := by
  unfold bases at hbase
  split at hbase
  · rename_i p hp
    obtain ⟨text, htext, hname⟩ := List.mem_filterMap.1 hbase
    obtain rfl := Identifier.ofText?_eq_some_iff.1 hname
    have hnamed : p.name = "extends" := by simpa using List.find?_some hp
    have hmem : p ∈ l.properties := List.mem_reverse.1 (List.mem_of_find?_eq_some hp)
    apply h.properties p hmem
    simp [Property.mentions, hnamed, htext]
  · cases hbase

end Layer

end LookML
