import LookML.Proofs.Document.Locations
import LookML.Proofs.Layer.Trail
/-!
# Where layers stand

If the blocks of a project stand at certain places, so does everything that is merged from them,
and so do the complaints about it.
-/

namespace LookML

variable {P : Location → Prop}

/-- The problem is reported at a place that satisfies `P`, and so is what it repeats. -/
structure ResolutionError.Located (P : Location → Prop) (e : ResolutionError) : Prop where
  location : P e.location
  first : ∀ l ∈ e.first?, P l

namespace Layer

/-- The properties and members stand at places that satisfy `P`. -/
structure Located (P : Location → Prop) (l : Layer) : Prop where
  properties : ∀ p ∈ l.properties, P p.location
  members : l.AllMembers fun m => m.block.Located P

theorem located_empty : Located P .empty where
  properties := by simp [empty]
  members := allMembers_empty

theorem Located.overlay {bottom top : Layer} (hbottom : bottom.Located P) (htop : top.Located P) :
    (bottom.overlay top).Located P where
  properties := by
    intro p hp
    rcases Property.mem_of_mem_overlay hp with hp | hp
    · exact hbottom.properties p hp
    · exact htop.properties p hp
  members := hbottom.members.overlay (fun _ _ hm => hm) htop.members

theorem Located.bequeath {base : Layer} (h : base.Located P) (heir : EntityName) :
    (base.bequeath heir).Located P where
  properties := fun p hp => h.properties p (List.mem_filter.1 hp).1
  members := by
    refine ⟨fun f hf => ?_, fun j hj => ?_⟩
    · obtain ⟨own, hown, rfl⟩ := List.mem_map.1 hf
      exact h.members.fields own hown
    · obtain ⟨own, hown, rfl⟩ := List.mem_map.1 hj
      exact h.members.joins own hown

/-! ## Blocks -/

theorem located_repetition? {owner : EntityName} {members : List Member} {m : Member}
    (hmembers : ∀ y ∈ members, y.block.Located P) (hm : m.block.Located P) {e : ResolutionError}
    (he : repetition? owner members m = some e) : e.Located P := by
  obtain ⟨old, hold, rfl⟩ := Option.map_eq_some_iff.1 he
  have hfirst := hmembers old (List.mem_of_find?_eq_some hold)
  refine ⟨(Block.located_iff.1 hm).1, ?_⟩
  rintro _ ⟨⟩
  exact (Block.located_iff.1 hfirst).1

theorem Located.declare {l : Layer} (h : l.Located P) (owner : EntityName) {child : Block}
    (hchild : child.Located P) :
    (l.declare owner child).1.Located P ∧ ∀ e ∈ (l.declare owner child).2, e.Located P := by
  have hmember : ∀ {m : Member}, Member.ofBlock? owner child = some m → m.block.Located P := by
    intro m hm
    obtain ⟨name, _, rfl⟩ := Option.map_eq_some_iff.1 hm
    exact hchild
  unfold Layer.declare
  split
  · rename_i field hfield
    have hblock : field.block.Located P := by
      unfold Member.field? at hfield
      split at hfield
      · exact hmember hfield
      · cases hfield
    exact ⟨⟨h.properties, forall_declareMember hblock h.members.fields, h.members.joins⟩,
      fun e he => located_repetition? h.members.fields hblock he⟩
  · rename_i join _ hjoin
    have hblock : join.block.Located P := by
      unfold Member.join? at hjoin
      split at hjoin
      · exact hmember hjoin
      · cases hjoin
    exact ⟨⟨h.properties, h.members.fields, forall_declareMember hblock h.members.joins⟩,
      fun e he => located_repetition? h.members.joins hblock he⟩
  · exact ⟨⟨h.properties, h.members.fields, h.members.joins⟩, nofun⟩

theorem Located.declareAll {l : Layer} (h : l.Located P) (owner : EntityName)
    {children : List Block} (hchildren : ∀ child ∈ children, child.Located P) :
    (l.declareAll owner children).1.Located P ∧
      ∀ e ∈ (l.declareAll owner children).2, e.Located P := by
  induction children generalizing l with
  | nil => exact ⟨h, nofun⟩
  | cons child children ih =>
    rw [List.forall_mem_cons] at hchildren
    obtain ⟨hnext, hproblem⟩ := h.declare owner hchildren.1
    obtain ⟨hlast, hproblems⟩ := ih hnext hchildren.2
    refine ⟨hlast, fun e he => ?_⟩
    rcases List.mem_append.1 he with he | he
    · exact hproblem e (Option.mem_toList.1 he)
    · exact hproblems e he

theorem located_ofBlock (owner : EntityName) {b : Block} (h : b.Located P) :
    (ofBlock owner b).1.Located P ∧ ∀ e ∈ (ofBlock owner b).2, e.Located P := by
  obtain ⟨_, hproperties, hchildren⟩ := Block.located_iff.1 h
  have hstart : ({ empty with properties := b.properties } : Layer).Located P :=
    ⟨fun p hp => (hproperties p hp).location, allMembers_empty.fields, allMembers_empty.joins⟩
  exact hstart.declareAll owner hchildren

end Layer

end LookML
