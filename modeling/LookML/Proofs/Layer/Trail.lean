import LookML.Proofs.Layer.Names
import LookML.Proofs.Layer.Observation
/-!
# The trails of members

The trail of a field or join is every place that it was declared at, the declaration that counts
last. Putting a layer on another one joins the trails of what they both declare, and passing a
layer on to an heir leaves them as they are. Only a declaration that is repeated within one block
leaves no trail.
-/

namespace LookML

/-- The places of the declarations that the member replaced, and its own. -/
def Member.trail (m : Member) : List Location :=
  m.overridden ++ [m.location]

theorem Member.trail_replacing (old m : Member) :
    (replacing old m).trail = old.trail ++ m.trail := by
  have hoverridden : (replacing old m).overridden = old.overridden ++ old.location :: m.overridden :=
    rfl
  have hlocation : (replacing old m).location = m.location := rfl
  simp [trail, hoverridden, hlocation]

namespace Layer

def trailIn (name : String) (members : List Member) : List Location :=
  (members.find? (·.name = name)).elim [] Member.trail

def fieldTrail (name : String) (l : Layer) : List Location :=
  trailIn name l.fields

def joinTrail (name : String) (l : Layer) : List Location :=
  trailIn name l.joins

/-- What a layer keeps of places, to which the layer on top adds its own. -/
abbrev Trail (f : Layer → List Location) : Prop :=
  Observation (· ++ ·) [] f

/-! ## Layers on layers -/

theorem trailIn_putAll {xs : List Member} (hxs : (xs.map Member.name).Nodup) (ys : List Member)
    (name : String) :
    trailIn name (Keyed.putAll Member.name Member.replacing ys xs) =
      trailIn name ys ++ trailIn name xs := by
  unfold trailIn
  rw [Keyed.find?_putAll (fun y x _ => name_replacing y x) hxs]
  cases xs.find? (·.name = name) with
  | none => simp
  | some x =>
    cases ys.find? (·.name = name) with
    | none => simp
    | some y => exact Member.trail_replacing y x

theorem trailIn_map_owner (name : String) (members : List Member) (heir : EntityName) :
    trailIn name (members.map ({ · with owner := heir })) = trailIn name members := by
  unfold trailIn
  rw [List.find?_map, Option.elim_map]
  rfl

theorem trail_fieldTrail (name : String) : Trail (fieldTrail name) where
  empty := rfl
  overlay := fun htop => trailIn_putAll htop.fields _ name
  bequeath := fun base heir => trailIn_map_owner name base.fields heir

theorem trail_joinTrail (name : String) : Trail (joinTrail name) where
  empty := rfl
  overlay := fun htop => trailIn_putAll htop.joins _ name
  bequeath := fun base heir => trailIn_map_owner name base.joins heir

theorem foldl_append_eq_flatten {α : Type} (acc : List α) (lists : List (List α)) :
    lists.foldl (· ++ ·) acc = acc ++ lists.flatten := by
  induction lists generalizing acc with
  | nil => simp
  | cons l lists ih => rw [List.foldl_cons, ih, List.flatten_cons, List.append_assoc]

/-! ## All members of a layer -/

/-- All fields and joins satisfy `P`. -/
structure AllMembers (P : Member → Prop) (l : Layer) : Prop where
  fields : ∀ f ∈ l.fields, P f
  joins : ∀ j ∈ l.joins, P j

section AllMembers

variable {P : Member → Prop}

theorem allMembers_empty : AllMembers P .empty where
  fields := by simp [empty]
  joins := by simp [empty]

theorem AllMembers.overlay (hP : ∀ old m, P m → P (Member.replacing old m)) {bottom top : Layer}
    (hbottom : bottom.AllMembers P) (htop : top.AllMembers P) :
    (bottom.overlay top).AllMembers P where
  fields := Keyed.forall_putAll hP htop.fields hbottom.fields
  joins := Keyed.forall_putAll hP htop.joins hbottom.joins

theorem AllMembers.bequeath {base : Layer} (h : base.AllMembers P)
    (hP : ∀ {m : Member} (heir : EntityName), P m → P { m with owner := heir }) (heir : EntityName) :
    (base.bequeath heir).AllMembers P where
  fields := List.forall_mem_map.2 fun f hf => hP heir (h.fields f hf)
  joins := List.forall_mem_map.2 fun j hj => hP heir (h.joins j hj)

theorem allMembers_foldl_overlay (hP : ∀ old m, P m → P (Member.replacing old m))
    {tops : List Layer} (htops : ∀ top ∈ tops, top.AllMembers P) {bottom : Layer}
    (hbottom : bottom.AllMembers P) : (tops.foldl Layer.overlay bottom).AllMembers P := by
  induction tops generalizing bottom with
  | nil => exact hbottom
  | cons top tops ih =>
    rw [List.forall_mem_cons] at htops
    exact ih htops.2 (hbottom.overlay hP htops.1)

theorem forall_declareMember {members : List Member} {m : Member} (hm : P m)
    (hmembers : ∀ y ∈ members, P y) : ∀ z ∈ declareMember members m, P z :=
  Keyed.forall_put (fun _ _ h => h) hm hmembers

theorem allMembers_declareAll {owner : EntityName} {children : List Block}
    (hP : ∀ child ∈ children, ∀ name ∈ child.name, P ⟨name, owner, owner, child, []⟩) {l : Layer}
    (h : l.AllMembers P) : (l.declareAll owner children).1.AllMembers P := by
  induction children generalizing l with
  | nil => exact h
  | cons child children ih =>
    rw [List.forall_mem_cons] at hP
    have hstep : (l.declareAll owner (child :: children)).1 =
        ((l.declare owner child).1.declareAll owner children).1 := rfl
    rw [hstep]
    apply ih hP.2
    rcases child_cases child with ⟨name, hkind, hname⟩ | ⟨name, hkind, hname⟩ | hother
    · rw [declare_field hkind hname]
      exact ⟨forall_declareMember (hP.1 name hname) h.fields, h.joins⟩
    · rw [declare_join hkind hname]
      exact ⟨h.fields, forall_declareMember (hP.1 name hname) h.joins⟩
    · rw [declare_other hother]
      exact ⟨h.fields, h.joins⟩

theorem allMembers_ofBlock {owner : EntityName} {b : Block}
    (hP : ∀ child ∈ b.children, ∀ name ∈ child.name, P ⟨name, owner, owner, child, []⟩) :
    (ofBlock owner b).1.AllMembers P := by
  have hstart : ({ empty with properties := b.properties } : Layer).AllMembers P :=
    ⟨allMembers_empty.fields, allMembers_empty.joins⟩
  exact allMembers_declareAll hP hstart

end AllMembers

abbrev OwnedBy (owner : EntityName) : Layer → Prop :=
  AllMembers fun m => m.owner = owner

theorem ownedBy_bequeath (base : Layer) (heir : EntityName) : OwnedBy heir (base.bequeath heir) where
  fields := by simp [Layer.bequeath]
  joins := by simp [Layer.bequeath]

/-! ## A single block -/

theorem trailIn_of_declared {members : List Member} (hfresh : ∀ m ∈ members, m.overridden = [])
    {name : String} {owner : EntityName} {last? : Option Block}
    (h : (members.find? (·.name = name)).map Member.declared = last?.map (·, owner)) :
    trailIn name members = last?.toList.map Block.location := by
  unfold trailIn
  cases hfind : members.find? (·.name = name) with
  | none =>
    rw [hfind] at h
    cases last? with
    | none => rfl
    | some b => cases h
  | some m =>
    rw [hfind] at h
    cases last? with
    | none => cases h
    | some b =>
      have hblock : m.block = b := congrArg Prod.fst (Option.some.inj h)
      have hnone := hfresh m (List.mem_of_find?_eq_some hfind)
      simp [Member.trail, hnone, Member.location, hblock]

theorem overridden_ofBlock (owner : EntityName) (b : Block) :
    (ofBlock owner b).1.AllMembers fun m => m.overridden = [] :=
  allMembers_ofBlock fun _ _ _ _ => rfl

theorem fieldTrail_ofBlock (name : String) (owner : EntityName) (b : Block) :
    fieldTrail name (ofBlock owner b).1 = (b.lastField? name).toList.map Block.location :=
  trailIn_of_declared (overridden_ofBlock owner b).fields (fieldOf_ofBlock name owner b)

theorem joinTrail_ofBlock (name : String) (owner : EntityName) (b : Block) :
    joinTrail name (ofBlock owner b).1 = (b.lastJoin? name).toList.map Block.location :=
  trailIn_of_declared (overridden_ofBlock owner b).joins (joinOf_ofBlock name owner b)

end Layer

end LookML
