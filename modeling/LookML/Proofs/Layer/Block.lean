import LookML.Proofs.Layer.Lookup
/-!
# What a block contributes

The layer of a single block answers for a field, a join or another child with the last of the
block's children that declares it, and for a property with all of the block's properties of that
name. The complaints are about members that are declared again.
-/

namespace LookML

namespace Block

def declaresField (name : String) (b : Block) : Bool :=
  b.kind.isField && b.name = some name

def declaresJoin (name : String) (b : Block) : Bool :=
  b.kind = .join && b.name = some name

/-- Whether the block declares neither a field nor a join. -/
def isOther (b : Block) : Bool :=
  b.name = none || (!b.kind.isField && b.kind ≠ .join)

/-- Whether the block is neither a field nor a join and has the given kind and name. -/
def declaresOther (key : BlockKind × Option String) (b : Block) : Bool :=
  b.isOther && Layer.otherKey b = key

/-- The last child that declares the field of the given name. -/
def lastField? (b : Block) (name : String) : Option Block :=
  b.children.reverse.find? (declaresField name)

/-- The last child that declares the join of the given name. -/
def lastJoin? (b : Block) (name : String) : Option Block :=
  b.children.reverse.find? (declaresJoin name)

/-- The last child that is neither field nor join and has the given kind and name. -/
def lastOther? (b : Block) (key : BlockKind × Option String) : Option Block :=
  b.children.reverse.find? (declaresOther key)

end Block

/-- The kinds of members that a block can have. -/
inductive MemberKind where
  | field
  | join

/-- The name of the member that a child declares, if it declares one of the given kind. -/
def MemberKind.name? : MemberKind → Block → Option String
  | field, b => if b.kind.isField then b.name else none
  | join, b => if b.kind = .join then b.name else none

namespace Layer

def members (l : Layer) : MemberKind → List Member
  | .field => l.fields
  | .join => l.joins

/-! ## One child -/

theorem declare_field {owner : EntityName} {l : Layer} {c : Block} {name : String}
    (hkind : c.kind.isField = true) (hname : c.name = some name) :
    (l.declare owner c).1 =
      { l with fields := declareMember l.fields ⟨name, owner, owner, c, []⟩ } := by
  simp [declare, Member.field?, Member.ofBlock?, hkind, hname]

theorem declare_join {owner : EntityName} {l : Layer} {c : Block} {name : String}
    (hkind : c.kind = .join) (hname : c.name = some name) :
    (l.declare owner c).1 =
      { l with joins := declareMember l.joins ⟨name, owner, owner, c, []⟩ } := by
  simp [declare, Member.field?, Member.join?, Member.ofBlock?, hkind, hname, BlockKind.isField]

theorem declare_other {owner : EntityName} {l : Layer} {c : Block} (h : c.isOther = true) :
    (l.declare owner c).1 =
      { l with others := Keyed.put otherKey (fun _ new => new) c l.others } := by
  simp only [Block.isOther, Bool.or_eq_true, decide_eq_true_eq, Bool.and_eq_true,
    Bool.not_eq_true'] at h
  rcases h with hname | ⟨hfield, hjoin⟩
  · simp [declare, Member.field?, Member.join?, Member.ofBlock?, hname]
  · simp [declare, Member.field?, Member.join?, hfield, hjoin]

theorem child_cases (c : Block) :
    (∃ name, c.kind.isField = true ∧ c.name = some name) ∨
      (∃ name, c.kind = .join ∧ c.name = some name) ∨ c.isOther = true := by
  cases hname : c.name with
  | none => exact Or.inr (Or.inr (by simp [Block.isOther, hname]))
  | some name =>
    by_cases hfield : c.kind.isField = true
    · exact Or.inl ⟨name, hfield, rfl⟩
    · by_cases hjoin : c.kind = .join
      · exact Or.inr (Or.inl ⟨name, hjoin, rfl⟩)
      · exact Or.inr (Or.inr (by simp [Block.isOther, hfield, hjoin]))

section Member

variable {kind : MemberKind} {name : String} {owner : EntityName} {l : Layer} {c : Block}

theorem declare_of_name? (h : kind.name? c = some name) :
    (l.declare owner c).1.members kind =
        declareMember (l.members kind) ⟨name, owner, owner, c, []⟩ ∧
      (l.declare owner c).2 = repetition? owner (l.members kind) ⟨name, owner, owner, c, []⟩ := by
  cases kind with
  | field =>
    obtain ⟨hkind, hname⟩ := Option.ite_none_right_eq_some.1 h
    rw [declare_field hkind hname]
    refine ⟨rfl, ?_⟩
    simp [declare, Member.field?, Member.ofBlock?, hkind, hname, members]
  | join =>
    obtain ⟨hkind, hname⟩ := Option.ite_none_right_eq_some.1 h
    rw [declare_join hkind hname]
    refine ⟨rfl, ?_⟩
    simp [declare, Member.field?, Member.join?, Member.ofBlock?, hkind, hname, members,
      BlockKind.isField]

theorem members_declare_of_name? (h : kind.name? c = none) :
    (l.declare owner c).1.members kind = l.members kind := by
  rcases child_cases c with ⟨name, hkind, hname⟩ | ⟨name, hkind, hname⟩ | hother
  · rw [declare_field hkind hname]
    cases kind with
    | field => simp [MemberKind.name?, hkind, hname] at h
    | join => rfl
  · rw [declare_join hkind hname]
    cases kind with
    | field => rfl
    | join => simp [MemberKind.name?, hkind, hname] at h
  · rw [declare_other hother]
    cases kind <;> rfl

theorem find?_members_declare (kind : MemberKind) (name : String) (owner : EntityName) (l : Layer)
    (c : Block) :
    ((l.declare owner c).1.members kind).find? (·.name = name) =
      if kind.name? c = some name then some ⟨name, owner, owner, c, []⟩
      else (l.members kind).find? (·.name = name) := by
  cases hname : kind.name? c with
  | none => rw [members_declare_of_name? hname, if_neg (by simp)]
  | some other =>
    rw [(declare_of_name? hname).1, declareMember, Keyed.find?_put (fun _ _ _ => rfl)]
    by_cases heq : other = name
    · rw [heq, if_pos rfl, if_pos rfl]
      cases (l.members kind).find? (·.name = name) <;> rfl
    · rw [if_neg heq, if_neg (by simpa using heq)]

theorem declared_members_declare (kind : MemberKind) (name : String) (owner : EntityName)
    (l : Layer) (c : Block) :
    (((l.declare owner c).1.members kind).find? (·.name = name)).map Member.declared =
      if kind.name? c = some name then some (c, owner)
      else ((l.members kind).find? (·.name = name)).map Member.declared := by
  rw [find?_members_declare, apply_ite (Option.map Member.declared)]
  rfl

end Member

theorem fieldOf_declare (name : String) (owner : EntityName) (l : Layer) (c : Block) :
    fieldOf name (l.declare owner c).1 =
      if c.declaresField name then some (c, owner) else fieldOf name l := by
  have hname : MemberKind.field.name? c = some name ↔ c.declaresField name = true := by
    simp [MemberKind.name?, Block.declaresField]
  exact (declared_members_declare .field name owner l c).trans (if_congr hname rfl rfl)

theorem joinOf_declare (name : String) (owner : EntityName) (l : Layer) (c : Block) :
    joinOf name (l.declare owner c).1 =
      if c.declaresJoin name then some (c, owner) else joinOf name l := by
  have hname : MemberKind.join.name? c = some name ↔ c.declaresJoin name = true := by
    simp [MemberKind.name?, Block.declaresJoin]
  exact (declared_members_declare .join name owner l c).trans (if_congr hname rfl rfl)

theorem otherOf_declare (key : BlockKind × Option String) (owner : EntityName) (l : Layer)
    (c : Block) :
    otherOf key (l.declare owner c).1 = if c.declaresOther key then some c else otherOf key l := by
  rcases child_cases c with ⟨other, hkind, hname⟩ | ⟨other, hkind, hname⟩ | hother
  · rw [declare_field hkind hname]
    simp [otherOf, Block.declaresOther, Block.isOther, hkind, hname]
  · rw [declare_join hkind hname]
    simp [otherOf, Block.declaresOther, Block.isOther, hkind, hname]
  · rw [declare_other hother]
    unfold otherOf
    rw [Keyed.find?_put (fun _ _ _ => rfl)]
    by_cases h : otherKey c = key
    · simp only [Block.declaresOther, hother, h, decide_true, Bool.and_self, if_true]
      cases l.others.find? (otherKey · = key) <;> rfl
    · simp [Block.declaresOther, h]

theorem properties_declare (owner : EntityName) (l : Layer) (c : Block) :
    (l.declare owner c).1.properties = l.properties := by
  unfold declare
  split <;> rfl

/-! ## All children -/

theorem answer_declareAll {β : Type} {f : Layer → Option β} {answers : Block → Bool}
    {answer : Block → β} {owner : EntityName}
    (hf : ∀ l c, f (Layer.declare owner l c).1 = if answers c then some (answer c) else f l)
    (l : Layer) (children : List Block) :
    f (l.declareAll owner children).1 =
      ((children.reverse.find? answers).map answer).or (f l) := by
  induction children generalizing l with
  | nil => rfl
  | cons c children ih =>
    have hstep : (l.declareAll owner (c :: children)).1 =
        ((l.declare owner c).1.declareAll owner children).1 := rfl
    rw [hstep, ih, hf, List.reverse_cons, List.find?_append, Option.map_or, Option.or_assoc]
    by_cases h : answers c = true
    · simp [h]
    · simp [h]

theorem properties_declareAll (owner : EntityName) (l : Layer) (children : List Block) :
    (l.declareAll owner children).1.properties = l.properties := by
  induction children generalizing l with
  | nil => rfl
  | cons c children ih =>
    have hstep : (l.declareAll owner (c :: children)).1 =
        ((l.declare owner c).1.declareAll owner children).1 := rfl
    rw [hstep, ih, properties_declare]

theorem fieldOf_ofBlock (name : String) (owner : EntityName) (b : Block) :
    fieldOf name (ofBlock owner b).1 = (b.lastField? name).map (·, owner) := by
  have h := answer_declareAll (fieldOf_declare name owner)
    { empty with properties := b.properties } b.children
  rwa [show fieldOf name { empty with properties := b.properties } = none from rfl,
    Option.or_none] at h

theorem joinOf_ofBlock (name : String) (owner : EntityName) (b : Block) :
    joinOf name (ofBlock owner b).1 = (b.lastJoin? name).map (·, owner) := by
  have h := answer_declareAll (joinOf_declare name owner)
    { empty with properties := b.properties } b.children
  rwa [show joinOf name { empty with properties := b.properties } = none from rfl,
    Option.or_none] at h

theorem otherOf_ofBlock (key : BlockKind × Option String) (owner : EntityName) (b : Block) :
    otherOf key (ofBlock owner b).1 = b.lastOther? key := by
  have hstep : ∀ l c, otherOf key (Layer.declare owner l c).1 =
      if c.declaresOther key then some (id c) else otherOf key l := otherOf_declare key owner
  have h := answer_declareAll hstep { empty with properties := b.properties } b.children
  rwa [show otherOf key { empty with properties := b.properties } = none from rfl,
    Option.or_none, Option.map_id] at h

theorem propertiesOf_ofBlock (name : String) (owner : EntityName) (b : Block) :
    propertiesOf name (ofBlock owner b).1 = Property.all? b.properties name := by
  unfold propertiesOf ofBlock
  rw [properties_declareAll]

/-! ## Complaints -/

theorem exists_of_declare {owner : EntityName} {l : Layer} {c : Block} {error : ResolutionError}
    (h : (l.declare owner c).2 = some error) :
    ∃ name ∈ c.name, ∃ location first, error = .duplicateMember owner name location first := by
  have hrepetition : ∀ {members : List Member} {m : Member}, Member.ofBlock? owner c = some m →
      repetition? owner members m = some error →
        ∃ name ∈ c.name, ∃ location first, error = .duplicateMember owner name location first := by
    intro members m hm h
    obtain ⟨name, hname, rfl⟩ := Option.map_eq_some_iff.1 hm
    obtain ⟨old, _, rfl⟩ := Option.map_eq_some_iff.1 h
    exact ⟨name, hname, _, _, rfl⟩
  unfold declare at h
  split at h
  · rename_i hfield
    exact hrepetition (Option.ite_none_right_eq_some.1 hfield).2 h
  · rename_i hjoin
    exact hrepetition (Option.ite_none_right_eq_some.1 hjoin).2 h
  · cases h

theorem exists_of_mem_declareAll {owner : EntityName} {l : Layer} {children : List Block}
    {error : ResolutionError} (h : error ∈ (l.declareAll owner children).2) :
    ∃ c ∈ children, ∃ name ∈ c.name, ∃ location first,
      error = .duplicateMember owner name location first := by
  induction children generalizing l with
  | nil => cases h
  | cons child children ih =>
    rcases List.mem_append.1 h with hchild | hrest
    · exact ⟨child, List.mem_cons_self, exists_of_declare (Option.mem_toList.1 hchild)⟩
    · obtain ⟨c, hc, hname⟩ := ih hrest
      exact ⟨c, List.mem_cons_of_mem _ hc, hname⟩

theorem exists_of_mem_ofBlock {owner : EntityName} {b : Block} {error : ResolutionError}
    (h : error ∈ (ofBlock owner b).2) :
    ∃ c ∈ b.children, ∃ name ∈ c.name, ∃ location first,
      error = .duplicateMember owner name location first :=
  exists_of_mem_declareAll h

end Layer

end LookML
