import LookML.Proofs.Layer.Block
/-!
# Members that are declared again

A block keeps one field or join of each name that its children declare: it stands where the name is
declared first and says what the last declaration says. Every declaration but the first is
complained about, against the declaration before it.
-/

namespace LookML

def MemberKind.declarations (kind : MemberKind) (name : String) (children : List Block) :
    List Block :=
  children.filter fun c => kind.name? c = some name

variable {owner : EntityName} {kind : MemberKind} {name : String} {c : Block} {l : Layer}
  {before children : List Block}

namespace MemberKind

theorem declarations_append (kind : MemberKind) (name : String) (before children : List Block) :
    kind.declarations name (before ++ children) =
      kind.declarations name before ++ kind.declarations name children :=
  List.filter_append ..

theorem declarations_cons_of_eq (h : kind.name? c = some name) (children : List Block) :
    kind.declarations name (c :: children) = c :: kind.declarations name children := by
  simp [declarations, h]

theorem declarations_cons_of_ne (h : kind.name? c ≠ some name) (children : List Block) :
    kind.declarations name (c :: children) = kind.declarations name children := by
  simp [declarations, h]

end MemberKind

namespace Layer

/-- What is said about a declaration that comes after `before`. -/
def redeclared (owner : EntityName) (name : String) (again before : Block) :
    Block × ResolutionError :=
  (again, .duplicateMember owner name again.location before.location)

/-- What is said about the declarations of one member: each but the first repeats the one before
it. -/
def redeclarations (owner : EntityName) (name : String) (declared : List Block) :
    List (Block × ResolutionError) :=
  List.zipWith (redeclared owner name) declared.tail declared

/-! ## One child -/

theorem complaint_of_name? (h : kind.name? c = some name) :
    (l.declare owner c).2 = ((l.members kind).find? (·.name = name)).map
      fun old => (redeclared owner name c old.block).2 :=
  (declare_of_name? h).2

theorem declare_of_isOther (h : c.isOther = true) : (l.declare owner c).2 = none := by
  simp only [Block.isOther, Bool.or_eq_true, decide_eq_true_eq, Bool.and_eq_true,
    Bool.not_eq_true'] at h
  rcases h with hname | ⟨hfield, hjoin⟩
  · simp [declare, Member.field?, Member.join?, Member.ofBlock?, hname]
  · simp [declare, Member.field?, Member.join?, hfield, hjoin]

/-- The layer holds what the children in `before` declare. -/
structure Holds (owner : EntityName) (before : List Block) (l : Layer) : Prop where
  names : ∀ kind, (l.members kind).map Member.name = (before.filterMap kind.name?).eraseDups
  last : ∀ kind name, (l.members kind).find? (·.name = name) =
    (kind.declarations name before).getLast?.map (⟨name, owner, owner, ·, []⟩)

theorem Holds.declare (h : l.Holds owner before) (c : Block) :
    (l.declare owner c).1.Holds owner (before ++ [c]) where
  names := by
    intro kind
    rw [List.filterMap_append, List.eraseDups_append]
    cases hname : kind.name? c with
    | none => simp [members_declare_of_name? hname, h.names, hname, List.removeAll]
    | some name =>
      rw [(declare_of_name? hname).1, declareMember, Keyed.map_put (fun _ _ _ => rfl), h.names]
      have hadded : [c].filterMap kind.name? = [name] := by
        simp [hname]
      rw [hadded, List.removeAll, List.filter_singleton]
      by_cases hmem : name ∈ before.filterMap kind.name?
      · simp [hmem, List.mem_eraseDups]
      · simp [hmem, List.mem_eraseDups, List.eraseDups_cons]
  last := by
    intro kind name
    rw [find?_members_declare, h.last, MemberKind.declarations_append]
    by_cases hname : kind.name? c = some name
    · rw [if_pos hname, MemberKind.declarations_cons_of_eq hname]
      simp [MemberKind.declarations]
    · rw [if_neg hname, MemberKind.declarations_cons_of_ne hname]
      simp [MemberKind.declarations]

/-! ## All children -/

def complaints (owner : EntityName) (l : Layer) : List Block → List (Block × ResolutionError)
  | [] => []
  | c :: children =>
    ((l.declare owner c).2.map (c, ·)).toList ++ complaints owner (l.declare owner c).1 children

theorem map_snd_complaints (owner : EntityName) (l : Layer) (children : List Block) :
    (complaints owner l children).map Prod.snd = (l.declareAll owner children).2 := by
  induction children generalizing l with
  | nil => rfl
  | cons c children ih =>
    rw [complaints, List.map_append, ih]
    cases hcomplaint : (l.declare owner c).2 <;> simp [declareAll, hcomplaint]

theorem map_fst_complaints_sublist (owner : EntityName) (l : Layer) (children : List Block) :
    ((complaints owner l children).map Prod.fst).Sublist children := by
  induction children generalizing l with
  | nil => exact List.Sublist.slnil
  | cons c children ih =>
    rw [complaints, List.map_append]
    cases (l.declare owner c).2 with
    | none => exact (ih _).cons c
    | some error => exact (ih _).cons_cons c

theorem name?_of_mem_complaints {report : Block × ResolutionError}
    (h : report ∈ complaints owner l children) :
    ∃ (kind : MemberKind) (name : String), kind.name? report.1 = some name := by
  induction children generalizing l with
  | nil => cases h
  | cons c children ih =>
    rcases List.mem_append.1 h with hfirst | hrest
    · obtain ⟨error, herror, rfl⟩ := Option.map_eq_some_iff.1 (Option.mem_toList.1 hfirst)
      rcases child_cases c with ⟨name, hkind, hname⟩ | ⟨name, hkind, hname⟩ | hother
      · exact ⟨.field, name, by simp [MemberKind.name?, hkind, hname]⟩
      · exact ⟨.join, name, by simp [MemberKind.name?, hkind, hname]⟩
      · rw [declare_of_isOther hother] at herror
        cases herror
    · exact ih hrest

/-- Each declaration of a member is compared with the one before it, be it among the children to
come or among those that were declared. -/
theorem Holds.filter_complaints (h : l.Holds owner before) (kind : MemberKind) (name : String) :
    (complaints owner l children).filter (fun report => kind.name? report.1 = some name) =
      redeclarations owner name
        ((kind.declarations name before).getLast?.toList ++ kind.declarations name children) := by
  induction children generalizing l before with
  | nil =>
    cases (kind.declarations name before).getLast? <;> rfl
  | cons c children ih =>
    rw [complaints, List.filter_append, ih (h.declare c), MemberKind.declarations_append]
    by_cases hname : kind.name? c = some name
    · rw [complaint_of_name? hname, h.last, MemberKind.declarations_cons_of_eq hname,
        MemberKind.declarations_cons_of_eq hname]
      cases (kind.declarations name before).getLast? with
      | none => simp [MemberKind.declarations]
      | some last => simp [MemberKind.declarations, hname, redeclared, redeclarations]
    · rw [MemberKind.declarations_cons_of_ne hname, MemberKind.declarations_cons_of_ne hname]
      cases (l.declare owner c).2 <;> simp [hname, MemberKind.declarations]

/-! ## The block -/

/-- The layer has one member for each name that is declared: where it is declared first, and as it
is declared last. -/
structure KeepsLast (owner : EntityName) (b : Block) (l : Layer) : Prop where
  order : ∀ kind, (l.members kind).map Member.name = (b.children.filterMap kind.name?).eraseDups
  one : ∀ kind name last, (kind.declarations name b.children).getLast? = some last →
    (l.members kind).filter (·.name = name) = [⟨name, owner, owner, last, []⟩]

/-- The reports, each with the child that it is made for, are about members that are declared again,
in source order. -/
structure ReportsRedeclarations (owner : EntityName) (b : Block)
    (reports : List (Block × ResolutionError)) : Prop where
  inOrder : (reports.map Prod.fst).Sublist b.children
  about : ∀ report ∈ reports, ∃ (kind : MemberKind) (name : String),
    kind.name? report.1 = some name
  each : ∀ (kind : MemberKind) (name : String),
    reports.filter (fun report => kind.name? report.1 = some name) =
      redeclarations owner name (kind.declarations name b.children)

theorem holds_nil (owner : EntityName) (properties : List Property) :
    Holds owner [] { empty with properties := properties } where
  names := by
    intro kind
    cases kind <;> rfl
  last := by
    intro kind name
    cases kind <;> rfl

theorem Holds.declareAll (h : l.Holds owner before) (children : List Block) :
    (l.declareAll owner children).1.Holds owner (before ++ children) := by
  induction children generalizing l before with
  | nil => rwa [List.append_nil]
  | cons c children ih =>
    have hrest := ih (h.declare c)
    rwa [List.append_assoc, List.singleton_append] at hrest

theorem Holds.keepsLast {b : Block} (h : l.Holds owner b.children) (hdistinct : l.Distinct) :
    KeepsLast owner b l where
  order := h.names
  one := by
    intro kind name last hlast
    have hnodup : ((l.members kind).map Member.name).Nodup := by
      cases kind with
      | field => exact hdistinct.fields
      | join => exact hdistinct.joins
    rw [Keyed.filter_eq_toList hnodup, h.last, hlast]
    rfl

/-- Of each member that a block declares the last declaration is kept, and all but the first are
reported. -/
theorem ofBlock_members (owner : EntityName) (b : Block) :
    KeepsLast owner b (ofBlock owner b).1 ∧
      ∃ reports, (ofBlock owner b).2 = reports.map Prod.snd ∧
        ReportsRedeclarations owner b reports := by
  have hstart := holds_nil owner b.properties
  refine ⟨(hstart.declareAll b.children).keepsLast (distinct_ofBlock owner b),
    complaints owner { empty with properties := b.properties } b.children,
    (map_snd_complaints ..).symm, map_fst_complaints_sublist .., ?_, ?_⟩
  · exact fun report hreport => name?_of_mem_complaints hreport
  · exact fun kind name => hstart.filter_complaints kind name

/-- A view that declares the same dimension three times. -/
def thrice : Block :=
  let declared := fun line => Block.mk .dimension (some "x") [] [] ⟨"a.view.lkml", line, 3, line, 18⟩
  .mk .view (some "a") [] [declared 2, declared 3, declared 4] ⟨"a.view.lkml", 1, 1, 5, 2⟩

/-- The last declaration is reported against the second, which is not the first. -/
theorem thrice_reported_against_second :
    let errors := (ofBlock ⟨"a", by decide⟩ thrice).2
    ∃ error ∈ errors, error.first? ≠
      (MemberKind.field.declarations "x" thrice.children).head?.map Block.location := by
  refine ⟨.duplicateMember ⟨"a", by decide⟩ "x" ⟨"a.view.lkml", 4, 3, 4, 18⟩
    ⟨"a.view.lkml", 3, 3, 3, 18⟩, ?_, ?_⟩
  · decide
  · decide

end Layer

end LookML
