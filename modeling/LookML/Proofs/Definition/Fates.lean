import LookML.Proofs.Definition.Collect
/-!
# What becomes of the blocks of a project

A block that declares a view or explore by name meets one of four fates. A definition is kept if it
is the first one of its kind and name, and a repetition of the first one otherwise. A refinement is
put on the definition of its target if there is one anywhere, and refines nothing otherwise. The
definitions are collected, and complaints made, fate by fate.
-/

namespace LookML

/-- What becomes of a block that declares a view or explore. -/
inductive Fate where
  /-- it is the definition that counts -/
  | kept (key : EntityKey)
  /-- it defines once more what `first` defines -/
  | repeated (key : EntityKey) (first : Block)
  /-- it is put on the definition that counts -/
  | refines (key : EntityKey)
  /-- its target is never defined -/
  | dangling (kind : EntityKind) (target : String)

namespace Block

/-- The block defines the view or explore of the given key: it bears its name, which does not begin
with a plus sign. -/
structure IsDefinitionOf (b : Block) (key : EntityKey) : Prop where
  kind : EntityKind.ofBlockKind? b.kind = some key.kind
  name : b.name = some key.name.text
  plain : key.name.text.toList.head? ≠ some '+'

/-- The block refines a view or explore: it bears the name of its target after a plus sign. -/
structure IsRefinementOf (b : Block) (kind : EntityKind) (target : String) : Prop where
  kind : EntityKind.ofBlockKind? b.kind = some kind
  name : b.name = some ("+" ++ target)

/-- The fate of a block that stands after `before` among `blocks`. -/
inductive Meets (blocks before : List Block) (b : Block) : Fate → Prop
  | kept {key : EntityKey} :
      b.IsDefinitionOf key → (∀ c ∈ before, ¬ c.IsDefinitionOf key) → Meets blocks before b (.kept key)
  | repeated {key : EntityKey} {first : Block} {earlier later : List Block} :
      b.IsDefinitionOf key → before = earlier ++ first :: later → first.IsDefinitionOf key →
      (∀ c ∈ earlier, ¬ c.IsDefinitionOf key) → Meets blocks before b (.repeated key first)
  | refines {key : EntityKey} :
      b.IsRefinementOf key.kind key.name.text → (∃ c ∈ blocks, c.IsDefinitionOf key) →
      Meets blocks before b (.refines key)
  | dangling {kind : EntityKind} {target : String} :
      b.IsRefinementOf kind target →
      (∀ key : EntityKey, key.kind = kind → key.name.text = target →
        ∀ c ∈ blocks, ¬ c.IsDefinitionOf key) →
      Meets blocks before b (.dangling kind target)

end Block

/-! ## Declarations -/

namespace Declaration

variable {b : Block} {key : EntityKey} {kind : EntityKind} {target : String}

theorem ofBlock?_of_isDefinitionOf (h : b.IsDefinitionOf key) :
    ofBlock? b = some (.definition key b) := by
  have hplain : ∀ target, key.name.text.toList ≠ '+' :: target := by
    intro target heq
    exact h.plain (by rw [heq]; rfl)
  simp [ofBlock?, h.kind, h.name, Identifier.ofText?, key.name.text_ne]

theorem ofBlock?_of_isRefinementOf (h : b.IsRefinementOf kind target) :
    ofBlock? b = some (.refinement kind target b) := by
  simp [ofBlock?, h.kind, h.name]

theorem cases_of_ofBlock? {declaration : Declaration} (h : ofBlock? b = some declaration) :
    (∃ key, declaration = .definition key b ∧ b.IsDefinitionOf key) ∨
      ∃ kind target, declaration = .refinement kind target b ∧ b.IsRefinementOf kind target := by
  unfold ofBlock? at h
  split at h
  · rename_i kind target hkind hletters
    obtain ⟨name, hname, hplus⟩ := Option.map_eq_some_iff.1 hletters
    cases h
    refine .inr ⟨kind, _, rfl, hkind, ?_⟩
    rw [hname, Option.some.injEq, ← String.toList_inj, hplus]
    simp
  · rename_i kind letters hplain hkind hletters
    obtain ⟨name, hname, rfl⟩ := Option.map_eq_some_iff.1 hletters
    obtain ⟨key, hkey, rfl⟩ := Option.map_eq_some_iff.1 h
    rw [String.ofList_toList, Identifier.ofText?_eq_some_iff] at hkey
    refine .inl ⟨_, rfl, hkind, by rw [hname, hkey], ?_⟩
    intro hhead
    obtain ⟨target, htarget⟩ := List.head?_eq_some_iff.1 hhead
    rw [hkey] at htarget
    exact hplain target htarget
  · cases h

end Declaration

namespace Block

variable {b : Block} {blocks before : List Block} {key key' : EntityKey} {kind kind' : EntityKind}
  {target target' : String}

theorem defines_iff : b.defines key = true ↔ b.IsDefinitionOf key := by
  constructor
  · intro h
    unfold defines at h
    split at h
    · rename_i k _ hdeclares
      rcases Declaration.cases_of_ofBlock? hdeclares with ⟨_, heq, hdefines⟩ | ⟨_, _, heq, _⟩
      · cases heq
        exact of_decide_eq_true h ▸ hdefines
      · cases heq
    · cases h
  · intro h
    rw [defines, Declaration.ofBlock?_of_isDefinitionOf h]
    exact decide_eq_true rfl

theorem refines_iff : b.refines key = true ↔ b.IsRefinementOf key.kind key.name.text := by
  constructor
  · intro h
    unfold refines at h
    split at h
    · rename_i hdeclares
      rw [Bool.and_eq_true, decide_eq_true_eq, decide_eq_true_eq] at h
      rcases Declaration.cases_of_ofBlock? hdeclares with ⟨_, heq, _⟩ | ⟨_, _, heq, hrefines⟩
      · cases heq
      · cases heq
        exact h.1 ▸ h.2 ▸ hrefines
    · cases h
  · intro h
    rw [refines, Declaration.ofBlock?_of_isRefinementOf h]
    simp

theorem IsDefinitionOf.unique (h : b.IsDefinitionOf key) (h' : b.IsDefinitionOf key') :
    key = key' :=
  Definition.eq_key_iff.2 ⟨Option.some.inj (h.kind.symm.trans h'.kind),
    Option.some.inj (h.name.symm.trans h'.name)⟩

theorem IsRefinementOf.unique (h : b.IsRefinementOf kind target)
    (h' : b.IsRefinementOf kind' target') : kind = kind' ∧ target = target' := by
  have hname := Option.some.inj (h.name.symm.trans h'.name)
  rw [← String.toList_inj, String.toList_append, String.toList_append, List.append_cancel_left_eq,
    String.toList_inj] at hname
  exact ⟨Option.some.inj (h.kind.symm.trans h'.kind), hname⟩

theorem IsDefinitionOf.not_isRefinementOf (h : b.IsDefinitionOf key) :
    ¬ b.IsRefinementOf kind target := by
  intro hrefines
  have hname := Option.some.inj (h.name.symm.trans hrefines.name)
  apply h.plain
  rw [hname, String.toList_append]
  rfl

/-! ## Fates -/

theorem find?_defines_eq_none_iff :
    before.find? (defines key) = none ↔ ∀ c ∈ before, ¬ c.IsDefinitionOf key := by
  simp only [List.find?_eq_none, defines_iff]

theorem find?_defines_eq_some_iff {first : Block} :
    before.find? (defines key) = some first ↔ first.IsDefinitionOf key ∧
      ∃ earlier later, before = earlier ++ first :: later ∧
        ∀ c ∈ earlier, ¬ c.IsDefinitionOf key := by
  simp only [List.find?_eq_some_iff_append, defines_iff, Bool.not_eq_true', ← Bool.not_eq_true]

theorem exists_meets_of_isDefinitionOf (h : b.IsDefinitionOf key) :
    ∃ fate, b.Meets blocks before fate := by
  cases hfind : before.find? (defines key) with
  | none => exact ⟨_, .kept h (find?_defines_eq_none_iff.1 hfind)⟩
  | some first =>
    obtain ⟨hfirst, earlier, later, heq, hnone⟩ := find?_defines_eq_some_iff.1 hfind
    exact ⟨_, .repeated h heq hfirst hnone⟩

theorem exists_meets_of_isRefinementOf (h : b.IsRefinementOf kind target) :
    ∃ fate, b.Meets blocks before fate := by
  by_cases hdefined : ∃ key : EntityKey, key.kind = kind ∧ key.name.text = target ∧
      ∃ c ∈ blocks, c.IsDefinitionOf key
  · obtain ⟨key, rfl, rfl, hdefined⟩ := hdefined
    exact ⟨_, .refines h hdefined⟩
  · exact ⟨_, .dangling h fun key hkind htarget c hc hdefines =>
      hdefined ⟨key, hkind, htarget, c, hc, hdefines⟩⟩

theorem ofBlock?_eq_none (h : ∀ fate, ¬ b.Meets blocks before fate) :
    Declaration.ofBlock? b = none := by
  cases hdeclares : Declaration.ofBlock? b with
  | none => rfl
  | some declaration =>
    exfalso
    rcases Declaration.cases_of_ofBlock? hdeclares with ⟨_, _, hdefines⟩ | ⟨_, _, _, hrefines⟩
    · obtain ⟨fate, hfate⟩ := exists_meets_of_isDefinitionOf hdefines
      exact h fate hfate
    · obtain ⟨fate, hfate⟩ := exists_meets_of_isRefinementOf hrefines
      exact h fate hfate

theorem Meets.cases_of_isDefinitionOf {fate : Fate} (h : b.Meets blocks before fate)
    (hdefines : b.IsDefinitionOf key) :
    fate = (before.find? (defines key)).elim (.kept key) (.repeated key) := by
  cases h with
  | kept h hnone =>
    obtain rfl := h.unique hdefines
    rw [find?_defines_eq_none_iff.2 hnone]
    rfl
  | repeated h heq hfirst hnone =>
    obtain rfl := h.unique hdefines
    rw [find?_defines_eq_some_iff.2 ⟨hfirst, _, _, heq, hnone⟩]
    rfl
  | refines h _ => exact absurd h hdefines.not_isRefinementOf
  | dangling h _ => exact absurd h hdefines.not_isRefinementOf

theorem Meets.unique {fate fate' : Fate} (h : b.Meets blocks before fate)
    (h' : b.Meets blocks before fate') : fate = fate' := by
  cases h with
  | kept hdefines hnone =>
    rw [h'.cases_of_isDefinitionOf hdefines, find?_defines_eq_none_iff.2 hnone]
    rfl
  | repeated hdefines heq hfirst hnone =>
    rw [h'.cases_of_isDefinitionOf hdefines,
      find?_defines_eq_some_iff.2 ⟨hfirst, _, _, heq, hnone⟩]
    rfl
  | refines hrefines hdefined =>
    obtain ⟨c, hc, hdefines⟩ := hdefined
    cases h' with
    | kept h' _ => exact absurd hrefines h'.not_isRefinementOf
    | repeated h' _ _ _ => exact absurd hrefines h'.not_isRefinementOf
    | refines h' _ => exact congrArg _ (Definition.eq_key_iff.2 (hrefines.unique h'))
    | dangling h' hnone =>
      obtain ⟨hkind, htarget⟩ := hrefines.unique h'
      exact absurd hdefines (hnone _ hkind htarget c hc)
  | dangling hrefines hnone =>
    cases h' with
    | kept h' _ => exact absurd hrefines h'.not_isRefinementOf
    | repeated h' _ _ _ => exact absurd hrefines h'.not_isRefinementOf
    | refines h' hdefined =>
      obtain ⟨c, hc, hdefines⟩ := hdefined
      obtain ⟨hkind, htarget⟩ := hrefines.unique h'
      exact absurd hdefines (hnone _ hkind.symm htarget.symm c hc)
    | dangling h' _ =>
      obtain ⟨rfl, rfl⟩ := hrefines.unique h'
      rfl

theorem existsUnique_meets_iff :
    (∃! fate, b.Meets blocks before fate) ↔
      (EntityKind.ofBlockKind? b.kind).isSome ∧ ∃ name, b.name = some name ∧ name ≠ "" := by
  constructor
  · rintro ⟨fate, hmeets, _⟩
    cases hmeets with
    | kept h _ | repeated h _ _ _ => exact ⟨by rw [h.kind]; rfl, _, h.name, Identifier.text_ne _⟩
    | refines h _ | dangling h _ => exact ⟨by rw [h.kind]; rfl, _, h.name, by simp⟩
  · rintro ⟨hkind, name, hname, hne⟩
    obtain ⟨kind, hkind⟩ := Option.isSome_iff_exists.1 hkind
    have hmeets : ∃ fate, b.Meets blocks before fate := by
      by_cases hplus : name.toList.head? = some '+'
      · obtain ⟨target, htarget⟩ := List.head?_eq_some_iff.1 hplus
        have hplusName : name = "+" ++ String.ofList target := by
          rw [← String.toList_inj, htarget]
          simp
        exact exists_meets_of_isRefinementOf ⟨hkind, hplusName ▸ hname⟩
      · have hdefines : b.IsDefinitionOf ⟨kind, name, hne⟩ := ⟨hkind, hname, hplus⟩
        exact exists_meets_of_isDefinitionOf hdefines
    obtain ⟨fate, hfate⟩ := hmeets
    exact ⟨fate, hfate, fun _ h => h.unique hfate⟩

end Block

/-! ## What is collected -/

namespace Definition

theorem mem_keys_collect_iff (blocks : List Block) (key : EntityKey) :
    key ∈ (collect blocks).1.map Definition.key ↔ ∃ c ∈ blocks, c.IsDefinitionOf key := by
  have hfound : key ∈ (collect blocks).1.map Definition.key ↔
      ((collect blocks).1.find? (·.key = key)).isSome := by
    simp [List.find?_isSome]
  have hblocks : (∃ c ∈ blocks, c.IsDefinitionOf key) ↔ blocks.filter (Block.defines key) ≠ [] := by
    simp [List.filter_eq_nil_iff, Block.defines_iff]
  rw [hfound, hblocks, find?_collect]
  cases blocks.filter (Block.defines key) <;> simp

theorem exists_location_eq {blocks : List Block} {key : EntityKey} {first : Block}
    (h : blocks.find? (Block.defines key) = some first) :
    ∃ d ∈ (collect blocks).1, d.key = key ∧ d.location = first.location := by
  have hfound := find?_collect blocks key
  rw [← List.head?_filter] at h
  obtain ⟨others, hfilter⟩ := List.head?_eq_some_iff.1 h
  rw [hfilter] at hfound
  exact ⟨_, List.mem_of_find?_eq_some hfound, rfl, rfl⟩

end Definition

end LookML
