import LookML.Layer
import LookML.Proofs.Keyed
import Mathlib.Data.List.TakeWhile
/-!
# Looking into layers

A layer answers for fields and joins by name, for other children by kind and name, and for
properties by name. When one layer is put on another, the one on top answers if it can, and the
one below answers otherwise. A block answers with the last of its children that can.
-/

namespace LookML

/-- What of a member is inherited unchanged: the declaration that counts, and who made it. -/
def Member.declared (m : Member) : Block × EntityName :=
  (m.block, m.declaredIn)

namespace Property

/-- All properties of the given name in source order, if there are any. -/
def all? (properties : List Property) (name : String) : Option (List Property) :=
  match occurrences properties name with
  | [] => none
  | p :: ps => some (p :: ps)

theorem mem_names {properties : List Property} {name : String} :
    name ∈ names properties ↔ occurrences properties name ≠ [] := by
  induction properties with
  | nil => simp [names, occurrences]
  | cons p ps ih =>
    by_cases hp : p.name = name
    · simp [names, occurrences, hp]
    · have hne : ¬ name = p.name := fun h => hp h.symm
      simpa [names, occurrences, hp, hne] using ih

theorem nodup_names (ps : List Property) : (names ps).Nodup := by
  induction ps with
  | nil => exact List.nodup_nil
  | cons p ps ih =>
    rw [names, List.nodup_cons]
    exact ⟨by simp, ih.filter _⟩

theorem occurrences_append (ps qs : List Property) (name : String) :
    occurrences (ps ++ qs) name = occurrences ps name ++ occurrences qs name :=
  List.filter_append ..

theorem occurrences_occurrences (ps : List Property) (name other : String) :
    occurrences (occurrences ps name) other = if other = name then occurrences ps name else [] := by
  unfold occurrences
  rw [List.filter_filter]
  split
  · rename_i h
    simp [h]
  · rename_i h
    apply List.filter_eq_nil_iff.2
    simp only [Bool.and_eq_true, decide_eq_true_eq, not_and]
    exact fun p _ hother hname => h (hother.symm.trans hname)

theorem occurrences_replaceNamed (name other : String) (ps qs : List Property) :
    occurrences (replaceNamed name (occurrences qs name) ps) other =
      if other = name then occurrences qs name else occurrences ps other := by
  unfold replaceNamed
  rw [occurrences_append, occurrences_append, occurrences_occurrences]
  split
  · rename_i h
    subst h
    have hbefore : occurrences (ps.takeWhile (·.name ≠ other)) other = [] := by
      apply List.filter_eq_nil_iff.2
      intro p hp
      simpa using List.mem_takeWhile_imp hp
    have hafter : occurrences ((ps.dropWhile (·.name ≠ other)).filter (·.name ≠ other)) other =
        [] := by
      simp [occurrences]
    rw [hbefore, hafter, List.nil_append, List.append_nil]
  · rename_i h
    have hafter : occurrences ((ps.dropWhile (·.name ≠ name)).filter (·.name ≠ name)) other =
        occurrences (ps.dropWhile (·.name ≠ name)) other := by
      unfold occurrences
      rw [List.filter_filter]
      apply List.filter_congr
      intro p _
      by_cases hp : p.name = other
      · simp [hp, h]
      · simp [hp]
    rw [hafter, List.append_nil, ← occurrences_append, List.takeWhile_append_dropWhile]

theorem occurrences_overlay (ps qs : List Property) (name : String) :
    occurrences (overlay ps qs) name =
      if name ∈ names qs then occurrences qs name else occurrences ps name := by
  have hfold : ∀ (ns : List String) (acc : List Property),
      occurrences (ns.foldl (fun acc n => replaceNamed n (occurrences qs n) acc) acc) name =
        if name ∈ ns then occurrences qs name else occurrences acc name := by
    intro ns
    induction ns with
    | nil => simp
    | cons n ns ih =>
      intro acc
      rw [List.foldl_cons, ih, occurrences_replaceNamed]
      by_cases hn : name = n <;> by_cases hns : name ∈ ns <;> simp [hn, hns]
  exact hfold (names qs) ps

theorem all?_overlay (ps qs : List Property) (name : String) :
    all? (overlay ps qs) name = (all? qs name).or (all? ps name) := by
  unfold all?
  rw [occurrences_overlay]
  by_cases h : name ∈ names qs
  · rw [if_pos h]
    have hne := mem_names.1 h
    split <;> simp_all
  · rw [if_neg h]
    have hnil : occurrences qs name = [] := by
      simpa [mem_names] using h
    simp [hnil]

theorem all?_filter_not_mem (ps : List Property) (hidden : List String) (name : String) :
    all? (ps.filter (·.name ∉ hidden)) name = if name ∈ hidden then none else all? ps name := by
  have hocc : occurrences (ps.filter (·.name ∉ hidden)) name =
      if name ∈ hidden then [] else occurrences ps name := by
    unfold occurrences
    rw [List.filter_filter]
    split
    · rename_i h
      apply List.filter_eq_nil_iff.2
      intro p _
      by_cases hp : p.name = name <;> simp [hp, h]
    · rename_i h
      apply List.filter_congr
      intro p _
      by_cases hp : p.name = name <;> simp [hp, h]
  unfold all?
  rw [hocc]
  by_cases h : name ∈ hidden <;> simp [h]

end Property

namespace Layer

/-! ## Distinct names -/

/-- Fields and joins have distinct names, other children distinct kinds and names. -/
structure Distinct (l : Layer) : Prop where
  fields : (l.fields.map Member.name).Nodup
  joins : (l.joins.map Member.name).Nodup
  others : (l.others.map otherKey).Nodup

theorem distinct_empty : empty.Distinct where
  fields := List.nodup_nil
  joins := List.nodup_nil
  others := List.nodup_nil

theorem name_replacing (old m : Member) : (Member.replacing old m).name = m.name := rfl

theorem Distinct.overlay {bottom : Layer} (h : bottom.Distinct) (top : Layer) :
    (bottom.overlay top).Distinct where
  fields := Keyed.nodup_putAll (fun y x _ => name_replacing y x) _ h.fields
  joins := Keyed.nodup_putAll (fun y x _ => name_replacing y x) _ h.joins
  others := Keyed.nodup_putAll (fun _ _ _ => rfl) _ h.others

theorem Distinct.foldl_overlay {bottom : Layer} (h : bottom.Distinct) (tops : List Layer) :
    (tops.foldl Layer.overlay bottom).Distinct := by
  induction tops generalizing bottom with
  | nil => exact h
  | cons top tops ih => exact ih (h.overlay top)

theorem Distinct.bequeath {base : Layer} (h : base.Distinct) (heir : EntityName) :
    (base.bequeath heir).Distinct where
  fields := by simpa [Layer.bequeath, Function.comp_def] using h.fields
  joins := by simpa [Layer.bequeath, Function.comp_def] using h.joins
  others := h.others

theorem Distinct.declare {l : Layer} (h : l.Distinct) (owner : EntityName) (child : Block) :
    (l.declare owner child).1.Distinct := by
  unfold Layer.declare
  split
  · exact ⟨Keyed.nodup_put (fun _ _ _ => rfl) h.fields, h.joins, h.others⟩
  · exact ⟨h.fields, Keyed.nodup_put (fun _ _ _ => rfl) h.joins, h.others⟩
  · exact ⟨h.fields, h.joins, Keyed.nodup_put (fun _ _ _ => rfl) h.others⟩

theorem Distinct.declareAll {l : Layer} (h : l.Distinct) (owner : EntityName)
    (children : List Block) : (l.declareAll owner children).1.Distinct := by
  induction children generalizing l with
  | nil => exact h
  | cons child children ih => exact ih (h.declare owner child)

theorem distinct_ofBlock (owner : EntityName) (b : Block) : (ofBlock owner b).1.Distinct := by
  have hstart : ({ empty with properties := b.properties } : Layer).Distinct :=
    ⟨List.nodup_nil, List.nodup_nil, List.nodup_nil⟩
  exact hstart.declareAll owner b.children

/-! ## What layers answer -/

def fieldOf (name : String) (l : Layer) : Option (Block × EntityName) :=
  (l.fields.find? (·.name = name)).map Member.declared

def joinOf (name : String) (l : Layer) : Option (Block × EntityName) :=
  (l.joins.find? (·.name = name)).map Member.declared

def otherOf (key : BlockKind × Option String) (l : Layer) : Option Block :=
  l.others.find? (otherKey · = key)

def propertiesOf (name : String) (l : Layer) : Option (List Property) :=
  Property.all? l.properties name

/-- A question to which the layer on top gives the answer if it has one. -/
structure Lookup {β : Type} (f : Layer → Option β) : Prop where
  empty : f .empty = none
  overlay : ∀ {bottom top : Layer}, top.Distinct →
    f (bottom.overlay top) = (f top).or (f bottom)

theorem declared_elim_replacing (old : Option Member) (m : Member) :
    (old.elim m fun y => Member.replacing y m).declared = m.declared := by
  cases old <;> rfl

theorem map_declared_putAll {xs : List Member} (hxs : (xs.map Member.name).Nodup)
    (ys : List Member) (name : String) :
    ((Keyed.putAll Member.name Member.replacing ys xs).find? (·.name = name)).map
        Member.declared =
      ((xs.find? (·.name = name)).map Member.declared).or
        ((ys.find? (·.name = name)).map Member.declared) := by
  rw [Keyed.find?_putAll (fun y x _ => name_replacing y x) hxs, Option.map_or, Option.map_map]
  congr 2
  funext x
  exact declared_elim_replacing _ x

theorem lookup_fieldOf (name : String) : Lookup (fieldOf name) where
  empty := rfl
  overlay := fun htop => map_declared_putAll htop.fields _ name

theorem lookup_joinOf (name : String) : Lookup (joinOf name) where
  empty := rfl
  overlay := fun htop => map_declared_putAll htop.joins _ name

theorem lookup_otherOf (key : BlockKind × Option String) : Lookup (otherOf key) where
  empty := rfl
  overlay := by
    intro bottom top htop
    have hfind := Keyed.find?_putAll (fun _ _ _ => rfl) htop.others bottom.others key
    have helim : ∀ (old : Option Block) (new : Block),
        (old.elim new fun _ => new) = new := by
      intro old new
      cases old <;> rfl
    simp only [helim, Option.map_id_fun', id_eq] at hfind
    exact hfind

theorem lookup_propertiesOf (name : String) : Lookup (propertiesOf name) where
  empty := rfl
  overlay := fun _ => Property.all?_overlay _ _ name

/-- Of several layers put on one another, the topmost that has an answer gives it. -/
theorem Lookup.foldl_overlay {β : Type} {f : Layer → Option β} (hf : Lookup f)
    {tops : List Layer} (htops : ∀ top ∈ tops, top.Distinct) (bottom : Layer) :
    f (tops.foldl Layer.overlay bottom) = (tops.reverse.findSome? f).or (f bottom) := by
  induction tops generalizing bottom with
  | nil => simp
  | cons top tops ih =>
    have hrest := fun t ht => htops t (List.mem_cons_of_mem top ht)
    rw [List.foldl_cons, ih hrest, hf.overlay (htops top List.mem_cons_self),
      List.reverse_cons, List.findSome?_append, Option.or_assoc]
    simp

/-! ## What is inherited -/

theorem fieldOf_bequeath (name : String) (base : Layer) (heir : EntityName) :
    fieldOf name (base.bequeath heir) = fieldOf name base := by
  simp only [fieldOf, bequeath, List.find?_map, Option.map_map]
  rfl

theorem joinOf_bequeath (name : String) (base : Layer) (heir : EntityName) :
    joinOf name (base.bequeath heir) = joinOf name base := by
  simp only [joinOf, bequeath, List.find?_map, Option.map_map]
  rfl

theorem otherOf_bequeath (key : BlockKind × Option String) (base : Layer) (heir : EntityName) :
    otherOf key (base.bequeath heir) = otherOf key base := rfl

theorem propertiesOf_bequeath (name : String) (base : Layer) (heir : EntityName) :
    propertiesOf name (base.bequeath heir) =
      if name ∈ ownProperties then none else propertiesOf name base :=
  Property.all?_filter_not_mem base.properties ownProperties name

end Layer

end LookML
