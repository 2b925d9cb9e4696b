import LookML.Document
import Mathlib.Data.List.Nodup
/-!
# Places in a document

Equal blocks may stand at several places of a document, so a block is told by the way that leads to
it. Listing the blocks inside a value lists their places: every way that leads to a block, whether
through children or through the values of properties, once and no other.
-/

namespace LookML

/-- A step from a value to what stands directly inside it. -/
inductive Document.Step where
  /-- to what a property of a block is set to -/
  | property (i : Nat)
  | child (i : Nat)
  /-- to an item of a list -/
  | item (i : Nat)
  /-- to the value of a pair -/
  | paired
deriving DecidableEq

open Document (Step)

namespace Value

/-- What a step leads to. A child of a block counts as the value that an anonymous block is. -/
def inside? : Value → Step → Option Value
  | block b, .property i => b.properties[i]?.map Property.value
  | block b, .child i => b.children[i]?.map block
  | list items, .item i => items[i]?
  | pair _ value, .paired => some value
  | _, _ => none

/-- What a way leads to. -/
def follow? (v : Value) : List Step → Option Value
  | [] => some v
  | s :: way => (v.inside? s).bind (·.follow? way)

/-- What stands directly inside a value, with the step to it. -/
def parts : Value → List (Step × Value)
  | block b =>
    b.properties.zipIdx.map (fun (p, i) => (.property i, p.value)) ++
      b.children.zipIdx.map fun (c, i) => (.child i, block c)
  | list items => items.zipIdx.map fun (v, i) => (.item i, v)
  | pair _ value => [(.paired, value)]
  | text _ | flag _ | number _ => []

theorem mem_parts {v part : Value} {s : Step} : (s, part) ∈ v.parts ↔ v.inside? s = some part := by
  cases v with
  | pair key value => cases s <;> simp [parts, inside?, eq_comm]
  | _ => cases s <;> simp [parts, inside?, List.mk_mem_zipIdx_iff_getElem?]

theorem nodup_map_zipIdx {α β : Type} {f : Nat → β} (hf : Function.Injective f) (xs : List α) :
    (xs.zipIdx.map fun x => f x.2).Nodup := by
  have hmap : xs.zipIdx.map (fun x => f x.2) = (xs.zipIdx.map Prod.snd).map f := by
    rw [List.map_map]
    rfl
  rw [hmap, List.zipIdx_map_snd]
  exact List.Nodup.map hf List.nodup_range'

theorem nodup_parts (v : Value) : (v.parts.map Prod.fst).Nodup := by
  cases v with
  | block b =>
    have hproperties : Function.Injective Step.property := fun _ _ h => Step.property.inj h
    have hchildren : Function.Injective Step.child := fun _ _ h => Step.child.inj h
    simp only [parts, List.map_append, List.map_map, Function.comp_def]
    refine List.nodup_append.2
      ⟨nodup_map_zipIdx hproperties _, nodup_map_zipIdx hchildren _, ?_⟩
    intro s hs t ht
    obtain ⟨_, _, rfl⟩ := List.mem_map.1 hs
    obtain ⟨_, _, rfl⟩ := List.mem_map.1 ht
    exact Step.noConfusion
  | list items =>
    simp only [parts, List.map_map, Function.comp_def]
    exact nodup_map_zipIdx (fun _ _ h => Step.item.inj h) items
  | pair key value => exact List.nodup_singleton _
  | text _ | flag _ | number _ => exact List.nodup_nil

theorem sizeOf_lt_of_mem_parts {v : Value} {part : Step × Value} (h : part ∈ v.parts) :
    sizeOf part.2 < sizeOf v := by
  obtain ⟨s, w⟩ := part
  cases v with
  | block b =>
    obtain ⟨kind, name, properties, children, location⟩ := b
    rcases List.mem_append.1 h with h | h
    · obtain ⟨⟨p, i⟩, hp, heq⟩ := List.mem_map.1 h
      cases heq
      have hsize := List.sizeOf_lt_of_mem (List.fst_mem_of_mem_zipIdx hp)
      obtain ⟨name, value, location⟩ := p
      simp only [Block.properties, Property.mk.sizeOf_spec] at hsize
      simp only [Property.value, Value.block.sizeOf_spec, Block.mk.sizeOf_spec]
      omega
    · obtain ⟨⟨c, i⟩, hc, heq⟩ := List.mem_map.1 h
      cases heq
      have hsize := List.sizeOf_lt_of_mem (List.fst_mem_of_mem_zipIdx hc)
      simp only [Block.children] at hsize
      simp only [Value.block.sizeOf_spec, Block.mk.sizeOf_spec]
      omega
  | list items =>
    obtain ⟨⟨v, i⟩, hv, heq⟩ := List.mem_map.1 h
    cases heq
    have hsize := List.sizeOf_lt_of_mem (List.fst_mem_of_mem_zipIdx hv)
    dsimp only at hsize ⊢
    simp only [Value.list.sizeOf_spec]
    omega
  | pair key value =>
    cases List.mem_singleton.1 h
    simp only [Value.pair.sizeOf_spec]
    omega
  | text _ | flag _ | number _ => cases h

theorem inductionOnParts {P : Value → Prop} (h : ∀ v : Value, (∀ part ∈ v.parts, P part.2) → P v)
    (v : Value) : P v :=
  h v fun part _ => inductionOnParts h part.2
termination_by sizeOf v
decreasing_by exact sizeOf_lt_of_mem_parts ‹_›

end Value

/-! ## Blocks in order -/

theorem Value.blocksOf_eq_flatMap (items : List Value) : blocksOf items = items.flatMap blocks := by
  induction items with
  | nil => rw [blocksOf, List.flatMap_nil]
  | cons v items ih => rw [blocksOf, ih, List.flatMap_cons]

theorem Property.blocksOf_eq_flatMap (ps : List Property) :
    blocksOf ps = ps.flatMap (·.value.blocks) := by
  induction ps with
  | nil => rw [blocksOf, List.flatMap_nil]
  | cons p ps ih =>
    obtain ⟨name, value, location⟩ := p
    rw [blocksOf, ih, List.flatMap_cons, Property.value]

theorem Block.descendantsOf_eq_flatMap (bs : List Block) :
    descendantsOf bs = bs.flatMap descendants := by
  induction bs with
  | nil => rw [descendantsOf, List.flatMap_nil]
  | cons b bs ih => rw [descendantsOf, ih, List.flatMap_cons]

theorem flatMap_zipIdx {α β : Type} (f : α → List β) (xs : List α) :
    xs.zipIdx.flatMap (fun x => f x.1) = xs.flatMap f := by
  have hflat : xs.zipIdx.flatMap (fun x => f x.1) = (xs.zipIdx.map Prod.fst).flatMap f := by
    rw [List.flatMap_map]
  rw [hflat, List.zipIdx_map_fst]

theorem Value.blocks_eq (v : Value) :
    v.blocks = v.block?.toList ++ v.parts.flatMap (·.2.blocks) := by
  cases v with
  | block b =>
    have hchild : ∀ c : Block, (Value.block c).blocks = c.descendants := fun c => by rw [blocks]
    obtain ⟨kind, name, properties, children, location⟩ := b
    simp only [parts, List.flatMap_append, List.flatMap_map, hchild,
      flatMap_zipIdx (fun p : Property => p.value.blocks), flatMap_zipIdx Block.descendants]
    rw [Block.descendants, Property.blocksOf_eq_flatMap, Block.descendantsOf_eq_flatMap]
    rfl
  | list items =>
    simp only [parts, List.flatMap_map, flatMap_zipIdx Value.blocks]
    rw [blocks, blocksOf_eq_flatMap]
    rfl
  | pair key value =>
    rw [blocks]
    simp [parts, block?]
  | text _ | flag _ | number _ => rw [blocks]; rfl

/-! ## Places -/

structure Document.Lists (leads : List Step → Block → Prop) (places : List (List Step × Block)) :
    Prop where
  nodup : (places.map Prod.fst).Nodup
  mem_iff : ∀ way b, (way, b) ∈ places ↔ leads way b

namespace Value

open Document (Lists)

def LeadsThrough (parts : List (Step × Value)) (way : List Step) (b : Block) : Prop :=
  ∃ part ∈ parts, ∃ rest, way = part.1 :: rest ∧ part.2.follow? rest = some (.block b)

theorem exists_lists_of_parts {parts : List (Step × Value)} (hparts : (parts.map Prod.fst).Nodup)
    (h : ∀ part ∈ parts, ∃ places, places.map Prod.snd = part.2.blocks ∧
      Lists (fun way b => part.2.follow? way = some (.block b)) places) :
    ∃ places, places.map Prod.snd = parts.flatMap (·.2.blocks) ∧
      Lists (LeadsThrough parts) places := by
  induction parts with
  | nil => exact ⟨[], rfl, List.nodup_nil, fun way b => by simp [LeadsThrough]⟩
  | cons part parts ih =>
    obtain ⟨hpart, hparts⟩ := List.nodup_cons.1 hparts
    obtain ⟨hfirst, hrest⟩ := List.forall_mem_cons.1 h
    obtain ⟨inner, hinner, hlists⟩ := hfirst
    obtain ⟨others, hothers, hlists'⟩ := ih hparts hrest
    have hfst : (inner.map (Prod.map (part.1 :: ·) id)).map Prod.fst =
        (inner.map Prod.fst).map (part.1 :: ·) := by
      simp only [List.map_map]
      rfl
    refine ⟨inner.map (Prod.map (part.1 :: ·) id) ++ others, ?_, ?_, fun way b => ?_⟩
    · rw [List.map_append, hothers, List.flatMap_cons, ← hinner, List.map_map]
      rfl
    · rw [List.map_append, hfst]
      refine List.nodup_append.2
        ⟨hlists.nodup.map List.cons_injective, hlists'.nodup, ?_⟩
      -- The steps differ, and so do the ways that begin with them.
      intro way hway way' hway'
      obtain ⟨_, _, rfl⟩ := List.mem_map.1 hway
      obtain ⟨⟨_, b⟩, hmem, rfl⟩ := List.mem_map.1 hway'
      obtain ⟨other, hother, _, rfl, _⟩ := (hlists'.mem_iff _ b).1 hmem
      intro heq
      apply hpart
      rw [(List.cons.inj heq).1]
      exact List.mem_map_of_mem hother
    · simp only [List.mem_append, hlists'.mem_iff, LeadsThrough, List.exists_mem_cons_iff]
      apply or_congr_left
      simp only [List.mem_map, Prod.exists, hlists.mem_iff, Prod.map_apply, id_eq, Prod.mk.injEq]
      constructor
      · rintro ⟨rest, _, hfollow, rfl, rfl⟩
        exact ⟨rest, rfl, hfollow⟩
      · rintro ⟨rest, rfl, hfollow⟩
        exact ⟨rest, b, hfollow, rfl, rfl⟩

theorem leadsThrough_parts {v : Value} {s : Step} {way : List Step} {b : Block} :
    LeadsThrough v.parts (s :: way) b ↔ v.follow? (s :: way) = some (.block b) := by
  rw [follow?, Option.bind_eq_some_iff]
  simp only [LeadsThrough, Prod.exists, mem_parts, List.cons.injEq]
  constructor
  · rintro ⟨_, part, hpart, _, ⟨rfl, rfl⟩, hfollow⟩
    exact ⟨part, hpart, hfollow⟩
  · rintro ⟨part, hpart, hfollow⟩
    exact ⟨s, part, hpart, way, ⟨rfl, rfl⟩, hfollow⟩

theorem not_leadsThrough_nil {parts : List (Step × Value)} {b : Block} :
    ¬ LeadsThrough parts [] b := by
  rintro ⟨_, _, _, heq, _⟩
  cases heq

theorem lists_of_parts {v : Value} {parts : List (Step × Value)} {places : List (List Step × Block)}
    (h : Lists (LeadsThrough parts) places) :
    Lists (fun way b => way = [] ∧ v = .block b ∨ LeadsThrough parts way b)
      (v.block?.toList.map (fun b => ([], b)) ++ places) where
  nodup := by
    have hself : ([] : List Step) ∉ places.map Prod.fst := by
      intro hmem
      obtain ⟨⟨_, b⟩, hplace, rfl⟩ := List.mem_map.1 hmem
      exact not_leadsThrough_nil ((h.mem_iff [] b).1 hplace)
    cases v with
    | block b => exact List.nodup_cons.2 ⟨hself, h.nodup⟩
    | _ => exact h.nodup
  mem_iff := by
    intro way b
    rw [List.mem_append, h.mem_iff]
    apply or_congr_left
    cases v <;> simp [block?, eq_comm]

theorem exists_lists (v : Value) :
    ∃ places, places.map Prod.snd = v.blocks ∧
      Lists (fun way b => v.follow? way = some (.block b)) places := by
  induction v using inductionOnParts with
  | h v ih =>
    obtain ⟨places, hblocks, hlists⟩ := exists_lists_of_parts v.nodup_parts ih
    refine ⟨_, ?_, (lists_of_parts (v := v) hlists).nodup, fun way b => ?_⟩
    · rw [v.blocks_eq, List.map_append, List.map_map, hblocks]
      exact congrArg (· ++ _) (List.map_id _)
    · rw [(lists_of_parts hlists).mem_iff]
      cases way with
      | nil => simp [follow?, not_leadsThrough_nil]
      | cons s way => simp [leadsThrough_parts]

end Value

namespace Document

/-- The top level of a file as a block. -/
def top (d : Document) : Block :=
  .mk (.other "file") (some d.fileName) d.properties d.blocks (.wholeFile d.path)

/-- The way leads from the top level of the file to the block. -/
def LeadsTo (d : Document) (way : List Step) (b : Block) : Prop :=
  (Value.block d.top).follow? way = some (.block b)

/-- The way leads to the block, and it does not begin with a property of the file itself. -/
structure Visits (d : Document) (way : List Step) (b : Block) : Prop where
  leadsTo : d.LeadsTo way b
  not_property : ∀ i, way.head? ≠ some (.property i)

def topParts (d : Document) : List (Step × Value) :=
  d.blocks.zipIdx.map fun (c, i) => (.child i, .block c)

theorem visits_iff {d : Document} {way : List Step} {b : Block} :
    d.Visits way b ↔
      way = [] ∧ Value.block d.top = .block b ∨ Value.LeadsThrough d.topParts way b := by
  cases way with
  | nil =>
    constructor
    · intro h
      exact .inl ⟨rfl, Option.some.inj h.leadsTo⟩
    · rintro (⟨_, h⟩ | h)
      · exact ⟨congrArg some h, nofun⟩
      · exact absurd h Value.not_leadsThrough_nil
  | cons s way =>
    have hparts : (Value.block d.top).parts =
        d.properties.zipIdx.map (fun (p, i) => (.property i, p.value)) ++ d.topParts := rfl
    constructor
    · rintro ⟨hleads, hproperty⟩
      obtain ⟨part, hpart, rest, heq, hfollow⟩ := Value.leadsThrough_parts.2 hleads
      refine .inr ⟨part, ?_, rest, heq, hfollow⟩
      rw [hparts, List.mem_append] at hpart
      apply hpart.resolve_left
      intro hmem
      obtain ⟨⟨p, i⟩, _, rfl⟩ := List.mem_map.1 hmem
      cases heq
      exact hproperty i rfl
    · rintro (⟨heq, _⟩ | ⟨part, hpart, rest, heq, hfollow⟩)
      · cases heq
      · refine ⟨Value.leadsThrough_parts.1 ⟨part, ?_, rest, heq, hfollow⟩, ?_⟩
        · rw [hparts]
          exact List.mem_append_right _ hpart
        · obtain ⟨⟨c, i⟩, _, rfl⟩ := List.mem_map.1 hpart
          cases heq
          nofun

/-- The top level and all blocks below it, each place once. Blocks that properties of the file
itself are set to are left out. -/
theorem exists_lists_allBlocks (d : Document) :
    ∃ places, places.map Prod.snd = d.top :: d.allBlocks ∧ Lists d.Visits places := by
  have hnodup : (d.topParts.map Prod.fst).Nodup := by
    simp only [topParts, List.map_map, Function.comp_def]
    exact Value.nodup_map_zipIdx (fun _ _ h => Step.child.inj h) d.blocks
  obtain ⟨places, hblocks, hlists⟩ := Value.exists_lists_of_parts hnodup fun part _ =>
    part.2.exists_lists
  have htop := Value.lists_of_parts (v := .block d.top) hlists
  refine ⟨_, ?_, htop.nodup, fun way b => (htop.mem_iff way b).trans visits_iff.symm⟩
  have hchild : ∀ c : Block, (Value.block c).blocks = c.descendants := fun c => by
    rw [Value.blocks]
  rw [List.map_append, hblocks, allBlocks, Block.descendantsOf_eq_flatMap]
  simp only [topParts, List.flatMap_map, hchild, flatMap_zipIdx Block.descendants]
  rfl

end Document

end LookML
