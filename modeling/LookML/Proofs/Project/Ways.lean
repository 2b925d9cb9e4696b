import LookML.Proofs.Document.Spans
import LookML.Proofs.Project.Provenance
/-!
# Ways to a declaration

The walk over the bases puts on one another what the entities on its way declare. An entity that
several ways lead to is come to once for each of them. So the history of a field or join repeats
itself exactly if several ways lead to an entity that declares it.
-/

namespace LookML

open Extends

theorem Member.nodup_trail_iff {m : Member} :
    m.trail.Nodup ↔ m.overridden.Nodup ∧ m.location ∉ m.overridden := by
  rw [Member.trail, ← List.concat_eq_append, List.nodup_concat, and_comm]

theorem Layer.trailIn_of_mem {members : List Member} (h : (members.map Member.name).Nodup)
    {m : Member} (hm : m ∈ members) : trailIn m.name members = m.trail := by
  have hfind := (Keyed.find?_eq_some_iff h).2 ⟨hm, rfl⟩
  rw [trailIn, hfind]
  rfl

/-- Where lists have no repeats and are disjoint, only a list that is put together with itself
gives a repeat. -/
theorem nodup_flatMap_iff {α β : Type} [DecidableEq β] {l : List α} {f : α → List β}
    (hnodup : ∀ a ∈ l, (f a).Nodup) (hdisjoint : ∀ a ∈ l, ∀ b ∈ l, a ≠ b → (f a).Disjoint (f b)) :
    (l.flatMap f).Nodup ↔ (l.filter (f · ≠ [])).Nodup := by
  have hfilter : (l.filter (f · ≠ [])).Nodup ↔
      l.Pairwise fun a b => f a ≠ [] → f b ≠ [] → a ≠ b := by
    rw [List.Nodup, List.pairwise_filter]
    simp only [decide_eq_true_eq]
  rw [List.nodup_flatMap, hfilter, and_iff_right hnodup]
  constructor
  · refine fun h => h.imp fun hab ha _ heq => ha ?_
    subst heq
    exact List.eq_nil_iff_forall_not_mem.2 fun x hx => hab hx hx
  · refine fun h => h.imp_of_mem fun {a b} ha hb hab => ?_
    by_cases hfa : f a = []
    · simp [Function.onFun, hfa]
    by_cases hfb : f b = []
    · simp [Function.onFun, hfb]
    · exact hdisjoint a ha b hb (hab hfa hfb)

/-! ## Places of declarations -/

namespace Block

theorem mem_of_lastField? {b c : Block} {name : String} (h : b.lastField? name = some c) :
    c ∈ b.children :=
  List.mem_reverse.1 (List.mem_of_find?_eq_some h)

theorem mem_of_lastJoin? {b c : Block} {name : String} (h : b.lastJoin? name = some c) :
    c ∈ b.children :=
  List.mem_reverse.1 (List.mem_of_find?_eq_some h)

def ChildrenApart (b c : Block) : Prop :=
  ∀ x ∈ b.children, ∀ y ∈ c.children, x.location ≠ y.location

instance : Std.Symm ChildrenApart where
  symm := fun _ _ h y hy x hx => (h x hx y hy).symm

variable {path : String} {b c : Block}

theorem Nested.childrenApart (hb : b.Nested path) (hc : c.Nested path)
    (h : b.location.Before c.location) : b.ChildrenApart c := by
  intro x hx y hy heq
  have hbefore : x.location.Before y.location :=
    ((hb.child_inside x hx).stop.le.trans h).trans (hc.child_inside y hy).start.le
  exact hbefore.ne (hb.entries.proper_block x hx) heq

theorem childrenApart_of_path {path' : String} (hb : b.Nested path) (hc : c.Nested path')
    (h : path ≠ path') : b.ChildrenApart c := by
  intro x hx y hy heq
  apply h
  rw [← (hb.entries.proper_block x hx).path_eq, heq, (hc.entries.proper_block y hy).path_eq]

end Block

/-- The document was read from some text. -/
def Document.IsParsed (d : Document) : Prop :=
  ∃ text, Document.parse d.path text = .ok d

theorem Document.IsParsed.nested {d : Document} (h : d.IsParsed) :
    Entries d.path d.properties d.blocks ∧ ∀ b ∈ d.blocks, b.Nested d.path := by
  obtain ⟨text, hparse⟩ := h
  obtain ⟨is, rest, hscan, hd⟩ := exists_items_of_parse hparse
  have hnested := nested_of_scan hscan
  rw [hd] at hnested
  refine ⟨hnested.entries, fun b hb => hnested.nested b (List.mem_append_right _ ?_)⟩
  exact Block.mem_descendantsOf.2 ⟨b, hb, Block.mem_descendants.2 (.inl rfl)⟩

theorem pairwise_childrenApart {documents : List Document}
    (hparsed : ∀ d ∈ documents, d.IsParsed) (hpaths : (documents.map Document.path).Nodup) :
    (documents.flatMap Document.blocks).Pairwise Block.ChildrenApart := by
  rw [List.pairwise_flatMap]
  constructor
  · intro d hd
    obtain ⟨hentries, hnested⟩ := (hparsed d hd).nested
    refine hentries.blocks_before.imp_of_mem fun hb hc hbefore => ?_
    exact (hnested _ hb).childrenApart (hnested _ hc) hbefore
  · refine (List.pairwise_map.1 hpaths).imp_of_mem fun hd hd' hne b hb c hc => ?_
    exact Block.childrenApart_of_path ((hparsed _ hd).nested.2 b hb) ((hparsed _ hd').nested.2 c hc)
      hne

namespace Block

section Places

variable {blocks : List Block} {key key' : EntityKey} {answer : Block → Option Block}

theorem mem_own (h : b ∈ own blocks key) :
    b ∈ blocks ∧ (b.IsDefinitionOf key ∨ b.IsRefinementOf key.kind key.name.text) := by
  rcases List.mem_append.1 h with h | h
  · have hfind := Option.mem_toList.1 h
    exact ⟨List.mem_of_find?_eq_some hfind, .inl (defines_iff.1 (List.find?_some hfind))⟩
  · obtain ⟨hb, hrefines⟩ := List.mem_filter.1 h
    exact ⟨hb, .inr (refines_iff.1 hrefines)⟩

theorem key_eq_of_mem_own (h : b ∈ own blocks key) (h' : b ∈ own blocks key') : key = key' := by
  rcases (mem_own h).2 with hdefines | hrefines <;>
    rcases (mem_own h').2 with hdefines' | hrefines'
  · exact hdefines.unique hdefines'
  · exact absurd hrefines' hdefines.not_isRefinementOf
  · exact absurd hrefines hdefines'.not_isRefinementOf
  · exact Definition.eq_key_iff.2 (hrefines.unique hrefines')

variable (hapart : blocks.Pairwise ChildrenApart)
include hapart

theorem pairwise_own : (own blocks key).Pairwise ChildrenApart := by
  have hrefinements : (blocks.filter (refines key)).Pairwise ChildrenApart :=
    hapart.sublist List.filter_sublist
  cases hfind : blocks.find? (defines key) with
  | none => rwa [own, hfind]
  | some b =>
    rw [own, hfind]
    refine .cons (fun c hc => ?_) hrefinements
    obtain ⟨hc, hrefines⟩ := List.mem_filter.1 hc
    have hdefines := defines_iff.1 (List.find?_some hfind)
    refine hapart.forall (List.mem_of_find?_eq_some hfind) hc ?_
    rintro rfl
    exact hdefines.not_isRefinementOf (refines_iff.1 hrefines)

variable (hanswer : ∀ {b c : Block}, answer b = some c → c ∈ b.children)
include hanswer

omit hapart in
theorem ChildrenApart.disjoint (h : b.ChildrenApart c) :
    ((answer b).toList.map location).Disjoint ((answer c).toList.map location) := by
  intro place hb hc
  obtain ⟨x, hx, rfl⟩ := List.mem_map.1 hb
  obtain ⟨y, hy, heq⟩ := List.mem_map.1 hc
  exact h x (hanswer (Option.mem_toList.1 hx)) y (hanswer (Option.mem_toList.1 hy)) heq.symm

theorem nodup_places : (places answer blocks key).Nodup := by
  rw [places, List.nodup_flatMap]
  refine ⟨fun b _ => ?_, (pairwise_own hapart).imp fun h => h.disjoint hanswer⟩
  cases answer b <;> simp

theorem disjoint_places (h : key ≠ key') :
    (places answer blocks key).Disjoint (places answer blocks key') := by
  intro place hb hc
  obtain ⟨b, hb, hplace⟩ := List.mem_flatMap.1 hb
  obtain ⟨c, hc, hplace'⟩ := List.mem_flatMap.1 hc
  have hne : b ≠ c := by
    rintro rfl
    exact h (key_eq_of_mem_own hb hc)
  exact (hapart.forall (mem_own hb).1 (mem_own hc).1 hne).disjoint hanswer hplace hplace'

end Places

end Block

namespace Project

/-- The entities that the walk comes to from an entity, in the order in which it puts what they
declare on one another: those that it comes to from the linked bases, as long as there is room and
but for the bases that were come to before, and then the entity itself. -/
def comeTo (p : Project) : (room : Nat) → (above : List EntityKey) → Entity → List Entity
  | 0, _, e => [e]
  | room + 1, above, e =>
    ((p.linkedBases e).filter (·.key ∉ above)).flatMap (p.comeTo room (e.key :: above)) ++ [e]

def HaveKeys (p : Project) (above : List Nat) (keys : List EntityKey) : Prop :=
  ∀ (b : Nat) (other : Entity), p.entities[b]? = some other → (b ∈ above ↔ other.key ∈ keys)

variable {documents : List Document} {e e' : Entity} {i : Nat} {d : Definition}

theorem HaveKeys.cons [ComponentFinder] {above : List Nat} {keys : List EntityKey}
    (h : (build documents).1.HaveKeys above keys) (hi : (build documents).1.entities[i]? = some e) :
    (build documents).1.HaveKeys (i :: above) (e.key :: keys) := by
  intro b other hother
  have hsame : b = i ↔ other.key = e.key := by
    constructor
    · rintro rfl
      rw [Option.some.inj (hother.symm.trans hi)]
    · intro hkey
      obtain rfl := eq_of_key_eq (List.mem_of_getElem? hother) (List.mem_of_getElem? hi) hkey
      exact place_unique hother hi
  rw [List.mem_cons, List.mem_cons, hsame, h b other hother]

theorem flatten_observedBases [ComponentFinder] {f : Layer → List Location}
    {g : Entity → List Location} {room : Nat}
    {above way : List Nat} {keys : List EntityKey}
    (hkeys : (build documents).1.HaveKeys above keys)
    (hbelow : ∀ b d other, (definitions documents)[b]? = some d →
      (build documents).1.entities[b]? = some other →
        f (mergeAfresh (Definition.nodes (definitions documents)) room way
          (d.toNode (definitions documents) (baseGraph documents) b) b).layer = g other)
    {bases : List Nat} (hbases : ∀ b ∈ bases, b < (baseGraph documents).size) :
    (observedBases (Definition.nodes (definitions documents)) f room way
        (bases.filter (· ∉ above))).flatten =
      ((bases.filterMap ((build documents).1.entities[·]?)).filter (·.key ∉ keys)).flatMap g := by
  induction bases with
  | nil => rfl
  | cons b bases ih =>
    obtain ⟨hb, hbases⟩ := List.forall_mem_cons.1 hbases
    obtain ⟨other, hother⟩ := exists_entity_of_lt hb
    obtain ⟨d, hd, _⟩ := exists_definition hother
    rw [List.filterMap_cons_some hother]
    by_cases hmem : b ∈ above
    · have hkey : other.key ∈ keys := (hkeys b other hother).1 hmem
      rw [List.filter_cons_of_neg (by simpa using hmem),
        List.filter_cons_of_neg (by simpa using hkey), ih hbases]
    · have hkey : other.key ∉ keys := mt (hkeys b other hother).2 hmem
      rw [List.filter_cons_of_pos (by simpa using hmem),
        List.filter_cons_of_pos (by simpa using hkey),
        observedBases_cons (Definition.getElem?_nodes_of_getElem? hd), List.flatten_cons,
        List.flatMap_cons, ih hbases, hbelow b d other hd hother]

theorem trail_eq_flatMap_comeTo [ComponentFinder] {f : Layer → List Location} (hf : Layer.Trail f)
    {answer : Block → Option Block}
    (hblock : ∀ owner b, f (Layer.ofBlock owner b).1 = (answer b).toList.map Block.location)
    (room : Nat) {above : List Nat} {keys : List EntityKey}
    (hkeys : (build documents).1.HaveKeys above keys) (hi : (definitions documents)[i]? = some d)
    (he : (build documents).1.entities[i]? = some e) :
    f (mergeAfresh (Definition.nodes (definitions documents)) room above
        (d.toNode (definitions documents) (baseGraph documents) i) i).layer =
      ((build documents).1.comeTo room keys e).flatMap fun b =>
        Block.places answer (documents.flatMap Document.blocks) b.key := by
  induction room generalizing above keys i d e with
  | zero =>
    obtain ⟨d', hd', rfl⟩ := exists_definition he
    obtain rfl := Option.some.inj (hi.symm.trans hd')
    rw [trail_mergeAfresh_zero hf distinct_own (Definition.getElem?_nodes_of_getElem? hi), comeTo,
      List.flatMap_singleton]
    exact Definition.trail_layer hf (List.mem_of_getElem? hi) (hblock d.key.name)
  | succ room ih =>
    have hway := hkeys.cons he
    obtain ⟨d', hd', rfl⟩ := exists_definition he
    obtain rfl := Option.some.inj (hi.symm.trans hd')
    have hsize : ∀ b ∈ (baseGraph documents).basesOf i, b < (baseGraph documents).size := by
      intro b hb
      rw [Definition.size_graph, ← Definition.size_nodes]
      exact (Definition.consistent_nodes _).base_lt (Definition.getElem?_nodes_of_getElem? hi) hb
    have hbases :=
      flatten_observedBases hkeys (fun b d' other hd' hother => ih hway hd' hother) hsize
    rw [trail_mergeAfresh_succ hf distinct_own (Definition.getElem?_nodes_of_getElem? hi), comeTo,
      List.flatMap_append, List.flatMap_singleton, linkedBases_build hi, List.flatMap_assoc]
    exact congrArg₂ (· ++ ·) hbases
      (Definition.trail_layer hf (List.mem_of_getElem? hi) (hblock d.key.name))

/-! ## Main statement -/

/-- The history of a member of the entity, and after it the place of the member, are the places
that the entities that the walk comes to declare it at, one after another. No place is in it twice
exactly if the walk comes to none of these entities twice. -/
structure FollowsWays (blocks : List Block) (p : Project) (e : Entity)
    (answer : Block → Option Block) (m : Member) : Prop where
  trail_eq : m.overridden ++ [m.location] =
    (p.comeTo maxExtendsDepth [] e).flatMap fun b => Block.places answer blocks b.key
  no_repeats_iff : m.overridden.Nodup ∧ m.location ∉ m.overridden ↔
    ((p.comeTo maxExtendsDepth [] e).filter fun b => Block.places answer blocks b.key ≠ []).Nodup

theorem mem_entities_of_mem_comeTo [ComponentFinder] {room : Nat} {keys : List EntityKey}
    (he : e ∈ (build documents).1.entities) (h : e' ∈ (build documents).1.comeTo room keys e) :
    e' ∈ (build documents).1.entities := by
  induction room generalizing keys e with
  | zero =>
    rw [comeTo, List.mem_singleton] at h
    exact h ▸ he
  | succ room ih =>
    rw [comeTo, List.mem_append, List.mem_flatMap, List.mem_singleton] at h
    rcases h with ⟨b, hb, h⟩ | rfl
    · obtain ⟨base, _, hbase⟩ := List.mem_filterMap.1 (List.mem_filter.1 hb).1
      exact ih ((entity?_eq_some_iff documents _ _ _).1 hbase).1 h
    · exact he

theorem followsWays [ComponentFinder] (hparsed : ∀ d ∈ documents, d.IsParsed)
    (hpaths : (documents.map Document.path).Nodup) (he : e ∈ (build documents).1.entities)
    {answer : Block → Option Block} (hanswer : ∀ {b c : Block}, answer b = some c → c ∈ b.children)
    {m : Member} (htrail : m.trail = ((build documents).1.comeTo maxExtendsDepth [] e).flatMap
      fun b => Block.places answer (documents.flatMap Document.blocks) b.key) :
    FollowsWays (documents.flatMap Document.blocks) (build documents).1 e answer m where
  trail_eq := htrail
  no_repeats_iff := by
    have hapart := pairwise_childrenApart hparsed hpaths
    rw [← Member.nodup_trail_iff, htrail]
    apply nodup_flatMap_iff
    · exact fun b _ => Block.nodup_places hapart hanswer
    · intro b hb c hc hne
      apply Block.disjoint_places hapart hanswer
      exact fun hkey => hne (eq_of_key_eq (mem_entities_of_mem_comeTo he hb)
        (mem_entities_of_mem_comeTo he hc) hkey)

/-- Histories follow the ways to the declarations. -/
theorem history_follows_ways [ComponentFinder] (hparsed : ∀ d ∈ documents, d.IsParsed)
    (hpaths : (documents.map Document.path).Nodup) (he : e ∈ (build documents).1.entities) :
    (∀ f ∈ e.fields, FollowsWays (documents.flatMap Document.blocks) (build documents).1 e
      (·.lastField? f.name) f) ∧
    ∀ j ∈ e.joins, FollowsWays (documents.flatMap Document.blocks) (build documents).1 e
      (·.lastJoin? j.name) j := by
  obtain ⟨i, hi⟩ := List.mem_iff_getElem?.1 he
  obtain ⟨d, hd, rfl⟩ := exists_definition hi
  have hdistinct : (Definition.mergedAt (definitions documents) i d).layer.Distinct :=
    distinct_mergeAfresh _ _ _ _ _
  have hnone : (build documents).1.HaveKeys [] [] := by simp [HaveKeys]
  constructor
  · intro f hf
    apply followsWays hparsed hpaths he Block.mem_of_lastField?
    rw [← trail_eq_flatMap_comeTo (Layer.trail_fieldTrail f.name) (Layer.fieldTrail_ofBlock f.name)
      maxExtendsDepth hnone hd hi]
    exact (Layer.trailIn_of_mem hdistinct.fields hf).symm
  · intro j hj
    apply followsWays hparsed hpaths he Block.mem_of_lastJoin?
    rw [← trail_eq_flatMap_comeTo (Layer.trail_joinTrail j.name) (Layer.joinTrail_ofBlock j.name)
      maxExtendsDepth hnone hd hi]
    exact (Layer.trailIn_of_mem hdistinct.joins hj).symm

/-- A view that extends two views which have their only field from the same base. -/
def diamondText : String :=
  "view: base \x7b dimension: x \x7b\x7d \x7d\nview: b1 \x7b extends: base \x7d\n" ++
    "view: b2 \x7b extends: base \x7d\nview: a \x7b extends: [b1, b2] \x7d"

open Grammar in
def diamondItems : List Grammar.Item :=
  let span (line start stop : Nat) : Span := ⟨⟨line, start⟩, ⟨line, stop⟩⟩
  let heir (line : Nat) (name : String) : Grammar.Item :=
    .named "view" (span line 1 5) (span line 5 6) (.word name (span line 7 9))
      (.mk (span line 10 11)
        [.scalar "extends" (span line 12 19) (span line 19 20) (.word "base" (span line 21 25))]
        (span line 26 27))
  [.named "view" (span 1 1 5) (span 1 5 6) (.word "base" (span 1 7 11))
      (.mk (span 1 12 13)
        [.named "dimension" (span 1 14 23) (span 1 23 24) (.word "x" (span 1 25 26))
          (.mk (span 1 27 28) [] (span 1 28 29))]
        (span 1 30 31)),
    heir 2 "b1", heir 3 "b2",
    .named "view" (span 4 1 5) (span 4 5 6) (.word "a" (span 4 7 8))
      (.mk (span 4 9 10)
        [.list "extends" (span 4 11 18) (span 4 18 19)
          (.mk (span 4 20 21) (.scalar (.word "b1" (span 4 21 23)))
            (.cons (span 4 23 24) (.scalar (.word "b2" (span 4 25 27))) .nil) (span 4 27 28))]
        (span 4 29 30))]

def diamond : Document :=
  Grammar.document "a.view.lkml" diamondItems

theorem parse_diamondText : Document.parse "a.view.lkml" diamondText = .ok diamond := by
  have hscan : Token.scan "a.view.lkml" diamondText =
      .ok (Grammar.itemTokens diamondItems ++ [⟨.endOfInput, ⟨4, 30⟩, ⟨4, 30⟩⟩]) := by
    decide +kernel
  exact Document.parse_of_scan hscan rfl (by decide)

/-- Two ways lead to the view that declares the field. -/
theorem history_follows_ways_diamond :
    ∃ e ∈ (build [diamond]).1.entities, ∃ f ∈ e.fields,
      ((build [diamond]).1.comeTo maxExtendsDepth [] e).map Entity.name =
        ["base", "b1", "base", "b2", "a"] ∧
      FollowsWays ([diamond].flatMap Document.blocks) (build [diamond]).1 e
        (·.lastField? f.name) f := by
  have hparsed : ∀ d ∈ [diamond], d.IsParsed := by
    simpa using ⟨diamondText, parse_diamondText⟩
  have hfield : ((build [diamond]).1.entities.any fun e => !e.fields.isEmpty &&
      ((build [diamond]).1.comeTo maxExtendsDepth [] e).map Entity.name =
        ["base", "b1", "base", "b2", "a"]) = true := by
    decide +kernel
  obtain ⟨e, he, hways⟩ := List.any_eq_true.1 hfield
  rw [Bool.and_eq_true, Bool.not_eq_true', decide_eq_true_eq] at hways
  obtain ⟨f, hf⟩ := List.exists_mem_of_ne_nil e.fields (by simpa using hways.1)
  exact ⟨e, he, f, hf, hways.2,
    (history_follows_ways hparsed (List.nodup_singleton _) he).1 f hf⟩

/-- The field overrides itself. -/
theorem overridden_diamond :
    Document.parse "a.view.lkml" diamondText = .ok diamond ∧
      ∃ e ∈ (build [diamond]).1.entities, ∃ f ∈ e.fields, f.overridden = [f.location] := by
  have hfield : ((build [diamond]).1.entities.any fun e =>
      e.fields.any fun f => f.overridden = [f.location]) = true := by
    decide +kernel
  refine ⟨parse_diamondText, ?_⟩
  simpa only [List.any_eq_true, decide_eq_true_eq] using hfield

end Project

end LookML
