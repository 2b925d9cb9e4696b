import LookML.Library.Components
import LookML.Proofs.Extends.CyclePath
import LookML.Proofs.Project.BaseErrors
import LookML.Proofs.Project.Reachability
/-!
# Reports of cycles

Of the entities that extend one another in a circle, one report is made: at the one that is defined
first, with a path of linked bases that goes round through the others and comes back to it.
-/

namespace LookML

open Relation Extends

namespace Project

/-- The entity extends itself, or its component has another member. -/
def OnCycle (p : Project) (e : Entity) : Prop :=
  p.Links e e ∨ ∃ e', e' ≠ e ∧ p.Mutual e e'

def FirstOfComponent (p : Project) (e : Entity) : Prop :=
  ∃ before after, p.entities = before ++ e :: after ∧ ∀ b ∈ before, ¬ p.Mutual e b

/-- The path goes along linked bases from the entity through its component back to it, and meets
no other entity twice. -/
structure RoundTrip (p : Project) (e : Entity) (path : List Entity) : Prop where
  ends : ∃ middle, path = e :: (middle ++ [e]) ∧ (e :: middle).Nodup
  component : ∀ b ∈ path, p.Mutual e b
  linked : path.IsChain p.Links

def ReportsCycle (p : Project) (e : Entity) (error : ResolutionError) : Prop :=
  ∃ path, p.RoundTrip e path ∧ error = .extendsCycle e.key (path.map Entity.key) e.location

variable {documents : List Document} {e : Entity} {i : Nat}

theorem onCycle_iff [ComponentFinder] (hi : (build documents).1.entities[i]? = some e) :
    (build documents).1.OnCycle e ↔
      TransGen (baseGraph documents).Edge i i := by
  rw [Graph.transGen_self_iff, OnCycle, links_iff hi hi]
  apply or_congr_right
  constructor
  · rintro ⟨b, hne, hmutual⟩
    obtain ⟨j, hj, _⟩ := exists_place_of_reaches hi hmutual.1
    refine ⟨j, ?_, (mutual_iff hi hj).1 hmutual⟩
    rintro rfl
    exact hne (Option.some.inj (hj.symm.trans hi))
  · rintro ⟨j, hne, hmutual⟩
    obtain ⟨b, hj, _⟩ := exists_entity_of_reaches hi hmutual.1
    refine ⟨b, ?_, (mutual_iff hi hj).2 hmutual⟩
    rintro rfl
    exact hne (place_unique hj hi)

theorem component_mem_orderedCycles [ComponentFinder]
    (hi : (build documents).1.entities[i]? = some e) (hcycle : (build documents).1.OnCycle e) :
    (baseGraph documents).component i ∈ (baseGraph documents).orderedCycles :=
  Graph.mem_orderedCycles_iff.2 ⟨i, lt_size_of_place hi, (onCycle_iff hi).1 hcycle, rfl⟩

theorem firstOfComponent_iff [ComponentFinder] (hi : (build documents).1.entities[i]? = some e) :
    (build documents).1.FirstOfComponent e ↔
      ∀ j < i, ¬ (baseGraph documents).Mutual i j := by
  have hlt := lt_size_of_place hi
  constructor
  · rintro ⟨before, after, hsplit, hbefore⟩ j hj hmutual
    have hplace : (build documents).1.entities[before.length]? = some e := by
      rw [hsplit, List.getElem?_append_right (Nat.le_refl _)]
      simp
    have hlength := place_unique hplace hi
    obtain ⟨b, hb⟩ := exists_entity_of_lt (Nat.lt_trans hj hlt)
    have hmem : b ∈ before := by
      apply List.mem_of_getElem? (i := j)
      rw [← hb, hsplit, List.getElem?_append_left (by omega)]
    exact hbefore b hmem ((mutual_iff hi hb).2 hmutual)
  · intro hfirst
    obtain ⟨hilt, hget⟩ := List.getElem?_eq_some_iff.1 hi
    refine ⟨(build documents).1.entities.take i, (build documents).1.entities.drop (i + 1), ?_, ?_⟩
    · rw [← hget, List.getElem_cons_drop, List.take_append_drop]
    · intro b hb hmutual
      obtain ⟨j, hj⟩ := List.mem_iff_getElem?.1 hb
      rw [List.getElem?_take] at hj
      split at hj
      · rename_i hji
        exact hfirst j hji ((mutual_iff hi hj).1 hmutual)
      · cases hj

/-! ## The path of a report -/

theorem isChain_links [ComponentFinder] {path : List Nat}
    (hpath : ∀ v ∈ path, v < (baseGraph documents).size)
    (h : path.IsChain (baseGraph documents).Edge) :
    (path.filterMap ((build documents).1.entities[·]?)).IsChain (build documents).1.Links := by
  induction path with
  | nil => exact .nil
  | cons v path ih =>
    obtain ⟨e, hv⟩ := exists_entity_of_lt (hpath v List.mem_cons_self)
    have hrest := fun w hw => hpath w (List.mem_cons_of_mem v hw)
    rw [List.filterMap_cons_some hv]
    refine (ih hrest h.tail).cons ?_
    intro b hb
    cases path with
    | nil => cases hb
    | cons w path =>
      obtain ⟨c, hw⟩ := exists_entity_of_lt (hrest w List.mem_cons_self)
      rw [List.filterMap_cons_some hw, List.head?_cons, Option.mem_some_iff] at hb
      subst hb
      exact (links_iff hv hw).2 (List.isChain_cons_cons.1 h).1

theorem map_key_filterMap [ComponentFinder] (path : List Nat) :
    (path.filterMap ((build documents).1.entities[·]?)).map Entity.key =
      path.filterMap fun v => (definitions documents)[v]?.map Definition.key := by
  rw [List.map_filterMap]
  apply List.filterMap_congr
  intro v _
  rw [getElem?_entities, Option.map_map]
  rfl

theorem roundTrip_cyclePath [ComponentFinder] (hi : (build documents).1.entities[i]? = some e)
    (hcycle : TransGen (baseGraph documents).Edge i i) :
    (build documents).1.RoundTrip e
      (((baseGraph documents).cyclePath ((baseGraph documents).component i) i).filterMap
        ((build documents).1.entities[·]?)) := by
  have hsize := lt_size_of_place hi
  obtain ⟨middle, heq, hnodup, _, hchain⟩ := Graph.exists_cyclePath hsize hcycle
  have hmember := fun v => Graph.mem_component_of_mem_cyclePath hsize hcycle (v := v)
  refine ⟨?_, ?_, ?_⟩
  · refine ⟨middle.filterMap ((build documents).1.entities[·]?), ?_, ?_⟩
    · rw [heq, List.filterMap_cons_some hi, List.filterMap_append, List.filterMap_cons_some hi]
      rfl
    · rw [← List.filterMap_cons_some (f := ((build documents).1.entities[·]?)) hi]
      apply hnodup.filterMap
      intro v w b hv hw
      exact place_unique hv hw
  · intro b hb
    obtain ⟨v, hv, hvb⟩ := List.mem_filterMap.1 hb
    exact (mutual_iff hi hvb).2 (Graph.mem_component_iff.1 (hmember v hv)).2
  · apply isChain_links _ hchain
    exact fun v hv => (Graph.mem_component_iff.1 (hmember v hv)).1

/-! ## The entity of a report -/

theorem exists_report [ComponentFinder] {members : List Nat}
    (h : members ∈ (baseGraph documents).orderedCycles) :
    ∃ e error, members.head?.bind ((build documents).1.entities[·]?) = some e ∧
      Definition.cycleError? (definitions documents) members = some error ∧
      (build documents).1.ReportsCycle e error := by
  obtain ⟨first, hhead, hmembers, hsize, hcycle⟩ := Graph.exists_first_of_mem_orderedCycles h
  rw [Definition.size_graph] at hsize
  have hd := List.getElem?_eq_getElem hsize
  have he := getElem?_entities documents first
  rw [hd, Option.map_some] at he
  have herror : Definition.cycleError? (definitions documents) members =
      some (.extendsCycle (definitions documents)[first].key
        (((baseGraph documents).cyclePath members first).filterMap
          fun v => (definitions documents)[v]?.map Definition.key)
        (definitions documents)[first].location) := by
    simp only [Definition.cycleError?, hhead, hd, Option.bind_eq_bind, Option.bind_some,
      Option.pure_def]
  refine ⟨_, _, by rw [hhead, Option.bind_some, he], herror, _, roundTrip_cyclePath he hcycle, ?_⟩
  rw [map_key_filterMap, ← hmembers]
  rfl

theorem forall₂_filterMap {α β γ : Type} {R : β → γ → Prop} {f : α → Option β}
    {g : α → Option γ} {xs : List α}
    (h : ∀ x ∈ xs, ∃ b c, f x = some b ∧ g x = some c ∧ R b c) :
    List.Forall₂ R (xs.filterMap f) (xs.filterMap g) := by
  induction xs with
  | nil => exact .nil
  | cons x xs ih =>
    obtain ⟨b, c, hb, hc, hbc⟩ := h x List.mem_cons_self
    rw [List.filterMap_cons_some hb, List.filterMap_cons_some hc]
    exact .cons hbc (ih fun y hy => h y (List.mem_cons_of_mem x hy))

def cycleStarts [ComponentFinder] (documents : List Document) : List Entity :=
  (baseGraph documents).orderedCycles.filterMap fun members =>
    members.head?.bind ((build documents).1.entities[·]?)

theorem nodup_cycleStarts [ComponentFinder] (documents : List Document) :
    (cycleStarts documents).Nodup := by
  rw [cycleStarts, List.Nodup, List.pairwise_filterMap]
  apply (Graph.pairwise_disjoint_orderedCycles _).imp
  rintro members members' hdisjoint e he e' he' rfl
  obtain ⟨i, hi, hei⟩ := Option.bind_eq_some_iff.1 he
  obtain ⟨j, hj, hej⟩ := Option.bind_eq_some_iff.1 he'
  have hmem := List.mem_of_mem_head? hj
  rw [← place_unique hei hej] at hmem
  exact hdisjoint (List.mem_of_mem_head? hi) hmem

theorem mem_cycleStarts_iff [ComponentFinder] :
    e ∈ cycleStarts documents ↔ e ∈ (build documents).1.entities ∧
      (build documents).1.OnCycle e ∧ (build documents).1.FirstOfComponent e := by
  constructor
  · intro h
    obtain ⟨members, hmembers, he⟩ := List.mem_filterMap.1 h
    obtain ⟨first, hhead, rfl, hsize, hcycle⟩ := Graph.exists_first_of_mem_orderedCycles hmembers
    rw [hhead, Option.bind_some] at he
    refine ⟨List.mem_of_getElem? he, (onCycle_iff he).2 hcycle, (firstOfComponent_iff he).2 ?_⟩
    intro j hj hmutual
    have hmem : j ∈ (baseGraph documents).component first :=
      Graph.mem_component_iff.2 ⟨Nat.lt_trans hj hsize, hmutual⟩
    exact absurd (Graph.le_of_head?_component hhead hmem) (Nat.not_le_of_lt hj)
  · rintro ⟨hmem, hcycle, hfirst⟩
    obtain ⟨i, hi⟩ := List.mem_iff_getElem?.1 hmem
    have hmembers := component_mem_orderedCycles hi hcycle
    obtain ⟨first, hhead, _⟩ := Graph.exists_first_of_mem_orderedCycles hmembers
    have hle := Graph.le_of_head?_component hhead
      (Graph.mem_component_self (lt_size_of_place hi))
    obtain ⟨_, hmutual⟩ := Graph.mem_component_iff.1 (List.mem_of_mem_head? hhead)
    have heq : first = i := by
      by_contra hne
      exact (firstOfComponent_iff hi).1 hfirst first (by omega) hmutual
    refine List.mem_filterMap.2 ⟨_, hmembers, ?_⟩
    rw [hhead, Option.bind_some, heq, hi]

theorem eq_of_mutual_of_first [ComponentFinder] {e' : Entity}
    (hmem : e ∈ (build documents).1.entities) (hmem' : e' ∈ (build documents).1.entities)
    (hfirst : (build documents).1.FirstOfComponent e)
    (hfirst' : (build documents).1.FirstOfComponent e') (hmutual : (build documents).1.Mutual e e') :
    e = e' := by
  obtain ⟨i, hi⟩ := List.mem_iff_getElem?.1 hmem
  obtain ⟨j, hj⟩ := List.mem_iff_getElem?.1 hmem'
  have hij := (mutual_iff hi hj).1 hmutual
  rcases Nat.lt_trichotomy i j with hlt | rfl | hlt
  · exact absurd hij.symm ((firstOfComponent_iff hj).1 hfirst' i hlt)
  · exact Option.some.inj (hi.symm.trans hj)
  · exact absurd hij ((firstOfComponent_iff hi).1 hfirst j hlt)

theorem exists_cycleStart [ComponentFinder] (hmem : e ∈ (build documents).1.entities)
    (hcycle : (build documents).1.OnCycle e) :
    ∃ start ∈ cycleStarts documents, (build documents).1.Mutual e start := by
  obtain ⟨i, hi⟩ := List.mem_iff_getElem?.1 hmem
  have hmembers := component_mem_orderedCycles hi hcycle
  obtain ⟨first, hhead, _, hfirst, _⟩ := Graph.exists_first_of_mem_orderedCycles hmembers
  obtain ⟨start, hstart⟩ := exists_entity_of_lt hfirst
  obtain ⟨_, hmutual⟩ := Graph.mem_component_iff.1 (List.mem_of_mem_head? hhead)
  refine ⟨start, List.mem_filterMap.2 ⟨_, hmembers, ?_⟩, (mutual_iff hi hstart).2 hmutual⟩
  rw [hhead, Option.bind_some, hstart]

theorem exists_error_of_cycleStart [ComponentFinder] (h : e ∈ cycleStarts documents) :
    ∃ error ∈ Definition.cycleErrors (definitions documents),
      (build documents).1.ReportsCycle e error := by
  obtain ⟨members, hmembers, he⟩ := List.mem_filterMap.1 h
  obtain ⟨start, error, hstart, herror, hreports⟩ := exists_report hmembers
  rw [he] at hstart
  cases hstart
  exact ⟨error, Definition.mem_cycleErrors_iff.2 ⟨members, hmembers, herror⟩, hreports⟩

theorem exists_cycleStart_of_error [ComponentFinder] {error : ResolutionError}
    (h : error ∈ Definition.cycleErrors (definitions documents)) :
    ∃ start ∈ cycleStarts documents, (build documents).1.ReportsCycle start error := by
  obtain ⟨members, hmembers, herror⟩ := Definition.mem_cycleErrors_iff.1 h
  obtain ⟨start, error', hstart, herror', hreports⟩ := exists_report hmembers
  rw [herror] at herror'
  cases herror'
  exact ⟨start, List.mem_filterMap.2 ⟨members, hmembers, hstart⟩, hreports⟩

/-! ## Main statement -/

/-- Keys, places and declared bases of the entities are those of the definitions, so that what
extends what in the project is what the definitions declare. -/
theorem map_bases_entities [ComponentFinder] (documents : List Document) :
    ((build documents).1.entities.map fun e => (e.key, e.location, e.bases)) =
      (definitions documents).map fun d => (d.key, d.location, d.layer.bases) := by
  rw [entities_build_eq_map, List.map_map]
  rfl

theorem isSome_pathTo_of_mem_cycles [ComponentFinder] {members : List Nat} {start : Nat}
    (hmembers : members ∈ (baseGraph documents).cycles) (hstart : members.min? = some start) :
    ((baseGraph documents).pathTo members start members.length
      ((baseGraph documents).basesOf start) [start]).1.isSome := by
  obtain ⟨hlisted, v, hv, hcycle⟩ := Graph.mem_cycles_iff.1 hmembers
  have hcorrect := ComponentFinder.correct (baseGraph documents)
  have hmem : start ∈ members := (List.min?_eq_some_iff.1 hstart).1
  obtain ⟨hsize, hmutual⟩ := Graph.mem_component_iff.1
    ((hcorrect.mem_iff_mem_component hlisted hv).1 hmem)
  have hperm := hcorrect.perm_component hlisted hmem
  rw [Graph.pathTo_congr fun _ => hperm.mem_iff, hperm.length_eq]
  exact Graph.isSome_pathTo hsize (hmutual.symm.cyclic hcycle)

/-- However the library lists the components, each one with a cycle is reported once, at its first
member and with a path around it; nothing else is reported as a cycle. What extends what is what
the definitions declare, and the search for the path never fails. -/
theorem cycles_reported_once [ComponentFinder] (documents : List Document) :
    (∃ starts : List Entity, starts.Nodup ∧
      (∀ e ∈ starts, e ∈ (build documents).1.entities ∧ (build documents).1.OnCycle e ∧
        (build documents).1.FirstOfComponent e) ∧
      (∀ e ∈ (build documents).1.entities, (build documents).1.OnCycle e →
        ∃! start, start ∈ starts ∧ (build documents).1.Mutual e start) ∧
      List.Forall₂ (build documents).1.ReportsCycle starts
        ((build documents).2.filter (·.isCycle))) ∧
    (((build documents).1.entities.map fun e => (e.key, e.location, e.bases)) =
      (definitions documents).map fun d => (d.key, d.location, d.layer.bases)) ∧
    ∀ members ∈ (baseGraph documents).cycles, ∀ start ∈ members.min?,
      ((baseGraph documents).pathTo members start members.length
        ((baseGraph documents).basesOf start) [start]).1.isSome := by
  refine ⟨⟨cycleStarts documents, nodup_cycleStarts documents, ?_, ?_, ?_⟩,
    map_bases_entities documents, fun members hmembers start hstart =>
      isSome_pathTo_of_mem_cycles hmembers hstart⟩
  · exact fun e he => mem_cycleStarts_iff.1 he
  · intro e hmem hcycle
    obtain ⟨start, hstart, hmutual⟩ := exists_cycleStart hmem hcycle
    refine ⟨start, ⟨hstart, hmutual⟩, ?_⟩
    rintro other ⟨hother, hmutual'⟩
    obtain ⟨hstartmem, _, hfirst⟩ := mem_cycleStarts_iff.1 hstart
    obtain ⟨hothermem, _, hfirst'⟩ := mem_cycleStarts_iff.1 hother
    have hsame : (build documents).1.Mutual other start :=
      ⟨hmutual'.2.trans hmutual.1, hmutual.2.trans hmutual'.1⟩
    exact eq_of_mutual_of_first hothermem hstartmem hfirst' hfirst hsame
  · rw [filter_isCycle_build, Definition.cycleErrors_eq_filterMap]
    exact forall₂_filterMap fun members hmembers => exists_report hmembers

/-- A circle of three views whose last one leads only to the one before it, a view that extends
itself, and one that extends the circle from outside. -/
def knots : List Document :=
  let l := Location.wholeFile "f"
  let view := fun name bases => Block.mk .view (some name)
    [.mk "extends" (.list (bases.map Value.text)) l] [] l
  [⟨"f", [], [view "e" ["a"], view "a" ["b"], view "b" ["c", "a"], view "c" ["b"], view "d" ["d"]]⟩]

theorem cycles_reported_once_knots :
    ((build knots).2.filter (·.isCycle)).map ResolutionError.entity = ["view:a", "view:d"] ∧
      ∃ starts : List Entity, starts.length = 2 ∧
        (∀ e ∈ starts, (build knots).1.OnCycle e ∧ (build knots).1.FirstOfComponent e) ∧
        List.Forall₂ (build knots).1.ReportsCycle starts
          ((build knots).2.filter (·.isCycle)) := by
  have hentities :
      ((build knots).2.filter (·.isCycle)).map ResolutionError.entity = ["view:a", "view:d"] := by
    decide +kernel
  obtain ⟨⟨starts, _, hstarts, _, hreports⟩, _⟩ := cycles_reported_once knots
  have hlength := congrArg List.length hentities
  rw [List.length_map, ← hreports.length_eq] at hlength
  exact ⟨hentities, starts, hlength, fun e he => (hstarts e he).2, hreports⟩

end Project

end LookML
