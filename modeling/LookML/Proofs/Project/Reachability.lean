import LookML.Proofs.Extends.Components
import LookML.Proofs.Project.Inheritance
/-!
# What entities lead to

The linked bases of entities are the edges between their places in the graph of definitions, so an
entity leads to another one exactly when its place leads to the place of that one.
-/

namespace LookML.Project

open Relation Extends

/-- Each of the two entities leads to the other along linked bases. -/
def Mutual (p : Project) (e e' : Entity) : Prop :=
  ReflTransGen p.Links e e' ∧ ReflTransGen p.Links e' e

/-- The graph of the linked bases of a project, between the places of its entities. -/
abbrev baseGraph (documents : List Document) : Graph :=
  Definition.graph (definitions documents)

variable {documents : List Document} {e e' : Entity} {i j : Nat}

theorem place_unique [ComponentFinder] (hi : (build documents).1.entities[i]? = some e)
    (hj : (build documents).1.entities[j]? = some e) : i = j := by
  have hnodup := (nodup_entities documents).of_map
  obtain ⟨hilt, hi⟩ := List.getElem?_eq_some_iff.1 hi
  obtain ⟨hjlt, hj⟩ := List.getElem?_eq_some_iff.1 hj
  exact (List.Nodup.getElem_inj_iff hnodup).1 (hi.trans hj.symm)

theorem lt_length_of_place [ComponentFinder] (hi : (build documents).1.entities[i]? = some e) :
    i < (definitions documents).length := by
  rw [getElem?_entities, Option.map_eq_some_iff] at hi
  obtain ⟨d, hd, _⟩ := hi
  exact (List.getElem?_eq_some_iff.1 hd).1

theorem lt_size_of_place [ComponentFinder] (hi : (build documents).1.entities[i]? = some e) :
    i < (baseGraph documents).size := by
  rw [Definition.size_graph]
  exact lt_length_of_place hi

theorem exists_entity_of_lt [ComponentFinder] (hi : i < (baseGraph documents).size) :
    ∃ e, (build documents).1.entities[i]? = some e := by
  rw [Definition.size_graph] at hi
  rw [getElem?_entities, List.getElem?_eq_getElem hi]
  exact ⟨_, rfl⟩

theorem exists_entity_of_edge [ComponentFinder] (hi : (build documents).1.entities[i]? = some e)
    (hedge : (baseGraph documents).Edge i j) :
    ∃ b, (build documents).1.entities[j]? = some b ∧ (build documents).1.Links e b :=
  exists_entity_of_link ((Definition.link_nodes_iff _ i j).2 hedge) hi

theorem exists_edge_of_links [ComponentFinder] (hi : (build documents).1.entities[i]? = some e)
    (hlinks : (build documents).1.Links e e') :
    ∃ j, (build documents).1.entities[j]? = some e' ∧
      (baseGraph documents).Edge i j := by
  rw [getElem?_entities, Option.map_eq_some_iff] at hi
  obtain ⟨d, hd, rfl⟩ := hi
  rw [Links, linkedBases_build hd] at hlinks
  obtain ⟨j, hedge, hj⟩ := List.mem_filterMap.1 hlinks
  exact ⟨j, hj, hedge⟩

theorem links_iff [ComponentFinder] (hi : (build documents).1.entities[i]? = some e)
    (hj : (build documents).1.entities[j]? = some e') :
    (build documents).1.Links e e' ↔ (baseGraph documents).Edge i j := by
  constructor
  · intro hlinks
    obtain ⟨k, hk, hedge⟩ := exists_edge_of_links hi hlinks
    exact place_unique hk hj ▸ hedge
  · intro hedge
    obtain ⟨b, hb, hlinks⟩ := exists_entity_of_edge hi hedge
    rw [hj] at hb
    exact Option.some.inj hb ▸ hlinks

/-! ## Along chains of bases -/

theorem exists_place_of_reaches [ComponentFinder] (hi : (build documents).1.entities[i]? = some e)
    (h : ReflTransGen (build documents).1.Links e e') :
    ∃ j, (build documents).1.entities[j]? = some e' ∧
      ReflTransGen (baseGraph documents).Edge i j := by
  induction h with
  | refl => exact ⟨i, hi, .refl⟩
  | tail _ hlinks ih =>
    obtain ⟨k, hk, hik⟩ := ih
    obtain ⟨j, hj, hkj⟩ := exists_edge_of_links hk hlinks
    exact ⟨j, hj, hik.tail hkj⟩

theorem exists_entity_of_reaches [ComponentFinder] (hi : (build documents).1.entities[i]? = some e)
    (h : ReflTransGen (baseGraph documents).Edge i j) :
    ∃ b, (build documents).1.entities[j]? = some b ∧
      ReflTransGen (build documents).1.Links e b := by
  induction h with
  | refl => exact ⟨e, hi, .refl⟩
  | tail _ hedge ih =>
    obtain ⟨b, hb, heb⟩ := ih
    obtain ⟨c, hc, hbc⟩ := exists_entity_of_edge hb hedge
    exact ⟨c, hc, heb.tail hbc⟩

theorem reaches_iff [ComponentFinder] (hi : (build documents).1.entities[i]? = some e)
    (hj : (build documents).1.entities[j]? = some e') :
    ReflTransGen (build documents).1.Links e e' ↔
      ReflTransGen (baseGraph documents).Edge i j := by
  constructor
  · intro h
    obtain ⟨k, hk, hik⟩ := exists_place_of_reaches hi h
    exact place_unique hk hj ▸ hik
  · intro h
    obtain ⟨b, hb, heb⟩ := exists_entity_of_reaches hi h
    rw [hj] at hb
    exact Option.some.inj hb ▸ heb

theorem mutual_iff [ComponentFinder] (hi : (build documents).1.entities[i]? = some e)
    (hj : (build documents).1.entities[j]? = some e') :
    (build documents).1.Mutual e e' ↔
      (baseGraph documents).Mutual i j :=
  and_congr (reaches_iff hi hj) (reaches_iff hj hi)

theorem transGen_links_iff [ComponentFinder] (hi : (build documents).1.entities[i]? = some e) :
    TransGen (build documents).1.Links e e ↔
      TransGen (baseGraph documents).Edge i i := by
  rw [TransGen.head'_iff, TransGen.head'_iff]
  constructor
  · rintro ⟨b, hlinks, hback⟩
    obtain ⟨j, hj, hedge⟩ := exists_edge_of_links hi hlinks
    exact ⟨j, hedge, (reaches_iff hj hi).1 hback⟩
  · rintro ⟨j, hedge, hback⟩
    obtain ⟨b, hb, hlinks⟩ := exists_entity_of_edge hi hedge
    exact ⟨b, hlinks, (reaches_iff hb hi).2 hback⟩

end LookML.Project
