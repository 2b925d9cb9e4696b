import LookML.Proofs.Extends.Degradation
import LookML.Proofs.Project.Cycles
/-!
# When something is missing from an entity

An entity is complete exactly when every base that it leads to is defined, no chain of bases goes
round in a circle, and none of its own is too long. Whatever is missing, the build says why, and it
says so only about entities from which something is missing.
-/

namespace LookML

open Relation Extends

/-- The texts that the entity declares as its bases, the empty one included. -/
def Entity.declaredBases (e : Entity) : List String :=
  (e.get? "extends").elim [] Value.texts

/-- The view or explore whose bases the error is about. -/
def ResolutionError.heir? : ResolutionError → Option EntityKey
  | .extendsCycle start _ _ => some start
  | .extendsTooDeep entity _ | .extendsNotFound entity _ _ => some entity
  | _ => none

theorem ResolutionError.isAboutBases_of_heir? {error : ResolutionError} {key : EntityKey}
    (h : error.heir? = some key) : error.isAboutBases = true := by
  cases error <;> first | rfl | cases h

theorem Property.last?_eq_all? (properties : List Property) (name : String) :
    last? properties name = (all? properties name).bind List.getLast? := by
  have hlast : last? properties name = (occurrences properties name).getLast? := by
    rw [last?, occurrences, ← List.head?_filter, List.filter_reverse, List.head?_reverse]
  rw [hlast]
  unfold all?
  split
  · rename_i hnone
    rw [hnone]
    rfl
  · rename_i p ps hsome
    rw [hsome]
    rfl

namespace Resolution

theorem ofReasons_eq_complete {reasons : List Degradation} :
    ofReasons reasons = complete ↔ reasons = [] := by
  cases reasons <;> simp [ofReasons]

theorem isDegraded_iff {r : Resolution} : r.isDegraded = true ↔ r ≠ complete := by
  cases r <;> simp [isDegraded]

end Resolution

namespace Project

/-- Nothing that the entity leads to keeps its bases from being merged. -/
structure Resolves (p : Project) (e : Entity) : Prop where
  acyclic : ∀ b, ReflTransGen p.Links e b → ¬ TransGen p.Links b b
  defined : ∀ b, ReflTransGen p.Links e b → ∀ base ∈ b.declaredBases, base ≠ "" →
    (p.entity? b.kind base).isSome
  short : p.ChainsWithin maxExtendsDepth e

/-- The errors say why something is missing from the entity. -/
inductive Accounted (p : Project) (errors : List ResolutionError) (e : Entity) : Prop
  | notFound (b : Entity) (base : EntityName) (location : Location) :
      ReflTransGen p.Links e b → .extendsNotFound b.key base location ∈ errors →
      Accounted p errors e
  | cycle (start : Entity) (path : List EntityKey) (location : Location) :
      ReflTransGen p.Links e start → .extendsCycle start.key path location ∈ errors →
      Accounted p errors e
  | tooDeep (location : Location) :
      .extendsTooDeep e.key location ∈ errors → Accounted p errors e

variable {documents : List Document} {e : Entity} {i : Nat} {d : Definition}

/-! ## Declared bases -/

theorem property?_extends_toEntity [ComponentFinder] (hi : (definitions documents)[i]? = some d) :
    (d.toEntity (Definition.mergedAt (definitions documents) i d)).property? "extends" =
      d.layer.extends? := by
  have hown := Definition.distinct_layer (List.mem_of_getElem? hi)
  have hhidden : ∀ (base : Layer) (heir : EntityName),
      Layer.propertiesOf "extends" (base.bequeath heir) = none := by
    intro base heir
    rw [Layer.propertiesOf_bequeath, if_pos (by decide)]
  have hall : Layer.propertiesOf "extends" (Definition.mergedAt (definitions documents) i d).layer =
      Layer.propertiesOf "extends" d.layer :=
    lookup_layer_own (Layer.lookup_propertiesOf "extends") hhidden maxExtendsDepth [] i hown
  have hlast : ∀ l : Layer, Property.last? l.properties "extends" =
      (Layer.propertiesOf "extends" l).bind List.getLast? :=
    fun l => Property.last?_eq_all? l.properties "extends"
  rw [Layer.extends?, hlast]
  exact (hlast _).trans (congrArg (·.bind List.getLast?) hall)

theorem bases_eq_declaredBases [ComponentFinder] (hi : (definitions documents)[i]? = some d) :
    d.layer.bases =
      (d.toEntity (Definition.mergedAt (definitions documents) i d)).declaredBases.filterMap
        Identifier.ofText? := by
  rw [Entity.declaredBases, Entity.get?, property?_extends_toEntity hi, Layer.bases]
  cases d.layer.extends? <;> rfl

theorem isSome_indexOf?_iff [ComponentFinder] (key : EntityKey) :
    (Definition.indexOf? (definitions documents) key).isSome ↔
      ((build documents).1.entity? key.kind key.name.text).isSome := by
  rw [entity?_build]
  cases hindex : Definition.indexOf? (definitions documents) key with
  | none => simp
  | some j =>
    obtain ⟨b, hb, _⟩ := Definition.key_of_indexOf? hindex
    rw [Option.bind_some, getElem?_entities, hb]
    simp

theorem missingBases_eq_nil_iff [ComponentFinder] (hi : (definitions documents)[i]? = some d)
    (he : (build documents).1.entities[i]? = some e) :
    Definition.missingBases (definitions documents) d = [] ↔
      ∀ base ∈ e.declaredBases, base ≠ "" → ((build documents).1.entity? e.kind base).isSome := by
  rw [getElem?_entities, hi, Option.map_some, Option.some.injEq] at he
  subst he
  rw [Definition.missingBases, List.filter_eq_nil_iff, bases_eq_declaredBases hi]
  simp only [Option.isNone_iff_eq_none, ← Option.not_isSome_iff_eq_none, not_not,
    isSome_indexOf?_iff, List.mem_filterMap, Identifier.ofText?_eq_some_iff]
  constructor
  · intro h base hbase hne
    exact h ⟨base, hne⟩ ⟨base, hbase, rfl⟩
  · rintro h ⟨base, hne⟩ ⟨_, hbase, rfl⟩
    exact h base hbase hne

/-! ## From nodes to entities -/

theorem exists_definition [ComponentFinder] (he : (build documents).1.entities[i]? = some e) :
    ∃ d, (definitions documents)[i]? = some d ∧
      e = d.toEntity (Definition.mergedAt (definitions documents) i d) := by
  rw [getElem?_entities, Option.map_eq_some_iff] at he
  obtain ⟨d, hd, rfl⟩ := he
  exact ⟨d, hd, rfl⟩

theorem ownReasons_eq_nil_iff [ComponentFinder] (hi : (definitions documents)[i]? = some d)
    (he : (build documents).1.entities[i]? = some e) :
    (d.toNode (definitions documents) (baseGraph documents) i).reasons = [] ↔
      ¬ TransGen (build documents).1.Links e e ∧
        ∀ base ∈ e.declaredBases, base ≠ "" →
          ((build documents).1.entity? e.kind base).isSome := by
  rw [← missingBases_eq_nil_iff hi he, transGen_links_iff he, ← Graph.isCyclic_iff]
  simp only [Definition.toNode, List.append_eq_nil_iff, List.map_eq_nil_iff]
  rw [and_comm]
  apply and_congr_left'
  cases (baseGraph documents).isCyclic i <;> simp

theorem link_eq_edge [ComponentFinder] (documents : List Document) :
    Link (Definition.nodes (definitions documents)) = (baseGraph documents).Edge := by
  funext v w
  exact propext (Definition.link_nodes_iff _ v w)

theorem flawless_iff_entities [ComponentFinder] (he : (build documents).1.entities[i]? = some e) :
    Flawless (Definition.nodes (definitions documents)) i ↔
      ∀ b, ReflTransGen (build documents).1.Links e b →
        ¬ TransGen (build documents).1.Links b b ∧
          ∀ base ∈ b.declaredBases, base ≠ "" →
            ((build documents).1.entity? b.kind base).isSome := by
  unfold Flawless
  rw [link_eq_edge]
  constructor
  · intro h b hb
    obtain ⟨j, hj, hij⟩ := exists_place_of_reaches he hb
    obtain ⟨d, hd, _⟩ := exists_definition hj
    apply (ownReasons_eq_nil_iff hd hj).1
    exact h j hij _ (Definition.getElem?_nodes_of_getElem? hd)
  · intro h j hij node hnode
    obtain ⟨b, hj, hb⟩ := exists_entity_of_reaches he hij
    rw [Definition.getElem?_nodes, Option.map_eq_some_iff] at hnode
    obtain ⟨d, hd, rfl⟩ := hnode
    exact (ownReasons_eq_nil_iff hd hj).2 (h b hb)

theorem chainsWithin_iff [ComponentFinder] {n : Nat}
    (he : (build documents).1.entities[i]? = some e) :
    (build documents).1.ChainsWithin n e ↔
      ChainsFit (Definition.nodes (definitions documents)) n i := by
  constructor
  · exact fun h => h.nodes he
  · have hplaces : ∀ (es : List Entity) (i : Nat) (e : Entity),
        (build documents).1.entities[i]? = some e →
        List.IsChain (build documents).1.Links (e :: es) →
        ∃ chain : List Nat, chain.length = es.length ∧
          List.IsChain (baseGraph documents).Edge (i :: chain) := by
      intro es
      induction es with
      | nil => exact fun i _ _ _ => ⟨[], rfl, .singleton i⟩
      | cons b es ih =>
        intro i e he hes
        obtain ⟨hlinks, hrest⟩ := List.isChain_cons_cons.1 hes
        obtain ⟨j, hj, hedge⟩ := exists_edge_of_links he hlinks
        obtain ⟨chain, hlength, hchain⟩ := ih j b hj hrest
        exact ⟨j :: chain, by simp [hlength], List.isChain_cons_cons.2 ⟨hedge, hchain⟩⟩
    intro h es hes
    obtain ⟨chain, hlength, hchain⟩ := hplaces es i e he hes
    rw [← link_eq_edge] at hchain
    exact hlength ▸ h chain hchain

theorem resolves_iff [ComponentFinder] (he : (build documents).1.entities[i]? = some e) :
    (build documents).1.Resolves e ↔
      ChainsFit (Definition.nodes (definitions documents)) maxExtendsDepth i ∧
        Flawless (Definition.nodes (definitions documents)) i := by
  rw [← chainsWithin_iff he, flawless_iff_entities he]
  constructor
  · exact fun h => ⟨h.short, fun b hb => ⟨h.acyclic b hb, h.defined b hb⟩⟩
  · exact fun h => ⟨fun b hb => (h.2 b hb).1, fun b hb => (h.2 b hb).2, h.1⟩

/-! ## The resolution of an entity -/

theorem complete_toEntity_iff (d : Definition) (m : Merged) :
    (d.toEntity m).resolution = .complete ↔ m.reasons = [] ∧ m.truncated = false := by
  rw [Definition.toEntity, Resolution.ofReasons_eq_complete, List.append_eq_nil_iff]
  apply and_congr_right'
  cases m.truncated <;> simp

theorem complete_iff_resolves [ComponentFinder] (he : (build documents).1.entities[i]? = some e) :
    e.resolution = .complete ↔ (build documents).1.Resolves e := by
  obtain ⟨d, hd, rfl⟩ := exists_definition he
  have hnode := Definition.getElem?_nodes_of_getElem? hd
  rw [complete_toEntity_iff, resolves_iff he]
  constructor
  · rintro ⟨hreasons, htruncated⟩
    refine chainsFit_and_flawless (Definition.consistent_nodes _) ?_ hnode hreasons htruncated
    intro id node hid hcyclic hnil
    rw [Definition.getElem?_nodes, Option.map_eq_some_iff] at hid
    obtain ⟨b, _, rfl⟩ := hid
    have hmarked : (baseGraph documents).isCyclic id = true := hcyclic
    simp [Definition.toNode, hmarked] at hnil
  · rintro ⟨hfits, hflawless⟩
    exact ⟨hflawless.reasons_eq_nil hnode maxExtendsDepth [],
      hfits.truncated_eq_false hnode []⟩

/-! ## Why something is missing -/

theorem accounted_of_truncated [ComponentFinder] (hi : (definitions documents)[i]? = some d)
    (h : (Definition.mergedAt (definitions documents) i d).truncated = true) :
    (build documents).1.Accounted (build documents).2
      (d.toEntity (Definition.mergedAt (definitions documents) i d)) := by
  apply Accounted.tooDeep d.location
  apply (mem_errors_iff rfl).2 (Or.inr (Or.inr _))
  refine List.mem_filterMap.2 ⟨d, List.mem_of_getElem? hi, ?_⟩
  rw [Definition.mergedIn, Definition.placeOf_eq (nodup_keys_definitions documents) hi,
    Definition.tooDeepError?, if_pos h]
  rfl

theorem accounted_of_cycle [ComponentFinder] {b : Entity} (hb : b ∈ (build documents).1.entities)
    (hreach : ReflTransGen (build documents).1.Links e b)
    (hcycle : TransGen (build documents).1.Links b b) :
    (build documents).1.Accounted (build documents).2 e := by
  obtain ⟨j, hj⟩ := List.mem_iff_getElem?.1 hb
  have honcycle := (onCycle_iff hj).2 ((transGen_links_iff hj).1 hcycle)
  obtain ⟨start, hstart, hmutual⟩ := exists_cycleStart hb honcycle
  obtain ⟨_, herror, path, _, rfl⟩ := exists_error_of_cycleStart hstart
  exact .cycle start _ _ (hreach.trans hmutual.1)
    ((mem_errors_iff rfl).2 (Or.inr (Or.inl herror)))

theorem accounted_of_missing [ComponentFinder] {b : Entity} {base : String}
    (hb : (build documents).1.entities[i]? = some b)
    (hreach : ReflTransGen (build documents).1.Links e b) (hbase : base ∈ b.declaredBases)
    (hne : base ≠ "") (hnone : ((build documents).1.entity? b.kind base).isSome = false) :
    (build documents).1.Accounted (build documents).2 e := by
  obtain ⟨d, hd, hbd⟩ := exists_definition hb
  have hmissing : Definition.missingBases (definitions documents) d ≠ [] := by
    intro hnil
    have hsome := (missingBases_eq_nil_iff hd hb).1 hnil base hbase hne
    rw [hnone] at hsome
    cases hsome
  obtain ⟨name, hname⟩ := List.exists_mem_of_ne_nil _ hmissing
  have hkey : b.key = d.key := by rw [hbd]; rfl
  have herror : ∃ location, .extendsNotFound b.key name location ∈ missingErrors documents := by
    rw [hkey]
    exact ⟨_, List.mem_flatMap.2
      ⟨d, List.mem_of_getElem? hd, List.mem_map.2 ⟨name, hname, rfl⟩⟩⟩
  obtain ⟨location, herror⟩ := herror
  exact .notFound b name location hreach ((mem_errors_iff rfl).2 (Or.inl herror))

theorem accounted_of_degraded [ComponentFinder] (he : (build documents).1.entities[i]? = some e)
    (h : e.resolution.isDegraded = true) :
    (build documents).1.Accounted (build documents).2 e := by
  obtain ⟨d, hd, rfl⟩ := exists_definition he
  by_cases htruncated : (Definition.mergedAt (definitions documents) i d).truncated = true
  · exact accounted_of_truncated hd htruncated
  · have hflaw : ¬ Flawless (Definition.nodes (definitions documents)) i := by
      intro hflawless
      apply Resolution.isDegraded_iff.1 h
      rw [complete_toEntity_iff]
      exact ⟨hflawless.reasons_eq_nil (Definition.getElem?_nodes_of_getElem? hd) maxExtendsDepth [],
        by simpa using htruncated⟩
    rw [flawless_iff_entities he] at hflaw
    push Not at hflaw
    obtain ⟨b, hreach, hb⟩ := hflaw
    obtain ⟨j, hj, _⟩ := exists_place_of_reaches he hreach
    by_cases hcycle : TransGen (build documents).1.Links b b
    · exact accounted_of_cycle (List.mem_of_getElem? hj) hreach hcycle
    · obtain ⟨base, hbase, hne, hnone⟩ := hb hcycle
      exact accounted_of_missing hj hreach hbase hne (by simpa using hnone)

theorem exists_degraded_of_error [ComponentFinder] {error : ResolutionError} {key : EntityKey}
    (herror : error ∈ (build documents).2) (hkey : error.heir? = some key) :
    ∃ e ∈ (build documents).1.entities, e.key = key ∧ e.resolution.isDegraded = true := by
  rcases (mem_errors_iff (ResolutionError.isAboutBases_of_heir? hkey)).1 herror with
    hmissing | hcycle | hdeep
  · obtain ⟨d, hd, base, hbase, location, rfl⟩ := exists_of_mem_missingErrors hmissing
    cases hkey
    obtain ⟨j, hj⟩ := List.mem_iff_getElem?.1 hd
    have he := getElem?_entities documents j
    rw [hj, Option.map_some] at he
    refine ⟨_, List.mem_of_getElem? he, rfl, Resolution.isDegraded_iff.2 ?_⟩
    intro hcomplete
    have hdefined := ((complete_iff_resolves he).1 hcomplete).defined _ .refl
    have hnil := (missingBases_eq_nil_iff hj he).2 hdefined
    rw [hnil] at hbase
    cases hbase
  · obtain ⟨start, hstart, path, _, rfl⟩ := exists_cycleStart_of_error hcycle
    cases hkey
    obtain ⟨hmem, honcycle, _⟩ := mem_cycleStarts_iff.1 hstart
    refine ⟨start, hmem, rfl, Resolution.isDegraded_iff.2 ?_⟩
    intro hcomplete
    obtain ⟨j, hj⟩ := List.mem_iff_getElem?.1 hmem
    have hround := (transGen_links_iff hj).2 ((onCycle_iff hj).1 honcycle)
    exact ((complete_iff_resolves hj).1 hcomplete).acyclic start .refl hround
  · obtain ⟨d, hd, htruncated, rfl⟩ := exists_of_mem_tooDeepErrors hdeep
    cases hkey
    obtain ⟨j, hj⟩ := List.mem_iff_getElem?.1 hd
    have he := getElem?_entities documents j
    rw [hj, Option.map_some] at he
    refine ⟨_, List.mem_of_getElem? he, rfl, Resolution.isDegraded_iff.2 ?_⟩
    rw [Definition.mergedIn, Definition.placeOf_eq (nodup_keys_definitions documents) hj]
      at htruncated
    rw [Ne, complete_toEntity_iff, htruncated]
    simp

/-! ## Main statement -/

/-- An entity is complete exactly when its bases resolve. If something is missing from it, an error
about what it leads to says so, and every error about bases is about such an entity. -/
theorem degradation_exact [ComponentFinder] (documents : List Document) :
    (∀ e ∈ (build documents).1.entities,
      (e.resolution = .complete ↔ (build documents).1.Resolves e) ∧
      (e.resolution.isDegraded = true →
        (build documents).1.Accounted (build documents).2 e)) ∧
    ∀ error ∈ (build documents).2, ∀ key ∈ error.heir?,
      ∃ e ∈ (build documents).1.entities, e.key = key ∧ e.resolution.isDegraded = true := by
  constructor
  · intro e hmem
    obtain ⟨i, he⟩ := List.mem_iff_getElem?.1 hmem
    exact ⟨complete_iff_resolves he, accounted_of_degraded he⟩
  · exact fun error herror key hkey => exists_degraded_of_error herror hkey

/-- A view that declares the empty text as its base. -/
def extendsNothing : List Document :=
  let l := Location.wholeFile "f"
  [⟨"f", [], [.mk .view (some "a") [.mk "extends" (.list [.text ""]) l] [] l]⟩]

/-- The empty text names no view, but nothing is missing from the view that declares it. -/
theorem complete_extendsNothing :
    ∃ e ∈ (build extendsNothing).1.entities, e.resolution = .complete ∧
      ∃ base ∈ e.declaredBases, (build extendsNothing).1.entity? e.kind base = none := by
  obtain ⟨e, he⟩ : ∃ e, (build extendsNothing).1.entities.head? = some e :=
    Option.isSome_iff_exists.1 (by decide +kernel)
  have hfound : ((build extendsNothing).1.entities.head?.all fun e =>
      e.resolution = .complete ∧ e.declaredBases = [""] ∧
        ((build extendsNothing).1.entity? e.kind "").isNone) = true := by
    decide +kernel
  rw [he, Option.all_some, decide_eq_true_eq] at hfound
  obtain ⟨hcomplete, hbases, hnone⟩ := hfound
  refine ⟨e, List.mem_of_mem_head? he, hcomplete, "", ?_, Option.isNone_iff_eq_none.1 hnone⟩
  rw [hbases]
  exact List.mem_singleton.2 rfl

end Project

end LookML
