import LookML.Project.Build
import LookML.Proofs.Definition.Collect
import LookML.Proofs.Definition.Merging
/-!
# The entities of a project

Each definition becomes one entity: its own content with its bases merged as they would be without
a memo. The linked bases of an entity are the entities that its declared bases name.
-/

namespace LookML

open Extends

theorem EntityKey.toList_qualified (key : EntityKey) :
    key.qualified.toList = (key.kind.word.toList ++ [':']) ++ key.name.text.toList := by
  have hparts : key.qualified = key.kind.word ++ ":" ++ key.name.text := rfl
  simp [hparts]

namespace Project

def definitions (documents : List Document) : List Definition :=
  (Definition.collect (documents.flatMap Document.blocks)).1

theorem nodup_keys_definitions (documents : List Document) :
    ((definitions documents).map Definition.key).Nodup :=
  Definition.nodup_keys_collect (documents.flatMap Document.blocks)

/-- The linked bases, in order of declaration: what the declared bases name. -/
def linkedBases (p : Project) (e : Entity) : List Entity :=
  e.bases.filterMap fun base => p.entity? e.kind base.text

def Links (p : Project) (e b : Entity) : Prop :=
  b ∈ p.linkedBases e

theorem entities_build [ComponentFinder] (documents : List Document) :
    (build documents).1.entities = (definitions documents).mapIdx fun id d =>
      d.toEntity (Definition.mergedAt (definitions documents) id d) := by
  have hbuild : (build documents).1.entities =
      (Definition.mergeBases (definitions documents)).map fun x => x.1.toEntity x.2 := rfl
  rw [hbuild, Definition.mergeBases_eq]
  apply List.ext_getElem
  · simp
  · intro i _ _
    simp

theorem entities_build_eq_map [ComponentFinder] (documents : List Document) :
    (build documents).1.entities = (definitions documents).map fun d =>
      d.toEntity (Definition.mergedIn (definitions documents) d) := by
  have hbuild : (build documents).1.entities =
      (Definition.mergeBases (definitions documents)).map fun x => x.1.toEntity x.2 := rfl
  rw [hbuild, Definition.mergeBases_eq_map (nodup_keys_definitions documents), List.map_map]
  rfl

theorem toEntity_mem_entities [ComponentFinder] {documents : List Document} {d : Definition}
    (hd : d ∈ definitions documents) :
    d.toEntity (Definition.mergedIn (definitions documents) d) ∈ (build documents).1.entities := by
  rw [entities_build_eq_map]
  exact List.mem_map_of_mem hd

theorem getElem?_entities [ComponentFinder] (documents : List Document) (id : Nat) :
    (build documents).1.entities[id]? = (definitions documents)[id]?.map fun d =>
      d.toEntity (Definition.mergedAt (definitions documents) id d) := by
  rw [entities_build, List.getElem?_mapIdx]

theorem find?_eq_bind_findIdx? {α : Type} (p : α → Bool) (l : List α) :
    l.find? p = (l.findIdx? p).bind (l[·]?) := by
  induction l with
  | nil => rfl
  | cons x l ih =>
    by_cases h : p x = true
    · simp [List.findIdx?_cons, h]
    · rw [List.find?_cons_of_neg h, ih, List.findIdx?_cons, if_neg h, Option.bind_map]
      rfl

theorem keys_entities [ComponentFinder] (documents : List Document) :
    (build documents).1.entities.map Entity.key = (definitions documents).map Definition.key := by
  rw [entities_build]
  apply List.ext_getElem
  · simp
  · intro i _ _
    simp [Definition.toEntity]

theorem nodup_entities [ComponentFinder] (documents : List Document) :
    ((build documents).1.entities.map fun e => (e.kind, e.name)).Nodup := by
  have hpairs : (build documents).1.entities.map (fun e => (e.kind, e.name)) =
      ((build documents).1.entities.map Entity.key).map fun key => (key.kind, key.name.text) := by
    rw [List.map_map]
    rfl
  rw [hpairs, keys_entities]
  apply (nodup_keys_definitions documents).map
  intro key k heq
  exact Definition.eq_key_iff.2 (Prod.mk.injEq .. ▸ heq)

theorem eq_of_key_eq [ComponentFinder] {documents : List Document} {e e' : Entity}
    (he : e ∈ (build documents).1.entities) (he' : e' ∈ (build documents).1.entities)
    (h : e.key = e'.key) : e = e' := by
  have hpair : (e.kind, e.name) = (e'.kind, e'.name) :=
    congrArg (fun key : EntityKey => (key.kind, key.name.text)) h
  exact List.inj_on_of_nodup_map (nodup_entities documents) he he' hpair

theorem entity?_eq_find? (p : Project) (kind : EntityKind) (name : EntityName) :
    p.entity? kind name.text = p.entities.find? (·.key = ⟨kind, name⟩) := by
  unfold entity?
  congr 1
  funext e
  rw [Bool.eq_iff_iff]
  simp only [Bool.and_eq_true, decide_eq_true_eq, Definition.eq_key_iff]
  rfl

theorem entity?_eq_some_iff [ComponentFinder] (documents : List Document) (kind : EntityKind)
    (name : String) (e : Entity) : (build documents).1.entity? kind name = some e ↔
      e ∈ (build documents).1.entities ∧ e.kind = kind ∧ e.name = name := by
  have hfind : (build documents).1.entity? kind name =
      (build documents).1.entities.find? fun e => decide ((e.kind, e.name) = (kind, name)) := by
    unfold entity?
    congr 1
    funext e
    simp
  rw [hfind, Keyed.find?_eq_some_iff (nodup_entities documents), Prod.mk.injEq]

theorem entity?_build [ComponentFinder] (documents : List Document) (kind : EntityKind)
    (name : EntityName) :
    (build documents).1.entity? kind name.text =
      (Definition.indexOf? (definitions documents) ⟨kind, name⟩).bind
        ((build documents).1.entities[·]?) := by
  rw [entity?_eq_find?, find?_eq_bind_findIdx?]
  congr 1
  have hmap : ∀ {α : Type} (l : List α) (key : α → EntityKey) (k : EntityKey),
      l.findIdx? (key · = k) = (l.map key).findIdx? (· = k) := by
    intro α l key k
    rw [List.findIdx?_map]
    rfl
  rw [hmap _ Entity.key, keys_entities, ← hmap]
  rfl

theorem linkedBases_build [ComponentFinder] {documents : List Document} {id : Nat} {d : Definition}
    (hd : (definitions documents)[id]? = some d) (m : Merged) :
    (build documents).1.linkedBases (d.toEntity m) =
      ((Definition.graph (definitions documents)).basesOf id).filterMap
        ((build documents).1.entities[·]?) := by
  rw [Definition.basesOf_graph hd, Definition.linkedIds, List.filterMap_filterMap]
  apply List.filterMap_congr
  intro base _
  exact entity?_build documents d.key.kind base

/-! ## Errors -/

def missingErrors (documents : List Document) : List ResolutionError :=
  (definitions documents).flatMap (Definition.missingBaseErrors (definitions documents))

def tooDeepErrors [ComponentFinder] (documents : List Document) : List ResolutionError :=
  (definitions documents).filterMap fun d =>
    d.tooDeepError? (Definition.mergedIn (definitions documents) d)

theorem errors_build [ComponentFinder] (documents : List Document) :
    (build documents).2 =
      (Definition.collect (documents.flatMap Document.blocks)).2 ++ missingErrors documents ++
        Definition.cycleErrors (definitions documents) ++ tooDeepErrors documents ++
        (build documents).1.checkReferences := by
  have htooDeep : tooDeepErrors documents =
      (Definition.mergeBases (definitions documents)).filterMap
        fun x => x.1.tooDeepError? x.2 := by
    rw [Definition.mergeBases_eq_map (nodup_keys_definitions documents), List.filterMap_map]
    rfl
  rw [htooDeep]
  rfl

end Project

end LookML
