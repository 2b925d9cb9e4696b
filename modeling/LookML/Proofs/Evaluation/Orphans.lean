import LookML.Proofs.Evaluation.Separation
import LookML.Proofs.Project.BareWords
/-!
# Orphans

A view is reported as an orphan exactly if no explore reads from it, no view extends it and nothing
that an explore extends bears its name. An explore never extends a view: what it extends is an
explore of that name, or there is none and it is reported. So a view that nothing uses may go
unreported because of an explore of the same name.
-/

namespace LookML

theorem EntityKey.eq_of_qualified {key key' : EntityKey} (hkind : key.kind = key'.kind)
    (h : key.qualified = key'.qualified) : key = key' := by
  have hletters := congrArg String.toList h
  rw [toList_qualified, toList_qualified, hkind, List.append_cancel_left_eq,
    String.toList_inj] at hletters
  exact Definition.eq_key_iff.2 ⟨hkind, hletters⟩

namespace Rules

open Project

/-- Nothing uses a view of the given name: no explore reads from it, as its base view or in a join,
and no view extends it. -/
structure Unused (p : Project) (name : String) : Prop where
  baseView : ∀ explore ∈ p.explores, explore.baseView ≠ name
  joins : ∀ explore ∈ p.explores, ∀ j ∈ explore.joins, j.targetView ≠ name
  heirs : ∀ view ∈ p.views, ∀ base ∈ view.bases, base.text ≠ name

/-- No explore extends anything of the given name. -/
def NamesNoBase (p : Project) (name : String) : Prop :=
  ∀ explore ∈ p.explores, ∀ base ∈ explore.bases, base.text ≠ name

/-- What is reported about a view that is an orphan. -/
def orphanFinding (view : Entity) : Finding :=
  .ofEntity view s!"view '{view.name}' is not used by any explore, join or extends"

variable {documents : List Document} {p : Project} {name : String}

theorem mem_entities_iff {e : Entity} : e ∈ p.entities ↔ e ∈ p.views ∨ e ∈ p.explores := by
  rw [views, explores, List.mem_filter, List.mem_filter]
  cases hkind : e.kind <;> simp

theorem isUsed_eq_false_iff :
    isUsed p name = false ↔ Unused p name ∧ NamesNoBase p name := by
  rw [← Bool.not_eq_true, isUsed_iff]
  simp only [mem_entities_iff, viewsOf, List.mem_cons, List.mem_map, not_or, not_exists, not_and]
  constructor
  · rintro ⟨hreads, hbases⟩
    refine ⟨⟨fun e he heq => ?_, fun e he j hj => ?_, fun v hv => ?_⟩, fun e he => ?_⟩
    · exact (hreads e he).1 heq.symm
    · exact (hreads e he).2 j hj
    · exact hbases v (.inl hv)
    · exact hbases e (.inr he)
  · rintro ⟨⟨hbase, hjoins, hheirs⟩, hexplores⟩
    refine ⟨fun e he => ⟨fun heq => hbase e he heq.symm, hjoins e he⟩, ?_⟩
    rintro e (hv | he)
    · exact hheirs e hv
    · exact hexplores e he

theorem mem_noOrphans_iff {f : Finding} :
    f ∈ noOrphans.findings p ↔
      ∃ v ∈ p.views, (Unused p v.name ∧ NamesNoBase p v.name) ∧ orphanFinding v = f := by
  simp only [noOrphans, Rule.findings_ofProject, noOrphansFindings, List.mem_map, List.mem_filter,
    Bool.not_eq_true', isUsed_eq_false_iff, and_assoc, orphanFinding]

theorem nodup_qualified_views [Extends.ComponentFinder] (documents : List Document) :
    ((build documents).1.views.map fun v => some v.qualified).Nodup := by
  have hviews : (build documents).1.views.Nodup :=
    (nodup_entities documents).of_map.filter _
  rw [List.nodup_map_iff_inj_on hviews]
  intro v hv w hw h
  obtain ⟨hv, hkind⟩ := List.mem_filter.1 hv
  obtain ⟨hw, hkind'⟩ := List.mem_filter.1 hw
  have hsame : v.key.kind = w.key.kind :=
    (of_decide_eq_true hkind).trans (of_decide_eq_true hkind').symm
  exact eq_of_key_eq hv hw (EntityKey.eq_of_qualified hsame (Option.some.inj h))

/-! ## Main statement -/

/-- What the rule reports in a project that was built with the given errors. -/
structure OrphansReported (p : Project) (errors : List ResolutionError) : Prop where
  reported_iff : ∀ v ∈ p.views, (∃ f ∈ noOrphans.findings p, f.entity = some v.qualified) ↔
    Unused p v.name ∧ NamesNoBase p v.name
  once : ((noOrphans.findings p).map Finding.entity).Nodup
  view : ∀ f ∈ noOrphans.findings p, ∃ v ∈ p.views, f = orphanFinding v
  /-- what an explore extends is no view -/
  base : ∀ explore ∈ p.explores, ∀ base ∈ explore.bases,
    (∃ e ∈ p.explores, e.name = base.text) ∨
      ∃ location, .extendsNotFound explore.key base location ∈ errors

/-- Of the views that nothing uses, the rule reports each one once, but for those that have the name
of something that an explore extends. -/
theorem noOrphans_reports [Extends.ComponentFinder] (documents : List Document) :
    OrphansReported (build documents).1 (build documents).2 where
  reported_iff := by
    intro v hv
    constructor
    · rintro ⟨f, hf, hentity⟩
      obtain ⟨w, hw, horphan, rfl⟩ := mem_noOrphans_iff.1 hf
      obtain rfl : w = v := List.inj_on_of_nodup_map (nodup_qualified_views documents) hw hv hentity
      exact horphan
    · exact fun horphan => ⟨_, mem_noOrphans_iff.2 ⟨v, hv, horphan, rfl⟩, rfl⟩
  once := by
    have hentities : (noOrphans.findings (build documents).1).map Finding.entity =
        ((build documents).1.views.filter fun v => !isUsed (build documents).1 v.name).map
          fun v => some v.qualified := by
      simp only [noOrphans, Rule.findings_ofProject, noOrphansFindings, List.map_map]
      rfl
    rw [hentities]
    exact (nodup_qualified_views documents).sublist (List.filter_sublist.map _)
  view := by
    intro f hf
    obtain ⟨v, hv, _, rfl⟩ := mem_noOrphans_iff.1 hf
    exact ⟨v, hv, rfl⟩
  base := by
    intro e he base hbase
    obtain ⟨he, hkind⟩ := List.mem_filter.1 he
    have hexplore : e.kind = .explore := of_decide_eq_true hkind
    cases hfound : (build documents).1.entity? .explore base.text with
    | none => exact .inr (extendsNotFound_of_base_mem he hbase (hexplore ▸ hfound))
    | some x =>
      obtain ⟨hx, hkind, hname⟩ := (entity?_eq_some_iff documents _ _ _).1 hfound
      exact .inl ⟨x, List.mem_filter.2 ⟨hx, decide_eq_true hkind⟩, hname⟩

/-- A view, and an explore of the same name that reads from another view and is extended. -/
def shadowed : List Document :=
  let span := fun line column endColumn => Location.mk "a.lkml" line column line endColumn
  [⟨"a.lkml", [],
    [.mk .view (some "orders") [] [] (span 1 1 16), .mk .view (some "people") [] [] (span 2 1 16),
      .mk .explore (some "orders") [.mk "from" (.text "people") (span 3 19 31)] [] (span 3 1 33),
      .mk .explore (some "kids")
        [.mk "extends" (.list [.text "orders"]) (span 4 17 34)] [] (span 4 1 36)]⟩]

/-- Nothing uses the view, and yet it is not reported. -/
theorem unreported_shadowed :
    ∃ v ∈ (build shadowed).1.views, Unused (build shadowed).1 v.name ∧
      noOrphans.findings (build shadowed).1 = [] := by
  have hnone : noOrphansFindings (build shadowed).1 = [] := by
    decide +kernel
  have hunused : ((build shadowed).1.views.any fun v =>
      ((build shadowed).1.explores.all fun e => e.baseView ≠ v.name &&
        e.joins.all fun j => j.targetView ≠ v.name) &&
      (build shadowed).1.views.all fun w => w.bases.all fun base => base.text ≠ v.name) = true := by
    decide +kernel
  simp only [List.any_eq_true, List.all_eq_true, Bool.and_eq_true, decide_eq_true_eq] at hunused
  obtain ⟨v, hv, hreads, hheirs⟩ := hunused
  refine ⟨v, hv, ⟨fun e he => (hreads e he).1, fun e he => (hreads e he).2, hheirs⟩, ?_⟩
  rw [noOrphans, Rule.findings_ofProject, hnone]

end Rules

end LookML
