import LookML.Proofs.Document.Places
import LookML.Proofs.Evaluation.Selection
import LookML.Proofs.Layer.Lookup
import LookML.Rule.Declaration
import Mathlib.Data.List.Forall2
/-!
# Repeated properties

Every property that repeats an earlier one of the same block is reported once, at its own place and
against the first property of its name. The file itself and all blocks below its top-level blocks
are looked through, each place once. Only a block that a property of the file itself is set to is
passed over, with all that is inside it.
-/

namespace LookML

namespace Property

/-- The property at `i` repeats the name of an earlier one, and `first` is the first of them. -/
structure RepeatedAt (ps : List Property) (i : Nat) (p first : Property) : Prop where
  here : ps[i]? = some p
  unrepeatable : p.name ∉ repeatable
  earlier : (ps.take i).find? (·.name = p.name) = some first

def placed (ps : List Property) (name : String) : List (Property × Nat) :=
  ps.zipIdx.filter (·.1.name = name)

def repetitions (ps : List Property) : List (Property × Nat) :=
  ((names ps).filter (· ∉ repeatable)).flatMap fun name => (placed ps name).tail

variable {ps : List Property} {p first : Property} {name : String} {i : Nat}

theorem mem_placed : (p, i) ∈ placed ps name ↔ ps[i]? = some p ∧ p.name = name := by
  simp [placed, List.mk_mem_zipIdx_iff_getElem?]

theorem map_fst_placed (ps : List Property) (name : String) :
    (placed ps name).map Prod.fst = occurrences ps name := by
  have hmap := List.filter_map (f := Prod.fst) (p := fun q : Property => q.name = name)
    (l := ps.zipIdx)
  rw [List.zipIdx_map_fst] at hmap
  exact hmap.symm

theorem pairwise_placed (ps : List Property) (name : String) :
    (placed ps name).Pairwise (·.2 < ·.2) := by
  have hplaces : (ps.zipIdx.map Prod.snd).Pairwise (· < ·) := by
    rw [List.zipIdx_map_snd]
    exact List.pairwise_lt_range'
  exact (List.pairwise_map.1 hplaces).filter _

theorem mem_tail_iff {l : List (Property × Nat)} (h : l.Pairwise (·.2 < ·.2))
    {x : Property × Nat} : x ∈ l.tail ↔ x ∈ l ∧ ∃ y ∈ l, y.2 < x.2 := by
  cases l with
  | nil => simp
  | cons y l =>
    obtain ⟨hfirst, _⟩ := List.pairwise_cons.1 h
    constructor
    · intro hx
      exact ⟨List.mem_cons_of_mem y hx, y, List.mem_cons_self, hfirst x hx⟩
    · rintro ⟨hx, z, hz, hlt⟩
      rcases List.mem_cons.1 hx with rfl | hx
      · rcases List.mem_cons.1 hz with rfl | hz
        · omega
        · have := hfirst z hz
          omega
      · exact hx

theorem mem_repetitions_iff :
    (p, i) ∈ repetitions ps ↔ ∃ first, RepeatedAt ps i p first := by
  simp only [repetitions, List.mem_flatMap, List.mem_filter, decide_eq_true_eq,
    mem_tail_iff (pairwise_placed ps _), mem_placed, Prod.exists]
  constructor
  · rintro ⟨name, ⟨_, hname⟩, ⟨hp, rfl⟩, q, j, ⟨hq, hqname⟩, hlt⟩
    have hmem : q ∈ ps.take i := List.mem_of_getElem? (by rwa [List.getElem?_take_of_lt hlt])
    have hsome : ((ps.take i).find? (·.name = p.name)).isSome :=
      List.find?_isSome.2 ⟨q, hmem, decide_eq_true hqname⟩
    obtain ⟨first, hfirst⟩ := Option.isSome_iff_exists.1 hsome
    exact ⟨first, hp, hname, hfirst⟩
  · rintro ⟨first, hp, hname, hearlier⟩
    obtain ⟨j, hj⟩ := List.mem_iff_getElem?.1 (List.mem_of_find?_eq_some hearlier)
    have hlt : j < i := by
      have := (List.getElem?_eq_some_iff.1 hj).1
      rw [List.length_take] at this
      omega
    rw [List.getElem?_take_of_lt hlt] at hj
    have hmem : p.name ∈ names ps := by
      rw [mem_names, occurrences, ne_eq, List.filter_eq_nil_iff]
      intro hnone
      exact hnone p (List.mem_of_getElem? hp) (decide_eq_true rfl)
    exact ⟨p.name, ⟨hmem, hname⟩, ⟨hp, rfl⟩, first, j,
      ⟨hj, by simpa using List.find?_some hearlier⟩, hlt⟩

theorem nodup_repetitions (ps : List Property) : ((repetitions ps).map Prod.snd).Nodup := by
  rw [repetitions, List.map_flatMap, List.nodup_flatMap]
  constructor
  · intro name _
    have hplaces := (List.pairwise_map.2 (pairwise_placed ps name)).imp Nat.ne_of_lt
    exact List.Nodup.sublist ((List.tail_sublist _).map Prod.snd) hplaces
  · apply ((nodup_names ps).filter _).imp
    intro name other hne i hi hi'
    obtain ⟨⟨p, _⟩, hmem, rfl⟩ := List.mem_map.1 hi
    obtain ⟨⟨q, _⟩, hmem', rfl⟩ := List.mem_map.1 hi'
    obtain ⟨hp, rfl⟩ := mem_placed.1 (List.mem_of_mem_tail hmem)
    obtain ⟨hq, rfl⟩ := mem_placed.1 (List.mem_of_mem_tail hmem')
    exact hne (congrArg name (Option.some.inj (hp.symm.trans hq)))

def firstNamed (ps : List Property) (p : Property) : Property :=
  (ps.find? (·.name = p.name)).getD p

theorem RepeatedAt.firstNamed_eq (h : RepeatedAt ps i p first) : firstNamed ps p = first := by
  have hfind : ps.find? (·.name = p.name) = some first := by
    rw [← List.take_append_drop i ps, List.find?_append, h.earlier, Option.some_or]
  rw [firstNamed, hfind, Option.getD_some]

theorem head?_occurrences (h : p ∈ ps) (hname : p.name = name) :
    (occurrences ps name).head? = some (firstNamed ps p) := by
  obtain ⟨first, hfirst⟩ : ∃ first, ps.find? (·.name = p.name) = some first :=
    Option.isSome_iff_exists.1 (List.find?_isSome.2 ⟨p, h, decide_eq_true rfl⟩)
  rw [occurrences, List.head?_filter, ← hname, firstNamed, hfirst, Option.getD_some]

end Property

namespace Rules

open Property
open Document (Step)

/-- What is said about a property that the block declares `n` times. -/
def repetitionMessage (b : Block) (name : String) (n : Nat) : String :=
  s!"property '{name}' is declared {n} times in {describeBlock b}; " ++ "the last one wins"

/-- What is reported about a property of a block that repeats `first`. -/
def repetitionFinding (b : Block) (p first : Property) : Finding where
  message := repetitionMessage b p.name (b.properties.countP (·.name = p.name))
  location := p.location
  entity := none
  related := [first.location]

theorem repeatedProperties_eq (b : Block) :
    repeatedProperties (describeBlock b) b.properties = (repetitions b.properties).map fun x =>
      repetitionFinding b x.1 (firstNamed b.properties x.1) := by
  rw [repeatedProperties, duplicates, repetitions, List.filterMap_eq_flatMap_toList,
    List.flatMap_assoc, List.map_flatMap, flatMap_filter]
  apply List.flatMap_congr
  intro name _
  by_cases hname : name ∈ repeatable
  · simp [hname]
  · have htail : (placed b.properties name).tail.map Prod.fst =
        (occurrences b.properties name).drop 1 := by
      rw [← map_fst_placed, List.drop_one, List.map_tail]
    have hcount : b.properties.countP (·.name = name) = (occurrences b.properties name).length :=
      List.countP_eq_length_filter
    rw [decide_eq_true hname, if_pos rfl]
    by_cases hlength : (occurrences b.properties name).length ≤ 1
    · have hnil : (placed b.properties name).tail = [] := by
        rw [← List.map_eq_nil_iff (f := Prod.fst), htail, List.drop_eq_nil_iff]
        exact hlength
      simp [hname, hlength, hnil]
    · simp only [hname, hlength, decide_false, Bool.or_self, Bool.false_eq_true, if_false,
        Option.toList_some, List.flatMap_singleton, ← htail, List.map_map, Function.comp_def]
      apply List.map_congr_left
      rintro ⟨p, i⟩ hmem
      obtain ⟨hp, rfl⟩ := mem_placed.1 (List.mem_of_mem_tail hmem)
      rw [head?_occurrences (List.mem_of_getElem? hp) rfl, repetitionFinding, hcount]
      rfl

def repetitionsAt (places : List (List Step × Block)) : List ((List Step × Block) × Property × Nat) :=
  places.flatMap fun place => (repetitions place.2.properties).map (place, ·)

theorem mem_repetitionsAt {places : List (List Step × Block)} {place : List Step × Block}
    {x : Property × Nat} :
    (place, x) ∈ repetitionsAt places ↔ place ∈ places ∧ x ∈ repetitions place.2.properties := by
  simp only [repetitionsAt, List.mem_flatMap, List.mem_map, Prod.mk.injEq]
  constructor
  · rintro ⟨_, hplace, _, hx, rfl, rfl⟩
    exact ⟨hplace, hx⟩
  · rintro ⟨hplace, hx⟩
    exact ⟨place, hplace, x, hx, rfl, rfl⟩

theorem nodup_repetitionsAt {places : List (List Step × Block)}
    (h : (places.map Prod.fst).Nodup) :
    ((repetitionsAt places).map fun x => (x.1.1, x.2.2)).Nodup := by
  rw [repetitionsAt, List.map_flatMap, List.nodup_flatMap]
  constructor
  · intro place _
    have hplaces : ((repetitions place.2.properties).map (place, ·)).map (fun x => (x.1.1, x.2.2)) =
        ((repetitions place.2.properties).map Prod.snd).map (place.1, ·) := by
      rw [List.map_map, List.map_map]
      rfl
    rw [hplaces]
    exact (nodup_repetitions _).map fun _ _ heq => (Prod.mk.inj heq).2
  · apply (List.pairwise_map.1 h).imp
    intro place other hne x hx hx'
    simp only [List.mem_map, exists_exists_and_eq_and] at hx hx'
    obtain ⟨_, _, rfl⟩ := hx
    obtain ⟨_, _, heq⟩ := hx'
    exact hne (Prod.mk.inj heq).1.symm

theorem describeBlock_top (d : Document) : describeBlock d.top = s!"file '{d.fileName}'" := by
  have hwords : "file" ++ " '" = "file '" := by decide
  rw [← hwords]
  rfl

theorem duplicatePropertyFindings_eq {d : Document} {places : List (List Step × Block)}
    (h : places.map Prod.snd = d.top :: d.allBlocks) :
    duplicatePropertyFindings d = (repetitionsAt places).map fun x =>
      repetitionFinding x.1.2 x.2.1 (firstNamed x.1.2.properties x.2.1) := by
  calc duplicatePropertyFindings d
      = (d.top :: d.allBlocks).flatMap fun b =>
          repeatedProperties (describeBlock b) b.properties := by
        rw [List.flatMap_cons, describeBlock_top]
        rfl
    _ = places.flatMap fun place => (repetitions place.2.properties).map fun x =>
          repetitionFinding place.2 x.1 (firstNamed place.2.properties x.1) := by
        rw [← h, List.flatMap_map]
        exact List.flatMap_congr fun place _ => repeatedProperties_eq place.2
    _ = _ := by
        rw [repetitionsAt, List.map_flatMap]
        simp only [List.map_map]
        rfl

/-! ## Main statement -/

/-- The findings are about the repetitions in the blocks that are visited, one for each place. -/
structure ReportsRepetitions (d : Document) (places : List (List Step × Nat))
    (findings : List Finding) : Prop where
  once : places.Nodup
  mem_iff : ∀ way i, (way, i) ∈ places ↔
    ∃ b p first, d.Visits way b ∧ RepeatedAt b.properties i p first
  findings : List.Forall₂ (fun place f => ∃ b p first, d.Visits place.1 b ∧
    RepeatedAt b.properties place.2 p first ∧ f = repetitionFinding b p first) places findings

theorem duplicateProperty_reports (d : Document) :
    ∃ places findings, duplicateProperty.check d = .found findings ∧
      ReportsRepetitions d places findings := by
  obtain ⟨places, hblocks, hlists⟩ := d.exists_lists_allBlocks
  have hmem : ∀ way b p i, ((way, b), p, i) ∈ repetitionsAt places ↔
      d.Visits way b ∧ ∃ first, RepeatedAt b.properties i p first := by
    intro way b p i
    rw [mem_repetitionsAt, hlists.mem_iff, mem_repetitions_iff]
  refine ⟨(repetitionsAt places).map fun x => (x.1.1, x.2.2), duplicatePropertyFindings d, rfl,
    nodup_repetitionsAt hlists.nodup, fun way i => ?_, ?_⟩
  · simp only [List.mem_map, Prod.exists, Prod.mk.injEq, hmem]
    constructor
    · rintro ⟨_, b, p, _, ⟨hvisits, first, hrepeated⟩, rfl, rfl⟩
      exact ⟨b, p, first, hvisits, hrepeated⟩
    · rintro ⟨b, p, first, hvisits, hrepeated⟩
      exact ⟨way, b, p, i, ⟨hvisits, first, hrepeated⟩, rfl, rfl⟩
  · rw [duplicatePropertyFindings_eq hblocks, List.forall₂_map_left_iff, List.forall₂_map_right_iff,
      List.forall₂_same]
    rintro ⟨⟨way, b⟩, p, i⟩ hx
    obtain ⟨hvisits, first, hrepeated⟩ := (hmem way b p i).1 hx
    exact ⟨b, p, first, hvisits, hrepeated, by rw [hrepeated.firstNamed_eq]⟩

/-- A file that sets the same thing twice in a block that is no declaration of its own. -/
def settings : Document :=
  let span := fun line endColumn => Location.mk "shop.model.lkml" line 3 line endColumn
  let block := Block.mk (.other "localization_settings") none
    [.mk "default_locale" (.text "en") (span 2 21), .mk "default_locale" (.text "fr") (span 3 21)] []
    ⟨"shop.model.lkml", 1, 1, 4, 2⟩
  ⟨"shop.model.lkml", [.mk "localization_settings" (.block block) block.location], []⟩

/-- The block is part of the file and repeats a property, and yet nothing is reported. -/
theorem unreported_settings :
    (∃ way b p first, settings.LeadsTo way b ∧ RepeatedAt b.properties 1 p first) ∧
      duplicateProperty.check settings = .found [] := by
  refine ⟨⟨[.property 0], _, _, _, rfl, ⟨rfl, ?_, rfl⟩⟩, rfl⟩
  decide

end Rules

end LookML
