import LookML.Proofs.Reference.Pieces
/-!
# Substitution is final

A template that holds no dollar sign and no brace, and is not empty, leaves nothing to substitute:
what it is put between cannot grow together into an opener, and an opener that was not closed
before is not closed by it.
-/

namespace LookML.Reference

/-! ## Plain templates -/

/-- The template has nothing that could begin a group or open or close a substitution. -/
structure IsPlain (template : List Char) : Prop where
  ne_nil : template ≠ []
  dollar : '$' ∉ template
  opening : '{' ∉ template
  closing : '}' ∉ template

section Templates

variable {template : List Char}

theorem slots_of_notMem (h : '$' ∉ template) : slots template = template.map .char := by
  fun_induction slots template with
  | case1 => rfl
  | case2 cs ih => simp at h
  | case3 cs name after hclose ih => simp at h
  | case4 cs hopen ih => simp at h
  | case5 cs _ _ hempty ih => simp at h
  | case6 cs _ _ hname ih => simp at h
  | case7 c cs _ _ _ ih => rw [ih (mt (List.mem_cons_of_mem c) h), List.map_cons]

theorem flatMap_fill_slots (h : '$' ∉ template) (inside : List Char) :
    (slots template).flatMap (Slot.fill inside) = template := by
  rw [slots_of_notMem h, List.flatMap_map]
  exact List.flatMap_singleton' template

end Templates

/-! ## Substituted texts -/

variable {text rest : List Char} {stretches : List Stretch} {template : List Char}

def replaced (template : List Char) (stretches : List Stretch) : List Char :=
  stretches.flatMap fun s => s.kept ++ template

theorem toList_substitute_of_not_hasSubstitution {text : String}
    (h : ¬ HasSubstitution text.toList) (template : String) : substitute text template = text := by
  rw [substitute, split_of_not_hasSubstitution h, List.flatMap_map]
  simp

theorem extract_of_not_hasSubstitution {text : String} (h : ¬ HasSubstitution text.toList) :
    extract text = [] := by
  rw [extract, split_of_not_hasSubstitution h]
  simp [List.filterMap_map, Piece.inside?]

theorem not_hasSubstitution_append_of_notMem {cs : List Char} (hcs : '$' ∉ cs)
    (hrest : ¬ HasSubstitution rest) : ¬ HasSubstitution (cs ++ rest) := by
  induction cs with
  | nil => exact hrest
  | cons c cs ih =>
    obtain ⟨hc, hcs⟩ := not_or.1 (mt List.mem_cons.2 hcs)
    rw [List.cons_append, hasSubstitution_cons_iff, not_or]
    exact ⟨fun h => hc h.1.symm, ih hcs⟩

theorem IsPlain.not_hasSubstitution_append (hplain : IsPlain template) {kept : List Char}
    (hkept : ¬ ['$', '{'] <:+: kept) (hrest : ¬ HasSubstitution rest) :
    ¬ HasSubstitution (kept ++ (template ++ rest)) := by
  induction kept with
  | nil =>
    rw [List.nil_append]
    exact not_hasSubstitution_append_of_notMem hplain.dollar hrest
  | cons c kept ih =>
    rw [List.infix_cons_iff, not_or] at hkept
    rw [List.cons_append, hasSubstitution_cons_iff, not_or]
    refine ⟨?_, ih hkept.2⟩
    rintro ⟨rfl, after, hafter, _⟩
    cases kept with
    | nil =>
      obtain ⟨d, template, rfl⟩ := List.exists_cons_of_ne_nil hplain.ne_nil
      cases hafter
      exact hplain.opening (.head _)
    | cons d kept =>
      cases hafter
      exact hkept.1 ⟨kept, rfl⟩

theorem Cut.not_hasSubstitution_replaced (h : Cut text stretches rest) (hplain : IsPlain template) :
    ¬ HasSubstitution (replaced template stretches ++ rest) := by
  have hrest := h.rest
  have hkept := h.kept
  clear h
  induction stretches with
  | nil => exact hrest
  | cons s stretches ih =>
    rw [List.forall_mem_cons] at hkept
    rw [replaced, List.flatMap_cons, List.append_assoc, List.append_assoc]
    exact hplain.not_hasSubstitution_append hkept.1 (ih hkept.2)

/-- What stays of a text stays in its order, and a plain template stands where each substitution
stood. -/
theorem exists_cut_substitute (text : String) {template : String} (h : '$' ∉ template.toList) :
    ∃ stretches rest, Cut text.toList stretches rest ∧
      (substitute text template).toList = replaced template.toList stretches ++ rest := by
  obtain ⟨stretches, rest, hcut, hsplit⟩ := exists_cut text.toList
  refine ⟨stretches, rest, hcut, ?_⟩
  simp only [substitute, hsplit, String.toList_ofList, List.flatMap_append, List.flatMap_assoc,
    Stretch.pieces, List.flatMap_map, List.flatMap_singleton, flatMap_fill_slots h,
    List.flatMap_singleton', replaced]

/-! ## Main statement -/

/-- A plain template leaves a text in which no opener is closed, so that no reference is found in it
and nothing more is replaced, whatever by. All that stood outside the substitutions stays, in
order. -/
theorem substitute_final (text : String) {template : String} (hplain : IsPlain template.toList) :
    ¬ HasSubstitution (substitute text template).toList ∧
    extract (substitute text template) = [] ∧
    (∀ other, substitute (substitute text template) other = substitute text template) ∧
    ∃ stretches rest, Cut text.toList stretches rest ∧
      (substitute text template).toList = replaced template.toList stretches ++ rest := by
  obtain ⟨stretches, rest, hcut, htext⟩ := exists_cut_substitute text hplain.dollar
  have hnone : ¬ HasSubstitution (substitute text template).toList :=
    htext ▸ hcut.not_hasSubstitution_replaced hplain
  exact ⟨hnone, extract_of_not_hasSubstitution hnone,
    fun other => toList_substitute_of_not_hasSubstitution hnone other, stretches, rest, hcut, htext⟩

/-- One opener follows a dollar sign, one stands within the braces of another, and one is never
closed. -/
def openersEverywhere : String :=
  "SELECT $$\x7ba\x7d FROM $\x7b $\x7bb.c\x7d WHERE $\x7b"

theorem substitute_final_openersEverywhere :
    IsPlain "lkml_ref".toList ∧
    substitute openersEverywhere "lkml_ref" = "SELECT $lkml_ref FROM lkml_ref WHERE $\x7b" ∧
    ¬ HasSubstitution (substitute openersEverywhere "lkml_ref").toList ∧
    extract (substitute openersEverywhere "lkml_ref") = [] := by
  have hplain : IsPlain "lkml_ref".toList := ⟨by decide, by decide, by decide, by decide⟩
  obtain ⟨hnone, hextract, _⟩ := substitute_final openersEverywhere hplain
  exact ⟨hplain, by decide +kernel, hnone, hextract⟩

end LookML.Reference
