import LookML.Reference
import Mathlib.Data.List.Basic
/-!
# The substitutions in a text

A text is cut into stretches, each of which holds no opener but for the one of the substitution that
it ends with, and a rest in which no opener is closed. A text that is read from left to right is
split where it is cut: the first opener that is closed anywhere begins a substitution, and the
first closing brace after it ends the substitution.
-/

namespace LookML.Reference

/-! ## Closing braces -/

section Braces

variable {cs inside inside' rest rest' : List Char}

theorem splitAtBrace_eq_none_iff : splitAtBrace cs = none ↔ '}' ∉ cs := by
  fun_induction splitAtBrace cs with
  | case1 => simp
  | case2 rest => simp
  | case3 c cs hc ih =>
    have hne : ¬ '}' = c := fun h => hc h.symm
    simp [ih, hne]

theorem splitAtBrace_append (h : '}' ∉ inside) :
    splitAtBrace (inside ++ '}' :: rest) = some (inside, rest) := by
  induction inside with
  | nil => rfl
  | cons c inside ih =>
    obtain ⟨hc, hinside⟩ := not_or.1 (mt List.mem_cons.2 h)
    rw [List.cons_append, splitAtBrace, ih hinside]
    · rfl
    · exact fun h => hc h.symm

theorem notMem_of_splitAtBrace (h : splitAtBrace cs = some (inside, rest)) : '}' ∉ inside := by
  fun_induction splitAtBrace cs generalizing inside with
  | case1 => cases h
  | case2 rest => cases h; simp
  | case3 c cs hc ih =>
    obtain ⟨⟨inside', rest'⟩, hsplit, heq⟩ := Option.map_eq_some_iff.1 h
    cases heq
    exact List.not_mem_cons_of_ne_of_not_mem (fun h => hc h.symm) (ih hsplit)

theorem append_brace_inj (h : '}' ∉ inside) (h' : '}' ∉ inside')
    (heq : inside ++ '}' :: rest = inside' ++ '}' :: rest') : inside = inside' ∧ rest = rest' := by
  have hsplit : splitAtBrace (inside ++ '}' :: rest) = some (inside, rest) := splitAtBrace_append h
  rw [heq, splitAtBrace_append h'] at hsplit
  cases hsplit
  exact ⟨rfl, rfl⟩

end Braces

/-! ## Openers that are closed -/

/-- Somewhere in the text stands an opener, and a closing brace somewhere after it. -/
def HasSubstitution (text : List Char) : Prop :=
  ∃ before inside after, text = before ++ '$' :: '{' :: (inside ++ '}' :: after)

section HasSubstitution

variable {c : Char} {cs text : List Char}

theorem hasSubstitution_cons_iff :
    HasSubstitution (c :: cs) ↔
      (c = '$' ∧ ∃ after, cs = '{' :: after ∧ '}' ∈ after) ∨ HasSubstitution cs := by
  constructor
  · rintro ⟨before, inside, after, heq⟩
    cases before with
    | nil =>
      cases heq
      exact .inl ⟨rfl, _, rfl, by simp⟩
    | cons d before =>
      obtain ⟨rfl, hcs⟩ := List.cons.inj heq
      exact .inr ⟨before, inside, after, hcs⟩
  · rintro (⟨rfl, after, rfl, hclosed⟩ | ⟨before, inside, after, rfl⟩)
    · obtain ⟨inside, after, rfl⟩ := List.append_of_mem hclosed
      exact ⟨[], inside, after, rfl⟩
    · exact ⟨c :: before, inside, after, rfl⟩

theorem HasSubstitution.brace_mem (h : HasSubstitution text) : '}' ∈ text := by
  obtain ⟨before, inside, after, rfl⟩ := h
  simp

end HasSubstitution

/-! ## Cuts -/

/-- Characters that stay, and what the braces of the substitution after them hold. -/
structure Stretch where
  kept : List Char
  inside : List Char

namespace Stretch

def text (s : Stretch) : List Char :=
  s.kept ++ '$' :: '{' :: (s.inside ++ ['}'])

def pieces (s : Stretch) : List Piece :=
  s.kept.map .kept ++ [.substitution s.inside]

end Stretch

/-- The text consists of the stretches and the rest. No substitution could begin earlier than one
does, none ends later than it must, and the rest has none. -/
structure Cut (text : List Char) (stretches : List Stretch) (rest : List Char) : Prop where
  text_eq : text = stretches.flatMap Stretch.text ++ rest
  kept : ∀ s ∈ stretches, ¬ ['$', '{'] <:+: s.kept
  inside : ∀ s ∈ stretches, '}' ∉ s.inside
  rest : ¬ HasSubstitution rest

section Cut

variable {c : Char} {text rest inside : List Char} {stretches : List Stretch}

theorem split_of_not_hasSubstitution (h : ¬ HasSubstitution text) :
    split text = text.map .kept := by
  fun_induction split text with
  | case1 => rfl
  | case2 cs inside after hclose ih =>
    rw [append_of_splitAtBrace hclose] at h
    exact absurd ⟨[], inside, after, rfl⟩ h
  | case3 cs hopen ih =>
    rw [ih (mt (hasSubstitution_cons_iff.2 ∘ .inr) h)]
    rfl
  | case4 c cs hstart ih => rw [ih (mt (hasSubstitution_cons_iff.2 ∘ .inr) h), List.map_cons]

theorem split_substitution (h : '}' ∉ inside) :
    split ('$' :: '{' :: (inside ++ '}' :: rest)) = .substitution inside :: split rest := by
  have hclose : splitAtBrace (inside ++ '}' :: rest) = some (inside, rest) := splitAtBrace_append h
  rw [split]
  split
  · rename_i hsome
    cases hclose.symm.trans hsome
    rfl
  · rename_i hnone
    cases hclose.symm.trans hnone

theorem Cut.substitution (h : Cut text stretches rest) (hinside : '}' ∉ inside) :
    Cut ('$' :: '{' :: (inside ++ '}' :: text)) (⟨[], inside⟩ :: stretches) rest where
  text_eq := by simp [h.text_eq, Stretch.text]
  kept := List.forall_mem_cons.2 ⟨by simp, h.kept⟩
  inside := List.forall_mem_cons.2 ⟨hinside, h.inside⟩
  rest := h.rest

/-- One more character is kept, unless it makes an opener out of the brace after it. -/
theorem Cut.keep (h : Cut text stretches rest) (hstart : ¬ (c = '$' ∧ text.head? = some '{')) :
    ∃ stretches' rest', Cut (c :: text) stretches' rest' ∧
      stretches'.flatMap Stretch.pieces ++ rest'.map .kept =
        .kept c :: (stretches.flatMap Stretch.pieces ++ rest.map .kept) := by
  obtain ⟨rfl, hkept, hinside, hrest⟩ := h
  cases stretches with
  | nil =>
    refine ⟨[], c :: rest, ⟨rfl, by simp, by simp, ?_⟩, rfl⟩
    rw [hasSubstitution_cons_iff, not_or]
    refine ⟨?_, hrest⟩
    rintro ⟨rfl, after, rfl, _⟩
    exact hstart ⟨rfl, rfl⟩
  | cons s stretches =>
    rw [List.forall_mem_cons] at hkept hinside
    refine ⟨⟨c :: s.kept, s.inside⟩ :: stretches, rest,
      ⟨rfl, List.forall_mem_cons.2 ⟨?_, hkept.2⟩, List.forall_mem_cons.2 hinside, hrest⟩, rfl⟩
    rw [List.infix_cons_iff, not_or]
    refine ⟨fun hopener => hstart ?_, hkept.1⟩
    obtain ⟨rfl, after, hafter⟩ := List.cons_prefix_cons.1 hopener
    exact ⟨rfl, by simp [Stretch.text, ← hafter]⟩

theorem exists_cut (text : List Char) : ∃ stretches rest, Cut text stretches rest ∧
    split text = stretches.flatMap Stretch.pieces ++ rest.map .kept := by
  fun_induction split text with
  | case1 => exact ⟨[], [], ⟨rfl, by simp, by simp, fun h => by simpa using h.brace_mem⟩, rfl⟩
  | case2 cs inside after hclose ih =>
    obtain ⟨stretches, rest, hcut, hsplit⟩ := ih
    refine ⟨⟨[], inside⟩ :: stretches, rest, ?_, by rw [hsplit]; rfl⟩
    rw [append_of_splitAtBrace hclose]
    exact hcut.substitution (notMem_of_splitAtBrace hclose)
  | case3 cs hopen ih =>
    have hnone : ¬ HasSubstitution ('$' :: '{' :: cs) := fun h => by
      simpa [splitAtBrace_eq_none_iff.1 hopen] using h.brace_mem
    refine ⟨[], '$' :: '{' :: cs, ⟨rfl, by simp, by simp, hnone⟩, ?_⟩
    rw [split_of_not_hasSubstitution (mt (hasSubstitution_cons_iff.2 ∘ .inr) hnone)]
    rfl
  | case4 c cs hstart ih =>
    obtain ⟨stretches, rest, hcut, hsplit⟩ := ih
    have hopener : ¬ (c = '$' ∧ cs.head? = some '{') := by
      rintro ⟨rfl, hbrace⟩
      obtain ⟨after, rfl⟩ := List.head?_eq_some_iff.1 hbrace
      exact hstart after rfl rfl
    obtain ⟨stretches', rest', hcut', hpieces⟩ := hcut.keep hopener
    exact ⟨stretches', rest', hcut', by rw [hsplit, hpieces]⟩

end Cut

end LookML.Reference
