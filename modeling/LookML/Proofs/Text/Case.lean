import LookML.Text.Case
import Mathlib.Data.List.TakeWhile
/-!
# Lower-casing parts of a text

A part of a text lowers to the same inside the text as alone, but for capital sigmas: whether one
is at the end of a word depends on what stands around the part.
-/

namespace LookML.Text

/-- Whether a capital sigma is the last letter of a word, between the text before it, read
backwards, and the text after it. -/
def endsWord (before after : List Char) : Bool :=
  beginsCased before && !beginsCased after

/-- What a part of a text lowers to between the text before it, read backwards, and the text after
it. -/
def lowerWithin (before after : List Char) : List Char → List Char
  | [] => []
  | c :: cs => lowerChar before c (cs ++ after) ++ lowerWithin (c :: before) after cs

/-- Each capital sigma of a part is the last letter of a word there if it is so in the part alone. -/
def KeepsSigmas (before part after : List Char) : Prop :=
  ∀ left right, part = left ++ 'Σ' :: right →
    endsWord (left.reverse ++ before.reverse) (right ++ after) = endsWord left.reverse right

/-- Each capital sigma has a character on either side that casing does not look through. -/
def ShieldsSigmas (part : List Char) : Prop :=
  ∀ left right, part = left ++ 'Σ' :: right →
    (∃ c ∈ left, caseIgnorable.has c = false) ∧ ∃ c ∈ right, caseIgnorable.has c = false

variable {before after before' after' part cs ds : List Char} {c : Char}

/-! ## What casing looks through -/

theorem beginsCased_append (cs ds : List Char) : beginsCased (cs ++ ds) =
    if cs.dropWhile caseIgnorable.has = [] then beginsCased ds else beginsCased cs := by
  unfold beginsCased
  rw [List.dropWhile_append]
  cases hcs : cs.dropWhile caseIgnorable.has <;> simp

theorem beginsCased_append_of_exists (h : ∃ c ∈ cs, caseIgnorable.has c = false) :
    beginsCased (cs ++ ds) = beginsCased cs := by
  obtain ⟨c, hc, hnot⟩ := h
  have hne : cs.dropWhile caseIgnorable.has ≠ [] := by
    intro hnil
    rw [List.dropWhile_eq_nil_iff.1 hnil c hc] at hnot
    cases hnot
  rw [beginsCased_append, if_neg hne]

theorem beginsCased_append_of_not (h : beginsCased ds = false) :
    beginsCased (cs ++ ds) = beginsCased cs := by
  rw [beginsCased_append]
  split
  · rename_i hnil
    rw [h, beginsCased, hnil]
    rfl
  · rfl

theorem KeepsSigmas.of_apart (hbefore : beginsCased before.reverse = false)
    (hafter : beginsCased after = false) : KeepsSigmas before part after := by
  intro left right _
  rw [endsWord, endsWord, beginsCased_append_of_not hbefore, beginsCased_append_of_not hafter]

theorem ShieldsSigmas.keepsSigmas (h : ShieldsSigmas part) (before after : List Char) :
    KeepsSigmas before part after := by
  intro left right hpart
  obtain ⟨hleft, hright⟩ := h left right hpart
  have hreverse : ∃ c ∈ left.reverse, caseIgnorable.has c = false := by
    simpa only [List.mem_reverse] using hleft
  rw [endsWord, endsWord, beginsCased_append_of_exists hreverse,
    beginsCased_append_of_exists hright]

/-! ## One character -/

theorem lowerChar_sigma (before after : List Char) :
    lowerChar before 'Σ' after = [if endsWord before after then 'ς' else 'σ'] := by
  rfl

theorem lowerChar_of_ne (h : c ≠ 'Σ') (before after before' after' : List Char) :
    lowerChar before c after = lowerChar before' c after' := by
  simp [lowerChar, h]

theorem length_lowerChar (before after before' after' : List Char) :
    (lowerChar before c after).length = (lowerChar before' c after').length := by
  by_cases h : c = 'Σ'
  · rw [h, lowerChar_sigma, lowerChar_sigma]
    rfl
  · rw [lowerChar_of_ne h before after before' after']

theorem lowerChar_eq_iff : lowerChar before c after = lowerChar before' c after' ↔
    (c = 'Σ' → endsWord before after = endsWord before' after') := by
  by_cases h : c = 'Σ'
  · rw [h, lowerChar_sigma, lowerChar_sigma]
    cases endsWord before after <;> cases endsWord before' after' <;> simp
  · simp [lowerChar_of_ne h before after before' after', h]

/-! ## A part of a text -/

theorem lowerFrom_append (before cs after : List Char) :
    lowerFrom before (cs ++ after) =
      lowerWithin before after cs ++ lowerFrom (cs.reverse ++ before) after := by
  induction cs generalizing before with
  | nil => rfl
  | cons c cs ih =>
    rw [List.cons_append, lowerFrom, ih, lowerWithin, List.append_assoc, List.reverse_cons,
      List.append_assoc, List.singleton_append]

theorem lowerWithin_nil (before cs : List Char) : lowerWithin before [] cs = lowerFrom before cs := by
  have h := lowerFrom_append before cs []
  rwa [List.append_nil, lowerFrom, List.append_nil, eq_comm] at h

/-- What holds at each capital sigma holds at the first character, if it is one, and at the
others. -/
theorem forall_sigma_cons {P : List Char → List Char → Prop} :
    (∀ left right, c :: cs = left ++ 'Σ' :: right → P left right) ↔
      (c = 'Σ' → P [] cs) ∧ ∀ left right, cs = left ++ 'Σ' :: right → P (c :: left) right := by
  constructor
  · intro h
    refine ⟨fun hc => h [] cs (by rw [hc]; rfl), fun left right hcs => ?_⟩
    exact h (c :: left) right (by rw [hcs]; rfl)
  · rintro ⟨hfirst, hrest⟩ left right hsplit
    rcases List.cons_eq_append_iff.1 hsplit with ⟨rfl, hcs⟩ | ⟨left, rfl, hcs⟩
    · obtain ⟨hc, rfl⟩ := List.cons.inj hcs
      exact hfirst hc.symm
    · exact hrest left right hcs

/-- Where a part stands makes a difference to its capital sigmas only. -/
theorem lowerWithin_eq_iff : lowerWithin before after cs = lowerWithin before' after' cs ↔
    ∀ left right, cs = left ++ 'Σ' :: right →
      endsWord (left.reverse ++ before) (right ++ after) =
        endsWord (left.reverse ++ before') (right ++ after') := by
  induction cs generalizing before before' with
  | nil => simp [lowerWithin]
  | cons c cs ih =>
    have happend : lowerWithin before after (c :: cs) = lowerWithin before' after' (c :: cs) ↔
        lowerChar before c (cs ++ after) = lowerChar before' c (cs ++ after') ∧
          lowerWithin (c :: before) after cs = lowerWithin (c :: before') after' cs := by
      constructor
      · exact fun h => List.append_inj h (length_lowerChar _ _ _ _)
      · rintro ⟨hfirst, hrest⟩
        rw [lowerWithin, lowerWithin, hfirst, hrest]
    rw [happend, lowerChar_eq_iff, ih, forall_sigma_cons]
    simp only [List.reverse_nil, List.nil_append, List.reverse_cons, List.append_assoc,
      List.singleton_append]

theorem lowerWithin_eq_lowerCase_iff :
    lowerWithin before.reverse after part = lowerCase part ↔ KeepsSigmas before part after := by
  rw [lowerCase, ← lowerWithin_nil, lowerWithin_eq_iff]
  simp only [List.append_nil, KeepsSigmas]

theorem KeepsSigmas.lowerCase_infix (h : KeepsSigmas before part after) :
    lowerCase part <:+: lowerCase (before ++ part ++ after) := by
  refine ⟨lowerWithin [] (part ++ after) before,
    lowerFrom (part.reverse ++ before.reverse) after, ?_⟩
  rw [← lowerWithin_eq_lowerCase_iff.2 h, lowerCase, List.append_assoc, List.append_assoc,
    lowerFrom_append, lowerFrom_append, List.append_nil]

end LookML.Text
