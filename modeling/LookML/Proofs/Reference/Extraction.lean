import LookML.Proofs.Reference.Pieces
import LookML.Proofs.Text.Trim
import Mathlib.Data.List.Forall2
/-!
# Which references are found

A reference is found wherever it is spelled, however many blanks stand within its braces, unless an
opener before it is still open there: then the braces of that opener hold it, and what they hold is
no reference. So text before a reference can hide it. What is found is listed in order of
appearance, and each of it once.
-/

namespace LookML.Reference

open Text

/-! ## Spelling -/

/-- What stands between the braces when the reference is written. -/
def letters (r : Reference) : List Char :=
  match r.scope with
  | some scope => scope.toList ++ '.' :: r.name.toList
  | none => r.name.toList

/-- The scope and the name, or the name alone. -/
def parts (r : Reference) : List (List Char) :=
  r.scope.toList.map String.toList ++ [r.name.toList]

/-- The scope, if there is one, and the name are identifiers, and the name is that of a field. -/
structure NamesField (r : Reference) : Prop where
  scope : ∀ scope ∈ r.scope, isIdentifier scope.toList = true
  name : isIdentifier r.name.toList = true
  field : isPseudoField r.name.toList = false

section Spelling

variable {r : Reference} {cs cs' : List Char}

theorem intercalate_parts (r : Reference) : ['.'].intercalate r.parts = r.letters := by
  unfold parts letters
  cases r.scope <;> simp [List.intercalate]

theorem toList_render (r : Reference) : r.render.toList = '$' :: '{' :: (r.letters ++ ['}']) := by
  unfold render letters
  cases r.scope <;> simp

theorem isBlank_of_visible {c : Char} (h : 33 ≤ c.toNat) (h' : c.toNat < 127) :
    isBlank c = false := by
  simp only [isBlank, Bool.or_eq_false_iff, Bool.and_eq_false_iff, decide_eq_false_iff_not,
    Char.le_def, UInt32.le_iff_toNat_le, Char.ext_iff, ← UInt32.toNat_inj]
  simp only [Char.toNat] at h h'
  simp only [Char.reduceVal, UInt32.reduceToNat]
  omega

theorem toNat_of_identifier {c : Char} (h : (c.isAlphanum || c = '_') = true) :
    48 ≤ c.toNat ∧ c.toNat ≤ 122 := by
  have hrange : ∀ low high : Char, (low ≤ c && c ≤ high) = true →
      low.toNat ≤ c.toNat ∧ c.toNat ≤ high.toNat := by
    intro low high h
    exact (Bool.and_eq_true_iff.1 h).imp of_decide_eq_true of_decide_eq_true
  have hcases : (((c.isUpper || c.isLower) || c.isDigit) || decide (c = '_')) = true := h
  simp only [Bool.or_eq_true, decide_eq_true_eq] at hcases
  rcases hcases with ((hupper | hlower) | hdigit) | rfl
  · have h : 65 ≤ c.toNat ∧ c.toNat ≤ 90 := of_decide_eq_true hupper
    omega
  · have h : 97 ≤ c.toNat ∧ c.toNat ≤ 122 := hrange 'a' 'z' hlower
    omega
  · have h : 48 ≤ c.toNat ∧ c.toNat ≤ 57 := hrange '0' '9' hdigit
    omega
  · decide

theorem toNat_of_mem_identifier (h : isIdentifier cs = true) :
    ∀ c ∈ cs, 48 ≤ c.toNat ∧ c.toNat ≤ 122 := by
  intro c hc
  rw [isIdentifier, Bool.and_eq_true, List.all_eq_true] at h
  exact toNat_of_identifier (h.2 c hc)

theorem NamesField.toNat_of_mem_letters (h : r.NamesField) :
    ∀ c ∈ r.letters, 46 ≤ c.toNat ∧ c.toNat ≤ 122 := by
  intro c hc
  have hname := toNat_of_mem_identifier h.name
  unfold letters at hc
  split at hc
  · rename_i scope hscope
    rcases List.mem_append.1 hc with hc | hc
    · have := toNat_of_mem_identifier (h.scope scope hscope) c hc
      omega
    · rcases List.mem_cons.1 hc with rfl | hc
      · decide
      · have := hname c hc
        omega
  · have := hname c hc
    omega

theorem NamesField.closing_notMem (h : r.NamesField) : '}' ∉ r.letters :=
  fun hc => absurd (h.toNat_of_mem_letters _ hc).2 (by decide)

theorem NamesField.not_blank (h : r.NamesField) : ∀ c ∈ r.letters, isBlank c = false := by
  intro c hc
  have := h.toNat_of_mem_letters c hc
  exact isBlank_of_visible (by omega) (by omega)

theorem splitAtDots_eq_splitOn (cs : List Char) : splitAtDots cs = cs.splitOn '.' := by
  induction cs with
  | nil => rfl
  | cons c cs ih =>
    have hne : splitAtDots cs ≠ [] := ih ▸ List.splitOn_ne_nil _ _
    rw [splitAtDots, List.splitOn_eq_splitOnP, List.splitOnP_cons_eq_if_modifyHead,
      ← List.splitOn_eq_splitOnP, ← ih]
    obtain ⟨part, parts, hparts⟩ := List.exists_cons_of_ne_nil hne
    simp only [hparts, beq_iff_eq, List.modifyHead_cons]

theorem eq_intercalate_of_splitAtDots {parts : List (List Char)} (h : splitAtDots cs = parts) :
    cs = ['.'].intercalate parts := by
  rw [← h, splitAtDots_eq_splitOn, List.intercalate_splitOn]

theorem NamesField.splitAtDots_letters (h : r.NamesField) : splitAtDots r.letters = r.parts := by
  rw [splitAtDots_eq_splitOn, ← intercalate_parts]
  refine List.splitOn_intercalate '.' (fun part hpart hdot => ?_) (by simp [parts])
  have hidentifier : isIdentifier part = true := by
    simp only [parts, List.mem_append, List.mem_map, Option.mem_toList, List.mem_singleton] at hpart
    rcases hpart with ⟨scope, hscope, rfl⟩ | rfl
    · exact h.scope scope hscope
    · exact h.name
  exact absurd (toNat_of_mem_identifier hidentifier _ hdot).1 (by decide)

theorem ofText?_eq_some_iff : ofText? cs = some r ↔ r.NamesField ∧ cs = r.letters := by
  constructor
  · intro h
    unfold ofText? at h
    split at h
    · rename_i name hparts
      rw [Option.ite_none_right_eq_some] at h
      obtain ⟨hname, heq⟩ := h
      cases heq
      simp only [Bool.and_eq_true, Bool.not_eq_true'] at hname
      refine ⟨⟨nofun, ?_, ?_⟩, ?_⟩
      · simpa using hname.1
      · simpa using hname.2
      · simpa [letters] using eq_intercalate_of_splitAtDots hparts
    · rename_i scope name hparts
      rw [Option.ite_none_right_eq_some] at h
      obtain ⟨hnames, heq⟩ := h
      cases heq
      simp only [Bool.and_eq_true, Bool.not_eq_true'] at hnames
      refine ⟨⟨?_, ?_, ?_⟩, ?_⟩
      · simpa using hnames.1.1
      · simpa using hnames.1.2
      · simpa using hnames.2
      · simpa [letters, List.intercalate] using eq_intercalate_of_splitAtDots hparts
    · cases h
  · rintro ⟨h, rfl⟩
    have hparts := h.splitAtDots_letters
    obtain ⟨hscope, hname, hfield⟩ := h
    obtain ⟨scope, name⟩ := r
    cases scope with
    | none => simp [ofText?, hparts, parts, hname, hfield]
    | some scope => simp [ofText?, hparts, parts, hscope scope rfl, hname, hfield]

end Spelling

/-! ## Occurrences -/

/-- The text begins with the reference, as it may be spelled: with blanks within the braces. -/
def BeginsWith (r : Reference) (text : List Char) : Prop :=
  r.NamesField ∧ ∃ left right after, (∀ c ∈ left, isBlank c) ∧ (∀ c ∈ right, isBlank c) ∧
    text = '$' :: '{' :: (left ++ r.letters ++ right ++ '}' :: after)

def EndsOpen (text : List Char) : Prop :=
  ∃ before inside, text = before ++ '$' :: '{' :: inside ∧ '}' ∉ inside

section Occurrences

variable {r : Reference} {c : Char} {cs before inside after kept : List Char}

theorem BeginsWith.eq_cons (h : BeginsWith r (c :: cs)) :
    c = '$' ∧ ∃ after, cs = '{' :: after ∧ '}' ∈ after := by
  obtain ⟨_, left, right, after, _, _, heq⟩ := h
  cases heq
  exact ⟨rfl, _, rfl, by simp⟩

theorem beginsWith_iff (hinside : '}' ∉ inside) :
    BeginsWith r ('$' :: '{' :: (inside ++ '}' :: after)) ↔ ofText? (trim inside) = some r := by
  rw [ofText?_eq_some_iff]
  constructor
  · rintro ⟨h, left, right, after', hleft, hright, heq⟩
    have hblank : isBlank '}' = false := by decide
    have hspelled : '}' ∉ left ++ r.letters ++ right := by
      simp only [List.mem_append, not_or]
      refine ⟨⟨fun hmem => ?_, h.closing_notMem⟩, fun hmem => ?_⟩
      · exact absurd (hleft _ hmem) (by simp [hblank])
      · exact absurd (hright _ hmem) (by simp [hblank])
    simp only [List.cons.injEq, true_and] at heq
    obtain ⟨rfl, _⟩ := append_brace_inj hinside hspelled heq
    exact ⟨h, trim_of_blanks hleft hright h.not_blank⟩
  · rintro ⟨h, htrim⟩
    obtain ⟨left, right, hleft, hright, heq⟩ := exists_blanks_trim inside
    exact ⟨h, left, right, after, hleft, hright, by rw [← htrim, ← heq]⟩

theorem endsOpen_append (h : '}' ∉ inside) : EndsOpen (before ++ '$' :: '{' :: inside) :=
  ⟨before, inside, rfl, h⟩

/-- No opener is open at the end of a text that follows a closing brace and holds no opener. -/
theorem not_endsOpen_append (hbefore : ∀ c ∈ before.getLast?, c = '}')
    (hkept : ¬ ['$', '{'] <:+: kept) : ¬ EndsOpen (before ++ kept) := by
  rintro ⟨outer, inside, heq, hinside⟩
  rcases List.append_eq_append_iff.1 heq with ⟨x, rfl, hkept'⟩ | ⟨x, rfl, hx⟩
  · exact hkept ⟨x, inside, by simp [hkept']⟩
  · rcases List.eq_nil_or_concat x with rfl | ⟨x, c, rfl⟩
    · exact hkept ⟨[], inside, by simpa using hx⟩
    · obtain rfl : c = '}' := hbefore c (by simp)
      have hmem : '}' ∈ '$' :: '{' :: inside := hx ▸ by simp
      simp [hinside] at hmem

end Occurrences

/-! ## From left to right -/

/-- What is seen of the references in a text that stands after `before`, one character after
another. -/
inductive Seen : (before text : List Char) → List Reference → Prop
  | nil {before : List Char} : Seen before [] []
  | skip {before cs : List Char} {c : Char} {refs : List Reference} :
    (∀ r, BeginsWith r (c :: cs) → EndsOpen before) → Seen (before ++ [c]) cs refs →
    Seen before (c :: cs) refs
  | found {before cs : List Char} {c : Char} {r : Reference} {refs : List Reference} :
    BeginsWith r (c :: cs) → ¬ EndsOpen before → Seen (before ++ [c]) cs refs →
    Seen before (c :: cs) (r :: refs)

namespace Seen

variable {before text run rest inside : List Char} {refs : List Reference}

theorem skipAll
    (hrun : ∀ passed c left, run = passed ++ c :: left → ∀ r, BeginsWith r (c :: (left ++ rest)) →
      EndsOpen (before ++ passed))
    (h : Seen (before ++ run) rest refs) : Seen before (run ++ rest) refs := by
  induction run generalizing before with
  | nil => simpa using h
  | cons c run ih =>
    refine .skip (by simpa using hrun [] c run rfl) (ih ?_ (by simpa using h))
    intro passed d left heq r hr
    simpa using hrun (c :: passed) d left (by rw [heq]; rfl) r hr

theorem substitution (hbefore : ¬ EndsOpen before) (hinside : '}' ∉ inside)
    (h : Seen (before ++ '$' :: '{' :: (inside ++ ['}'])) rest refs) :
    Seen before ('$' :: '{' :: (inside ++ '}' :: rest))
      ((ofText? (trim inside)).toList ++ refs) := by
  have hbraces : Seen (before ++ ['$']) ('{' :: (inside ++ '}' :: rest)) refs := by
    refine .skip (fun r hr => absurd hr.eq_cons.1 (by decide)) (skipAll ?_ (.skip ?_ ?_))
    · rintro passed c left rfl _ _
      have hopen : EndsOpen (before ++ '$' :: '{' :: passed) :=
        endsOpen_append (mt (List.mem_append_left _) hinside)
      simpa using hopen
    · exact fun r hr => absurd hr.eq_cons.1 (by decide)
    · simpa using h
  cases hr : ofText? (trim inside) with
  | none =>
    refine .skip (fun r hr' => ?_) hbraces
    rw [beginsWith_iff hinside, hr] at hr'
    cases hr'
  | some r => exact .found ((beginsWith_iff hinside).2 hr) hbefore hbraces

theorem of_cut {stretches : List Stretch} (h : Cut text stretches rest)
    (hbefore : ∀ c ∈ before.getLast?, c = '}') :
    Seen before text (stretches.flatMap fun s => (ofText? (trim s.inside)).toList) := by
  obtain ⟨rfl, hkept, hinside, hrest⟩ := h
  induction stretches generalizing before with
  | nil =>
    have hseen : Seen before (rest ++ []) [] := by
      refine skipAll (fun passed c left heq r hr => absurd ?_ hrest) .nil
      obtain ⟨rfl, after, hafter, hclosed⟩ := hr.eq_cons
      obtain ⟨inside, after, rfl⟩ := List.append_of_mem hclosed
      exact ⟨passed, inside, after, by rw [heq]; simpa using hafter⟩
    simpa using hseen
  | cons s stretches ih =>
    rw [List.forall_mem_cons] at hkept hinside
    have htext : (s :: stretches).flatMap Stretch.text ++ rest =
        s.kept ++ '$' :: '{' :: (s.inside ++ '}' :: (stretches.flatMap Stretch.text ++ rest)) := by
      simp [Stretch.text]
    rw [htext, List.flatMap_cons]
    refine skipAll (fun passed c left heq r hr => ?_)
      (substitution (not_endsOpen_append hbefore hkept.1) hinside.1 (ih ?_ hkept.2 hinside.2))
    · -- Within what is kept there is no opener for a reference to begin with.
      obtain ⟨rfl, after, hafter, _⟩ := hr.eq_cons
      cases left with
      | nil => cases hafter
      | cons d left =>
        cases hafter
        exact absurd ⟨passed, left, by rw [heq]; simp⟩ hkept.1
    · have hlast : before ++ s.kept ++ '$' :: '{' :: (s.inside ++ ['}']) =
          (before ++ s.kept ++ '$' :: '{' :: s.inside) ++ ['}'] := by simp
      rw [hlast, List.getLast?_concat]
      exact fun c hc => (Option.some.inj hc).symm

end Seen

/-- The places of the references in the text that are seen, and what they are. -/
structure Lists (before text : List Char) (places : List Nat) (refs : List Reference) : Prop where
  increasing : places.Pairwise (· < ·)
  mem_iff : ∀ i, i ∈ places ↔
    (∃ r, BeginsWith r (text.drop i)) ∧ ¬ EndsOpen (before ++ text.take i)
  spelled : List.Forall₂ (fun i r => BeginsWith r (text.drop i)) places refs

section Lists

variable {before cs : List Char} {c : Char} {places : List Nat} {refs : List Reference}

theorem Lists.mem_iff_succ (h : Lists (before ++ [c]) cs places refs) (i : Nat) :
    i ∈ places ↔ (∃ r, BeginsWith r ((c :: cs).drop (i + 1))) ∧
      ¬ EndsOpen (before ++ (c :: cs).take (i + 1)) := by
  rw [h.mem_iff, List.drop_succ_cons, List.take_succ_cons, List.append_assoc, List.singleton_append]

theorem Lists.spelled_succ (h : Lists (before ++ [c]) cs places refs) :
    List.Forall₂ (fun i r => BeginsWith r ((c :: cs).drop i)) (places.map (· + 1)) refs := by
  rw [List.forall₂_map_left_iff]
  exact h.spelled

theorem Lists.increasing_succ (h : Lists (before ++ [c]) cs places refs) :
    (places.map (· + 1)).Pairwise (· < ·) :=
  h.increasing.map _ fun _ _ => Nat.succ_lt_succ

theorem Seen.exists_lists {text : List Char} (h : Seen before text refs) :
    ∃ places, Lists before text places refs := by
  induction h with
  | nil =>
    refine ⟨[], .nil, fun i => ?_, .nil⟩
    simp only [List.not_mem_nil, List.drop_nil, false_iff, not_and]
    rintro ⟨r, _, _, _, _, _, _, heq⟩
    cases heq
  | @skip before cs c refs hskip _ ih =>
    obtain ⟨places, h⟩ := ih
    refine ⟨places.map (· + 1), h.increasing_succ, fun i => ?_, h.spelled_succ⟩
    cases i with
    | zero =>
      simp only [List.mem_map, Nat.add_one_ne_zero, and_false, exists_false, false_iff, not_and,
        not_not, List.drop_zero, List.take_zero, List.append_nil]
      exact fun ⟨r, hr⟩ => hskip r hr
    | succ i => rw [← h.mem_iff_succ]; simp
  | @found before cs c r refs hr hopen _ ih =>
    obtain ⟨places, h⟩ := ih
    refine ⟨0 :: places.map (· + 1), ?_, fun i => ?_, .cons hr h.spelled_succ⟩
    · exact List.pairwise_cons.2 ⟨by simp, h.increasing_succ⟩
    · cases i with
      | zero => simpa using ⟨⟨r, hr⟩, hopen⟩
      | succ i => rw [← h.mem_iff_succ]; simp

end Lists

/-! ## Main statement -/

variable {text : String}

theorem extract_eq_flatMap {stretches : List Stretch} {rest : List Char}
    (h : split text.toList = stretches.flatMap Stretch.pieces ++ rest.map .kept) :
    extract text = stretches.flatMap fun s => (ofText? (trim s.inside)).toList := by
  have hkept : ∀ cs : List Char, (cs.map Piece.kept).filterMap Piece.inside? = [] := by
    intro cs
    simp [Piece.inside?]
  have hinside : ∀ s : Stretch, s.pieces.filterMap Piece.inside? = [s.inside] := by
    intro s
    rw [Stretch.pieces, List.filterMap_append, hkept]
    rfl
  rw [extract, h, List.filterMap_append, hkept, List.append_nil, List.filterMap_flatMap]
  simp only [hinside, List.filterMap_eq_flatMap_toList, List.flatMap_assoc, List.flatMap_singleton]

/-- What is found is spelled somewhere, so that it is found again when it is written out. -/
theorem extract_render {r : Reference} (h : r.NamesField) : extract r.render = [r] := by
  have htrim : trim r.letters = r.letters := by
    have hbare : trim ([] ++ r.letters ++ []) = r.letters :=
      trim_of_blanks nofun nofun h.not_blank
    simpa using hbare
  have hread : ofText? (trim r.letters) = some r := ofText?_eq_some_iff.2 ⟨h, htrim⟩
  rw [extract, toList_render, split_substitution h.closing_notMem, split]
  simp [Piece.inside?, hread]

/-- The references that are found in a text are those that are spelled in it where no opener is
open, one for each place and in their order. Each of them is all that is found in what it is
rendered as. -/
theorem extract_lists (text : String) :
    (∃ places, Lists [] text.toList places (extract text)) ∧
      ∀ r ∈ extract text, extract r.render = [r] := by
  obtain ⟨stretches, rest, hcut, hsplit⟩ := exists_cut text.toList
  have hseen : Seen [] text.toList (extract text) := by
    rw [extract_eq_flatMap hsplit]
    exact .of_cut hcut nofun
  refine ⟨hseen.exists_lists, fun r hr => ?_⟩
  obtain ⟨inside, _, hinside⟩ := List.mem_filterMap.1 hr
  exact extract_render (ofText?_eq_some_iff.1 hinside).1

def afterOpener : String := "$\x7b $\x7ba.b\x7d"

/-- The reference is spelled in the text and is not found. -/
theorem hidden_afterOpener :
    BeginsWith ⟨some "a", "b"⟩ (afterOpener.toList.drop 3) ∧ extract afterOpener = [] := by
  refine ⟨⟨⟨?_, by decide, by decide⟩, [], [], [], by simp, by simp, by decide⟩, by decide +kernel⟩
  intro scope hscope
  cases hscope
  decide

end LookML.Reference
