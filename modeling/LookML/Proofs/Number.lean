import LookML.Document.Parser
import LookML.Proofs.Text.Trim
import Mathlib.Algebra.Order.Field.Power
import Mathlib.Computability.RegularExpressions
import Mathlib.Data.List.TakeWhile
import Mathlib.Tactic.IntervalCases
import Mathlib.Tactic.Ring
/-!
# Numeric literals

Which words are read as numbers is a matter of their spelling alone, and the spellings are a regular
language. It is what remains of the usual grammar of floating point numbers, in which infinities and
NaN can be spelled out as well, if a word has to begin like a number. What is read is a binary64
number or an infinity.
-/

namespace LookML

open Number (startsNumeric looksNumeric)
open RegularExpression
open scoped Computability

/-! ## Regular expressions -/

namespace Numeral

def oneOf (cs : List Char) : RegularExpression Char :=
  cs.foldr (fun c p => char c + p) 0

def opt (p : RegularExpression Char) : RegularExpression Char :=
  1 + p

def sign : RegularExpression Char := oneOf ['+', '-']

def digit : RegularExpression Char :=
  oneOf ['0', '1', '2', '3', '4', '5', '6', '7', '8', '9']

def digits : RegularExpression Char := digit * star digit

def point : RegularExpression Char := oneOf ['.']

def exponent : RegularExpression Char := oneOf ['e', 'E'] * (opt sign * digits)

def mantissa : RegularExpression Char := digits * opt (point * star digit) + point * digits

def literal : RegularExpression Char := opt sign * (mantissa * opt exponent)

/-- The word in small letters, capitals or both. -/
def anyCase (word : String) : RegularExpression Char :=
  word.toList.foldr (fun c p => oneOf [c, c.toUpper] * p) 1

def special : RegularExpression Char := anyCase "inf" + anyCase "infinity" + anyCase "nan"

/-- A floating point number as it is usually written. -/
def float : RegularExpression Char :=
  opt sign * (special +
    (digits + digits * (point * star digit) + star digit * (point * digits)) * opt exponent)

variable {p q : RegularExpression Char} {w : List Char}

theorem mem_add : w ∈ (p + q).matches' ↔ w ∈ p.matches' ∨ w ∈ q.matches' :=
  Language.mem_add _ _ _

theorem mem_mul : w ∈ (p * q).matches' ↔ ∃ u ∈ p.matches', ∃ v ∈ q.matches', u ++ v = w :=
  Language.mem_mul

theorem mem_opt : w ∈ (opt p).matches' ↔ w = [] ∨ w ∈ p.matches' :=
  mem_add

theorem mem_opt_mul : w ∈ (opt p * q).matches' ↔ w ∈ q.matches' ∨ w ∈ (p * q).matches' := by
  rw [opt, matches'_mul, matches'_add, matches'_epsilon, add_mul, one_mul, Language.mem_add,
    matches'_mul]

theorem mem_mul_assoc {r : RegularExpression Char} :
    w ∈ (p * q * r).matches' ↔ w ∈ (p * (q * r)).matches' := by
  simp only [matches'_mul, mul_assoc]

theorem mem_oneOf {cs : List Char} : w ∈ (oneOf cs).matches' ↔ ∃ c ∈ cs, w = [c] := by
  induction cs with
  | nil => simp [oneOf]
  | cons c cs ih =>
    have hstep : w ∈ (oneOf (c :: cs)).matches' ↔ w = [c] ∨ w ∈ (oneOf cs).matches' := mem_add
    rw [hstep, ih, List.exists_mem_cons_iff]

theorem mem_oneOf_mul {cs : List Char} :
    w ∈ (oneOf cs * p).matches' ↔ ∃ c ∈ cs, ∃ v ∈ p.matches', w = c :: v := by
  simp only [mem_mul, mem_oneOf]
  constructor
  · rintro ⟨_, ⟨c, hc, rfl⟩, v, hv, rfl⟩
    exact ⟨c, hc, v, hv, rfl⟩
  · rintro ⟨c, hc, v, hv, rfl⟩
    exact ⟨[c], ⟨c, hc, rfl⟩, v, hv, rfl⟩

theorem mem_digit : w ∈ digit.matches' ↔ ∃ c, c.isDigit = true ∧ w = [c] := by
  rw [digit, mem_oneOf]
  constructor
  · rintro ⟨c, hc, rfl⟩
    exact ⟨c, List.all_eq_true.1 (by decide) c hc, rfl⟩
  · rintro ⟨c, hc, rfl⟩
    refine ⟨c, ?_, rfl⟩
    obtain ⟨hlow, hhigh⟩ : 48 ≤ c.toNat ∧ c.toNat ≤ 57 := by
      simp only [Char.isDigit, Bool.and_eq_true, decide_eq_true_eq] at hc
      exact hc
    rw [← Char.ofNat_toNat c]
    generalize c.toNat = n at hlow hhigh
    interval_cases n <;> decide

theorem mem_star_digit : w ∈ (star digit).matches' ↔ ∀ c ∈ w, c.isDigit = true := by
  rw [matches'_star, Language.mem_kstar]
  constructor
  · rintro ⟨words, rfl, hwords⟩ c hc
    obtain ⟨word, hword, hc⟩ := List.mem_flatten.1 hc
    obtain ⟨d, hd, rfl⟩ := mem_digit.1 (hwords word hword)
    rwa [List.mem_singleton.1 hc]
  · intro h
    refine ⟨w.map fun c => [c], ?_, ?_⟩
    · rw [← List.flatMap_def, List.flatMap_singleton']
    · intro word hword
      obtain ⟨c, hc, rfl⟩ := List.mem_map.1 hword
      exact mem_digit.2 ⟨c, h c hc, rfl⟩

theorem mem_digits : w ∈ digits.matches' ↔ w ≠ [] ∧ ∀ c ∈ w, c.isDigit = true := by
  rw [digits, mem_mul]
  constructor
  · rintro ⟨_, hd, ds, hds, rfl⟩
    obtain ⟨d, hdigit, rfl⟩ := mem_digit.1 hd
    exact ⟨nofun, List.forall_mem_cons.2 ⟨hdigit, mem_star_digit.1 hds⟩⟩
  · rintro ⟨hne, h⟩
    obtain ⟨d, ds, rfl⟩ := List.exists_cons_of_ne_nil hne
    obtain ⟨hd, hds⟩ := List.forall_mem_cons.1 h
    exact ⟨[d], mem_digit.2 ⟨d, hd, rfl⟩, ds, mem_star_digit.2 hds, rfl⟩

/-! ## Where a part ends -/

def NeverBegins (p : RegularExpression Char) (s : Char → Bool) : Prop :=
  ∀ w ∈ p.matches', ∀ c, w.head? = some c → s c = false

theorem neverBegins_add {s : Char → Bool} (hp : NeverBegins p s) (hq : NeverBegins q s) :
    NeverBegins (p + q) s := by
  intro w hw
  rcases mem_add.1 hw with hw | hw
  · exact hp w hw
  · exact hq w hw

theorem neverBegins_oneOf_mul {s : Char → Bool} {cs : List Char} (hs : cs.any s = false) :
    NeverBegins (oneOf cs * p) s := by
  intro w hw c hc
  obtain ⟨d, hd, v, _, rfl⟩ := mem_oneOf_mul.1 hw
  obtain rfl : d = c := by simpa using hc
  exact Bool.eq_false_iff.2 (List.any_eq_false.1 hs d hd)

theorem mem_star_digit_mul (hp : NeverBegins p Char.isDigit) :
    w ∈ (star digit * p).matches' ↔ w.dropWhile Char.isDigit ∈ p.matches' := by
  rw [mem_mul]
  constructor
  · rintro ⟨ds, hds, v, hv, rfl⟩
    rwa [Text.dropWhile_of_boundary (mem_star_digit.1 hds) (hp v hv)]
  · intro h
    exact ⟨w.takeWhile Char.isDigit, mem_star_digit.2 fun _ => List.mem_takeWhile_imp,
      w.dropWhile Char.isDigit, h, List.takeWhile_append_dropWhile⟩

theorem mem_digits_mul (hp : NeverBegins p Char.isDigit) :
    w ∈ (digits * p).matches' ↔
      w.takeWhile Char.isDigit ≠ [] ∧ w.dropWhile Char.isDigit ∈ p.matches' := by
  rw [mem_mul]
  constructor
  · rintro ⟨ds, hds, v, hv, rfl⟩
    obtain ⟨hne, hdigits⟩ := mem_digits.1 hds
    rw [Text.takeWhile_of_boundary hdigits (hp v hv), Text.dropWhile_of_boundary hdigits (hp v hv)]
    exact ⟨hne, hv⟩
  · rintro ⟨hne, h⟩
    exact ⟨w.takeWhile Char.isDigit, mem_digits.2 ⟨hne, fun _ => List.mem_takeWhile_imp⟩,
      w.dropWhile Char.isDigit, h, List.takeWhile_append_dropWhile⟩

theorem mem_sign_mul (hp : NeverBegins p fun c => c = '+' || c = '-') :
    w ∈ (opt sign * p).matches' ↔ (Number.splitSign w).2 ∈ p.matches' := by
  have hfirst : ∀ c cs, (c = '+' || c = '-') = true → c :: cs ∉ p.matches' := by
    intro c cs hc hmem
    have hnone := hp _ hmem c rfl
    simp only [hc, Bool.true_eq_false] at hnone
  rw [mem_opt_mul, sign, mem_oneOf_mul]
  unfold Number.splitSign
  split
  · simp [hfirst]
  · simp [hfirst]
  · rename_i hminus hplus
    simp only [List.mem_cons, List.not_mem_nil, or_false, or_iff_left_iff_imp]
    rintro ⟨c, rfl | rfl, cs, _, rfl⟩
    · exact absurd rfl (hplus cs)
    · exact absurd rfl (hminus cs)

/-! ## Reading a literal -/

theorem neverBegins_opt_exponent {s : Char → Bool} (hs : ['e', 'E'].any s = false) :
    NeverBegins (opt exponent) s := by
  refine neverBegins_add ?_ (neverBegins_oneOf_mul hs)
  rintro w rfl c hc
  cases hc

theorem mem_opt_exponent : w ∈ (opt exponent).matches' ↔ (Number.readExponent? w).isSome := by
  have hdigits : NeverBegins digits fun c => c = '+' || c = '-' :=
    neverBegins_oneOf_mul (by decide)
  rw [mem_opt, exponent, mem_oneOf_mul]
  cases w with
  | nil => simp [Number.readExponent?]
  | cons c cs =>
    have hexponent : (∃ d ∈ ['e', 'E'], ∃ v ∈ (opt sign * digits).matches', c :: cs = d :: v) ↔
        (c = 'e' ∨ c = 'E') ∧ (Number.splitSign cs).2 ≠ [] ∧
          ∀ d ∈ (Number.splitSign cs).2, d.isDigit = true := by
      rw [← mem_digits, ← mem_sign_mul hdigits]
      constructor
      · rintro ⟨d, hd, v, hv, heq⟩
        cases heq
        exact ⟨by simpa using hd, hv⟩
      · rintro ⟨hc, hcs⟩
        exact ⟨c, by simpa using hc, cs, hcs, rfl⟩
    rw [hexponent]
    simp [Number.readExponent?, and_assoc]

theorem mem_point_mul : w ∈ (point * p).matches' ↔ ∃ v ∈ p.matches', w = '.' :: v := by
  rw [point, mem_oneOf_mul]
  simp

theorem mem_fraction :
    w ∈ (opt (point * star digit) * opt exponent).matches' ↔
      (Number.splitFraction w).2 ∈ (opt exponent).matches' := by
  have hdigit : NeverBegins (opt exponent) Char.isDigit := neverBegins_opt_exponent (by decide)
  have hpoint : ∀ v, '.' :: v ∉ (opt exponent).matches' := by
    intro v hv
    have hno := neverBegins_opt_exponent (s := (· = '.')) (by decide) _ hv '.' rfl
    cases hno
  rw [mem_opt_mul, mem_mul_assoc, mem_point_mul]
  unfold Number.splitFraction
  split
  · rename_i v
    simp only [hpoint, false_or, List.cons.injEq, true_and]
    rw [← mem_star_digit_mul hdigit]
    exact ⟨fun ⟨u, hu, hv⟩ => hv ▸ hu, fun hv => ⟨v, hv, rfl⟩⟩
  · rename_i hno
    simp only [or_iff_left_iff_imp]
    rintro ⟨v, _, rfl⟩
    exact absurd rfl (hno v)

theorem takeWhile_isDigit_ne_nil (w : List Char) :
    w.takeWhile Char.isDigit ≠ [] ↔ w.head?.any Char.isDigit = true := by
  cases w with
  | nil => simp
  | cons c v => by_cases hc : c.isDigit = true <;> simp [hc]

theorem startsNumeric_iff (w : List Char) :
    startsNumeric w = true ↔
      w.takeWhile Char.isDigit ++ (Number.splitFraction (w.dropWhile Char.isDigit)).1 ≠ [] := by
  cases w with
  | nil => simp [startsNumeric, Number.splitFraction]
  | cons c v =>
    by_cases hc : c.isDigit = true
    · simp [startsNumeric, hc]
    · rw [List.takeWhile_cons_of_neg hc, List.dropWhile_cons_of_neg hc, List.nil_append]
      by_cases hpoint : c = '.'
      · subst hpoint
        rw [Number.splitFraction, takeWhile_isDigit_ne_nil]
        simp [startsNumeric, hc]
      · simp [startsNumeric, hc, hpoint, Number.splitFraction]

theorem mem_number :
    w ∈ (mantissa * opt exponent).matches' ↔ startsNumeric w = true ∧
      (Number.splitFraction (w.dropWhile Char.isDigit)).2 ∈ (opt exponent).matches' := by
  have hdistrib : (mantissa * opt exponent).matches' =
      (digits * (opt (point * star digit) * opt exponent) +
        point * (digits * opt exponent)).matches' := by
    simp only [mantissa, matches'_mul, matches'_add, add_mul, mul_assoc]
  have hdigit : NeverBegins (opt exponent) Char.isDigit := neverBegins_opt_exponent (by decide)
  have hfraction : NeverBegins (opt (point * star digit) * opt exponent) Char.isDigit := by
    intro v hv
    rw [mem_opt_mul, mem_mul_assoc] at hv
    rcases hv with hv | hv
    · exact hdigit v hv
    · exact neverBegins_oneOf_mul (by decide) v hv
  rw [hdistrib, mem_add, mem_digits_mul hfraction, mem_fraction, mem_point_mul]
  cases w with
  | nil => simp [startsNumeric]
  | cons c v =>
    by_cases hc : c.isDigit = true
    · have hpoint : c ≠ '.' := by
        rintro rfl
        cases hc
      simp [startsNumeric, hc, hpoint]
    · rw [List.takeWhile_cons_of_neg hc, List.dropWhile_cons_of_neg hc]
      by_cases hpoint : c = '.'
      · subst hpoint
        simp only [List.cons.injEq, true_and, exists_eq_right', mem_digits_mul hdigit,
          takeWhile_isDigit_ne_nil]
        simp [startsNumeric, hc, Number.splitFraction]
      · simp [startsNumeric, hc, hpoint]

theorem neverBegins_number :
    NeverBegins (mantissa * opt exponent) fun c => c = '+' || c = '-' := by
  intro w hw c hc
  rw [mem_number] at hw
  by_contra hsign
  simp only [Bool.not_eq_false, Bool.or_eq_true, decide_eq_true_eq] at hsign
  rcases hsign with rfl | rfl <;> simp [startsNumeric, hc] at hw

theorem isSome_readDecimal?_iff (w : List Char) :
    (Number.readDecimal? w).isSome = true ↔ w ∈ (mantissa * opt exponent).matches' := by
  rw [mem_number, mem_opt_exponent, startsNumeric_iff]
  simp only [Number.readDecimal?]
  split
  · rename_i hnone
    exact iff_of_false nofun fun h => h.1 (List.isEmpty_iff.1 hnone)
  · rename_i hsome
    rw [Option.isSome_map, and_iff_right (mt List.isEmpty_iff.2 hsome)]

/-! ## The grammar of floating point numbers -/

theorem mem_mantissa :
    w ∈ (digits + digits * (point * star digit) + star digit * (point * digits)).matches' ↔
      w ∈ mantissa.matches' := by
  have hwhole : ∀ ds, ds ∈ (star digit).matches' → ds = [] ∨ ds ∈ digits.matches' := by
    intro ds hds
    rw [mem_digits, ← mem_star_digit]
    by_cases hnil : ds = []
    · exact .inl hnil
    · exact .inr ⟨hnil, hds⟩
  have hfraction : ∀ v, v ∈ (point * digits).matches' → v ∈ (point * star digit).matches' := by
    intro v hv
    obtain ⟨ds, hds, rfl⟩ := mem_point_mul.1 hv
    exact mem_point_mul.2 ⟨ds, mem_star_digit.2 (mem_digits.1 hds).2, rfl⟩
  simp only [mantissa, mem_add]
  constructor
  · rintro ((hw | hw) | hw)
    · exact .inl (mem_mul.2 ⟨w, hw, [], mem_opt.2 (.inl rfl), List.append_nil w⟩)
    · obtain ⟨ds, hds, v, hv, rfl⟩ := mem_mul.1 hw
      exact .inl (mem_mul.2 ⟨ds, hds, v, mem_opt.2 (.inr hv), rfl⟩)
    · obtain ⟨ds, hds, v, hv, rfl⟩ := mem_mul.1 hw
      rcases hwhole ds hds with rfl | hds
      · exact .inr hv
      · exact .inl (mem_mul.2 ⟨ds, hds, v, mem_opt.2 (.inr (hfraction v hv)), rfl⟩)
  · rintro (hw | hw)
    · obtain ⟨ds, hds, v, hv, rfl⟩ := mem_mul.1 hw
      rcases mem_opt.1 hv with rfl | hv
      · exact .inl (.inl (by rwa [List.append_nil]))
      · exact .inl (.inr (mem_mul.2 ⟨ds, hds, v, hv, rfl⟩))
    · exact .inr (mem_mul.2 ⟨[], mem_star_digit.2 nofun, w, hw, rfl⟩)

theorem toLower_eq_iff {c d : Char} (hc : c.isLower) :
    d.toLower = c ↔ d = c ∨ d = c.toUpper := by
  unfold Char.isLower at hc
  rw [Bool.and_eq_true, decide_eq_true_eq, decide_eq_true_eq] at hc
  have hupper : c.toUpper.val = c.val + ('A'.val - 'a'.val) := by
    unfold Char.toUpper
    rw [dif_pos hc]
  simp only [Char.ext_iff, hupper]
  unfold Char.toLower
  split <;> grind [UInt32.toNat_add, Char.toNat_val]

theorem mem_anyCase {word : String} (hword : word.toList.all Char.isLower) :
    w ∈ (anyCase word).matches' ↔ w.map Char.toLower = word.toList := by
  unfold anyCase
  generalize word.toList = cs at hword ⊢
  induction cs generalizing w with
  | nil => simp [Language.mem_one]
  | cons c cs ih =>
    obtain ⟨hc, hcs⟩ := Bool.and_eq_true_iff.1 hword
    rw [List.foldr_cons, mem_oneOf_mul, List.map_eq_cons_iff]
    simp only [ih hcs, List.mem_pair, ← toLower_eq_iff hc]
    constructor
    · rintro ⟨d, hd, v, hv, rfl⟩
      exact ⟨d, v, rfl, hd, hv⟩
    · rintro ⟨d, v, rfl, hd, hv⟩
      exact ⟨d, hd, v, hv, rfl⟩

theorem isSome_readSpecial?_iff (w : List Char) :
    (Number.readSpecial? w).isSome = true ↔ w ∈ special.matches' := by
  have hinf : w ∈ (anyCase "inf").matches' ↔ w.map Char.toLower = "inf".toList :=
    mem_anyCase (by decide)
  have hinfinity : w ∈ (anyCase "infinity").matches' ↔ w.map Char.toLower = "infinity".toList :=
    mem_anyCase (by decide)
  have hnan : w ∈ (anyCase "nan").matches' ↔ w.map Char.toLower = "nan".toList :=
    mem_anyCase (by decide)
  rw [special, mem_add, mem_add, hinf, hinfinity, hnan]
  simp only [Number.readSpecial?, Bool.or_eq_true, decide_eq_true_eq]
  split
  · rename_i h
    exact iff_of_true rfl (.inl h)
  · rename_i hinfinite
    rw [or_iff_right hinfinite]
    split
    · rename_i h
      exact iff_of_true rfl h
    · rename_i h
      exact iff_of_false nofun h

theorem neverBegins_special {s : Char → Bool} (hs : ['i', 'I', 'n', 'N'].any s = false) :
    NeverBegins special s := by
  obtain ⟨hi, hn⟩ : ['i', 'I'].any s = false ∧ ['n', 'N'].any s = false := by
    rwa [← Bool.or_eq_false_iff, ← List.any_append]
  exact neverBegins_add (neverBegins_add (neverBegins_oneOf_mul hi) (neverBegins_oneOf_mul hi))
    (neverBegins_oneOf_mul hn)

theorem startsNumeric_of_special (h : w ∈ special.matches') : startsNumeric w = false := by
  cases w with
  | nil => rfl
  | cons c v =>
    have hc : (c.isDigit || c = '.') = false :=
      neverBegins_special (s := fun c => c.isDigit || c = '.') (by decide) _ h c rfl
    simp only [Bool.or_eq_false_iff, decide_eq_false_iff_not] at hc
    simp [startsNumeric, hc.1, hc.2]

theorem mem_unsigned :
    w ∈ (special + (digits + digits * (point * star digit) + star digit * (point * digits)) *
      opt exponent).matches' ↔ w ∈ special.matches' ∨ w ∈ (mantissa * opt exponent).matches' := by
  rw [mem_add, matches'_mul, Language.ext fun w => mem_mantissa, ← matches'_mul]

theorem mem_float :
    w ∈ float.matches' ↔ (Number.splitSign w).2 ∈ special.matches' ∨
      (Number.splitSign w).2 ∈ (mantissa * opt exponent).matches' := by
  rw [float, mem_sign_mul, mem_unsigned]
  intro v hv
  rcases mem_unsigned.1 hv with hv | hv
  · exact neverBegins_special (by decide) v hv
  · exact neverBegins_number v hv

theorem isSome_ofFloat?_iff (w : List Char) :
    (Number.ofFloat? w).isSome = true ↔ w ∈ float.matches' := by
  rw [mem_float, ← isSome_readSpecial?_iff, ← isSome_readDecimal?_iff]
  simp [Number.ofFloat?]

theorem mem_literal_iff_looksNumeric (w : List Char) :
    w ∈ literal.matches' ↔ looksNumeric w = true ∧ w ∈ float.matches' := by
  rw [literal, mem_sign_mul neverBegins_number, mem_float, looksNumeric]
  constructor
  · intro h
    exact ⟨(mem_number.1 h).1, .inr h⟩
  · rintro ⟨hstarts, hspecial | h⟩
    · rw [startsNumeric_of_special hspecial] at hstarts
      cases hstarts
    · exact h

theorem isSome_ofWord?_iff (w : List Char) :
    (Number.ofWord? w).isSome = true ↔ w ∈ literal.matches' := by
  rw [mem_literal_iff_looksNumeric, ← isSome_ofFloat?_iff, Number.ofWord?]
  split <;> simp_all

end Numeral

/-! ## Encodings -/

theorem roundHalfEven_le {num den bound : Nat} (h : num < den * bound) :
    roundHalfEven num den ≤ bound := by
  have hquotient : num / den < bound := Nat.div_lt_of_lt_mul h
  unfold roundHalfEven
  dsimp only
  split
  · omega
  · split <;> omega

namespace Magnitude

/-- The magnitude is infinite, or it is a mantissa of 53 bits with an exponent in range. -/
def IsBinary64 : Magnitude → Prop
  | finite mantissa exponent => mantissa < 2 ^ 53 ∧ exponent ≤ greatestExponent
  | infinite => True
  | nan => False

theorem bits_le {m : Magnitude} (h : m.IsBinary64) : m.bits ≤ infinite.bits := by
  have hpow : Nat.pow 2 52 = 4503599627370496 := rfl
  cases m with
  | infinite => exact Nat.le_refl _
  | nan => exact h.elim
  | finite mantissa exponent =>
    obtain ⟨hmantissa, hexponent⟩ := h
    simp only [greatestExponent] at hexponent
    simp only [bits, leastExponent, hpow]
    split <;> omega

/-- A comparison with a multiple of a power of two, in whole numbers. -/
theorem lt_mul_zpow_iff (a b : Nat) (e : Int) :
    (a : ℚ) < b * 2 ^ e ↔
      if 0 ≤ e then a < b * 2 ^ e.toNat else a * 2 ^ (-e).toNat < b := by
  split
  · rename_i he
    lift e to ℕ using he
    rw [zpow_natCast, Int.toNat_natCast]
    exact_mod_cast Iff.rfl
  · rename_i he
    obtain ⟨k, rfl⟩ : ∃ k : ℕ, e = -k := ⟨(-e).toNat, by omega⟩
    rw [zpow_neg, zpow_natCast, ← div_eq_mul_inv, lt_div_iff₀ (by positivity), neg_neg,
      Int.toNat_natCast]
    exact_mod_cast Iff.rfl

theorem mantissaAt_le {num den : Nat} {exponent : Int}
    (h : (num : ℚ) < (den * 2 ^ 53 : ℕ) * 2 ^ exponent) :
    mantissaAt num den exponent ≤ 2 ^ 53 := by
  rw [lt_mul_zpow_iff] at h
  unfold mantissaAt
  split
  · rename_i hexponent
    rw [if_pos hexponent] at h
    exact roundHalfEven_le (by rwa [Nat.mul_right_comm])
  · rename_i hexponent
    rw [if_neg hexponent] at h
    exact roundHalfEven_le h

/-- The exponent that is guessed from the numbers of bits is never too small. -/
theorem lt_guess (num : Nat) {den : Nat} (hden : den ≠ 0) :
    (num : ℚ) < (den * 2 ^ 53 : ℕ) * 2 ^ ((num.log2 : ℤ) - den.log2 - 52) := by
  have hnum : (num : ℚ) < 2 ^ (num.log2 + 1) := by exact_mod_cast Nat.lt_log2_self
  have hpow : (2 : ℚ) ^ den.log2 ≤ den := by exact_mod_cast Nat.log2_self_le hden
  calc (num : ℚ) < 2 ^ (num.log2 + 1) := hnum
    _ = 2 ^ ((den.log2 : ℤ) + 53 + ((num.log2 : ℤ) - den.log2 - 52)) := by
      rw [← zpow_natCast]
      congr 1
      push_cast
      omega
    _ = 2 ^ den.log2 * 2 ^ 53 * 2 ^ ((num.log2 : ℤ) - den.log2 - 52) := by
      rw [zpow_add₀ two_ne_zero, zpow_add₀ two_ne_zero, zpow_natCast]
      rfl
    _ ≤ den * 2 ^ 53 * 2 ^ ((num.log2 : ℤ) - den.log2 - 52) := by gcongr
    _ = (den * 2 ^ 53 : ℕ) * 2 ^ ((num.log2 : ℤ) - den.log2 - 52) := by push_cast; rfl

/-- If the guess gives a mantissa that is too short, it can be smaller by one. -/
theorem lt_guess_sub_one {num den : Nat} {guess : Int}
    (h : ¬ if 0 ≤ guess then den * Nat.pow 2 (52 + guess.toNat) ≤ num
      else den * Nat.pow 2 52 ≤ num * Nat.pow 2 (-guess).toNat) :
    (num : ℚ) < (den * 2 ^ 53 : ℕ) * 2 ^ (guess - 1) := by
  have hshort : (num : ℚ) < (den * 2 ^ 52 : ℕ) * 2 ^ guess := by
    rw [lt_mul_zpow_iff]
    split at h
    · rename_i hguess
      rw [if_pos hguess, Nat.mul_assoc, ← Nat.pow_add]
      exact Nat.not_le.1 h
    · rename_i hguess
      rw [if_neg hguess]
      exact Nat.not_le.1 h
  calc (num : ℚ) < (den * 2 ^ 52 : ℕ) * 2 ^ guess := hshort
    _ = (den * 2 ^ 53 : ℕ) * 2 ^ (guess - 1) := by
      rw [zpow_sub_one₀ two_ne_zero]
      push_cast
      ring

theorem isBinary64_ofRatio (num : Nat) {den : Nat} (hden : 0 < den) :
    (ofRatio num den).IsBinary64 := by
  unfold ofRatio
  split
  · exact ⟨by decide, by decide⟩
  extract_lets guess fits exponent mantissa
  have hbase : (num : ℚ) < (den * 2 ^ 53 : ℕ) * 2 ^ (if fits then guess else guess - 1) := by
    split
    · exact lt_guess num hden.ne'
    · rename_i hshort
      exact lt_guess_sub_one hshort
  have hexponent : (num : ℚ) < (den * 2 ^ 53 : ℕ) * 2 ^ exponent :=
    hbase.trans_le (by
      gcongr
      · exact one_le_two
      · exact le_max_right _ _)
  have hmantissa : mantissa ≤ 2 ^ 53 := mantissaAt_le hexponent
  by_cases hcarry : mantissa = Nat.pow 2 53
  · simp only [if_pos hcarry]
    split
    · trivial
    · exact ⟨by decide, by omega⟩
  · simp only [if_neg hcarry]
    split
    · trivial
    · exact ⟨lt_of_le_of_ne hmantissa hcarry, by omega⟩

theorem isBinary64_ofDecimal (significand digits : Nat) (scale : Int) :
    (ofDecimal significand digits scale).IsBinary64 := by
  unfold ofDecimal
  split
  · exact ⟨by decide, by decide⟩
  split
  · trivial
  split
  · exact ⟨by decide, by decide⟩
  split
  · exact isBinary64_ofRatio _ Nat.one_pos
  · exact isBinary64_ofRatio _ (Nat.pow_pos (by decide))

end Magnitude

/-- The pattern of bits stands for no number: the exponent is the largest one, and the mantissa is
not zero. -/
def IsNaN (bits : Nat) : Prop :=
  0x7ff * 2 ^ 52 < bits % 2 ^ 63

theorem Number.isBinary64_readDecimal? {unsigned : List Char} {m : Magnitude}
    (h : readDecimal? unsigned = some m) : m.IsBinary64 := by
  simp only [readDecimal?] at h
  split at h
  · cases h
  · obtain ⟨exponent, _, rfl⟩ := Option.map_eq_some_iff.1 h
    exact Magnitude.isBinary64_ofDecimal _ _ _

theorem Number.isBinary64_ofWord? {w : List Char} {n : Number} (h : ofWord? w = some n) :
    n.magnitude.IsBinary64 := by
  unfold ofWord? at h
  split at h
  · rename_i hlooks
    simp only [ofFloat?, Option.map_eq_some_iff] at h
    obtain ⟨m, hm, rfl⟩ := h
    have hspecial : readSpecial? (splitSign w).2 = none := by
      rw [← Option.not_isSome_iff_eq_none, Numeral.isSome_readSpecial?_iff]
      intro hmem
      rw [looksNumeric, Numeral.startsNumeric_of_special hmem] at hlooks
      cases hlooks
    rw [hspecial, Option.none_or] at hm
    exact isBinary64_readDecimal? hm
  · cases h

theorem Number.not_isNaN {n : Number} (h : n.magnitude.IsBinary64) : ¬ IsNaN n.bits := by
  have hmagnitude := Magnitude.bits_le h
  have hinfinite : Magnitude.infinite.bits = 0x7ff * 2 ^ 52 := rfl
  have hsign : Nat.pow 2 63 = 2 ^ 63 := rfl
  unfold IsNaN bits
  rw [hinfinite] at hmagnitude
  split <;> omega

/-! ## Main statement -/

namespace Value

variable {w : String}

theorem ofWord_eq_number_iff {n : Number} :
    ofWord w = .number n ↔ Number.ofWord? w.toList = some n := by
  unfold ofWord
  split
  · rename_i hyes
    subst hyes
    exact iff_of_false nofun nofun
  split
  · rename_i hno
    subst hno
    exact iff_of_false nofun nofun
  cases Number.ofWord? w.toList <;> simp

theorem ofWord_eq_flag_iff {b : Bool} : ofWord w = .flag b ↔ w = if b then "yes" else "no" := by
  unfold ofWord
  split
  · rename_i hyes
    subst hyes
    cases b <;> simp
  split
  · rename_i hno
    subst hno
    cases b <;> simp
  · cases b <;> cases Number.ofWord? w.toList <;> simp [*]

/-- Of all words `yes` and `no` are read as flags, the literals as numbers, none of which is NaN,
and all others as the texts that they are. The literals are just the floating point numbers that
begin like numbers. -/
theorem ofWord_literals (w : String) :
    (∀ b, ofWord w = .flag b ↔ w = if b then "yes" else "no") ∧
    ((∃ n, ofWord w = .number n) ↔ w.toList ∈ Numeral.literal.matches') ∧
    (w ≠ "yes" → w ≠ "no" → w.toList ∉ Numeral.literal.matches' → ofWord w = .text w) ∧
    (∀ n, ofWord w = .number n → ¬ IsNaN n.bits) ∧
    (w.toList ∈ Numeral.literal.matches' ↔
      looksNumeric w.toList = true ∧ w.toList ∈ Numeral.float.matches') ∧
    ((Number.ofFloat? w.toList).isSome ↔ w.toList ∈ Numeral.float.matches') := by
  have hliteral := Numeral.isSome_ofWord?_iff w.toList
  refine ⟨fun b => ofWord_eq_flag_iff, ?_, ?_, ?_, Numeral.mem_literal_iff_looksNumeric w.toList,
    Numeral.isSome_ofFloat?_iff w.toList⟩
  · simp only [← hliteral, ofWord_eq_number_iff, Option.isSome_iff_exists]
  · intro hyes hno hword
    rw [← hliteral, Option.not_isSome_iff_eq_none] at hword
    simp only [ofWord, if_neg hyes, if_neg hno, hword]
  · intro n hn
    exact Number.not_isNaN (Number.isBinary64_ofWord? (ofWord_eq_number_iff.1 hn))

/-- An infinity can be spelled out, but it is no literal. -/
theorem ofWord_literals_infinity :
    "-Inf".toList ∈ Numeral.float.matches' ∧ ofWord "-Inf" = .text "-Inf" := by
  have hfloat : "-Inf".toList ∈ Numeral.float.matches' := by
    rw [← rmatch_iff_matches']
    decide +kernel
  have hword : "-Inf".toList ∉ Numeral.literal.matches' := by
    rw [← rmatch_iff_matches']
    decide +kernel
  exact ⟨hfloat, (ofWord_literals "-Inf").2.2.1 (by decide) (by decide) hword⟩

end Value

end LookML
