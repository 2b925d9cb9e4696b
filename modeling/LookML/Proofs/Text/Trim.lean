import LookML.Text.Blank
import Mathlib.Data.List.TakeWhile
/-!
# Trimming

Where a run of characters ends, and what trimming does to a text that is put together from parts.
-/

namespace LookML.Text

/-! ## Runs of characters -/

section Runs

variable {α : Type} {p : α → Bool} {run rest : List α}

theorem takeWhile_of_boundary (hrun : ∀ c ∈ run, p c)
    (hrest : ∀ c, rest.head? = some c → p c = false) : (run ++ rest).takeWhile p = run := by
  have hnone : rest.takeWhile p = [] := by
    cases rest with
    | nil => rfl
    | cons c rest => exact List.takeWhile_cons_of_neg (by simp [hrest c rfl])
  rw [List.takeWhile_append_of_pos hrun, hnone, List.append_nil]

theorem dropWhile_of_boundary (hrun : ∀ c ∈ run, p c)
    (hrest : ∀ c, rest.head? = some c → p c = false) : (run ++ rest).dropWhile p = rest := by
  rw [List.dropWhile_append_of_pos hrun]
  cases rest with
  | nil => rfl
  | cons c rest => exact List.dropWhile_cons_of_neg (by simp [hrest c rfl])

end Runs

/-! ## Trimming -/

variable {blanks cs : List Char}

theorem head?_trimStart {c : Char} (h : (trimStart cs).head? = some c) : isBlank c = false := by
  have hnot := List.head?_dropWhile_not isBlank cs
  rw [trimStart] at h
  rwa [h] at hnot

theorem trimStart_blank_append (hblanks : ∀ c ∈ blanks, isBlank c) :
    trimStart (blanks ++ cs) = trimStart cs :=
  List.dropWhile_append_of_pos hblanks

theorem trimEnd_append_blank (hblanks : ∀ c ∈ blanks, isBlank c) :
    trimEnd (cs ++ blanks) = trimEnd cs := by
  unfold trimEnd
  rw [List.reverse_append, List.dropWhile_append_of_pos (by simpa using hblanks)]

theorem trim_append_blank (hblanks : ∀ c ∈ blanks, isBlank c) : trim (cs ++ blanks) = trim cs := by
  unfold trim
  by_cases hempty : trimStart cs = []
  · have hall : trimStart (cs ++ blanks) = [] := by
      have hcs : ∀ c ∈ cs, isBlank c := List.dropWhile_eq_nil_iff.1 hempty
      rw [trimStart_blank_append hcs]
      exact List.dropWhile_eq_nil_iff.2 hblanks
    rw [hempty, hall]
  · have hkept : trimStart (cs ++ blanks) = trimStart cs ++ blanks := by
      unfold trimStart
      rw [List.dropWhile_append, if_neg (by simpa [trimStart] using hempty)]
    rw [hkept, trimEnd_append_blank hblanks]

theorem trimStart_suffix (cs : List Char) : trimStart cs <:+ cs :=
  List.dropWhile_suffix isBlank

theorem exists_blanks_trim (cs : List Char) :
    ∃ left right, (∀ c ∈ left, isBlank c) ∧ (∀ c ∈ right, isBlank c) ∧
      cs = left ++ trim cs ++ right := by
  refine ⟨cs.takeWhile isBlank, ((trimStart cs).reverse.takeWhile isBlank).reverse, ?_, ?_, ?_⟩
  · exact fun c hc => List.mem_takeWhile_imp hc
  · exact fun c hc => List.mem_takeWhile_imp (List.mem_reverse.1 hc)
  · rw [List.append_assoc, trim, trimEnd, ← List.reverse_append, List.takeWhile_append_dropWhile,
      List.reverse_reverse, trimStart, List.takeWhile_append_dropWhile]

theorem trim_of_blanks {left right : List Char} (hleft : ∀ c ∈ left, isBlank c)
    (hright : ∀ c ∈ right, isBlank c) (hcs : ∀ c ∈ cs, isBlank c = false) :
    trim (left ++ cs ++ right) = cs := by
  have hnone : ∀ l : List Char, (∀ c ∈ l, isBlank c = false) → l.dropWhile isBlank = l := by
    intro l hl
    cases l with
    | nil => rfl
    | cons c l => exact List.dropWhile_cons_of_neg (by simp [hl c (.head _)])
  rw [trim_append_blank hright, trim, trimStart_blank_append hleft, trimStart, hnone cs hcs,
    trimEnd, hnone cs.reverse fun c hc => hcs c (List.mem_reverse.1 hc), List.reverse_reverse]

end LookML.Text
