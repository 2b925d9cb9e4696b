import LookML.Proofs.Sorting
import LookML.Violation.Order
/-!
# Violations in one order

The order of violations is total, and violations that compare equal are equal. So a report depends
on which violations there are and not on the order in which they were found.
-/

namespace LookML

open Std

namespace Location

theorem order_eq_compareLex : order =
    compareLex (compareOn path) (compareLex (compareOn line) (compareLex (compareOn column)
      (compareLex (compareOn endLine) (compareOn endColumn)))) := rfl

instance : TransCmp order := by
  rw [order_eq_compareLex]
  infer_instance

instance : LawfulEqCmp order where
  compare_self := by
    intro l
    simp [order]
  eq_of_compare := by
    intro a b h
    simp only [order, Ordering.then_eq_eq, LawfulEqOrd.compare_eq_iff_eq] at h
    obtain ⟨hpath, hline, hcolumn, hendLine, hendColumn⟩ := h
    cases a
    cases b
    simp_all

end Location

namespace Severity

theorem rank_injective : Function.Injective rank := by
  intro a b h
  cases a <;> cases b <;> first | rfl | cases h

end Severity

namespace Origin

theorem rank_injective : Function.Injective rank := by
  intro a b h
  cases a <;> cases b <;> first | rfl | cases h

end Origin

namespace Identifier

theorem text_injective : Function.Injective text := by
  rintro ⟨a, _⟩ ⟨b, _⟩ h
  cases h
  rfl

end Identifier

namespace Violation

variable (paths : List String)

theorem order_eq_compareLex : order paths =
    compareLex (compareOn fun v => pathRank paths v.path) (compareLex (compareOn path)
      (compareLex (compareOn line) (compareLex (compareOn fun v => v.rule.text)
      (compareLex (compareOn column) (compareLex (compareOn entity)
      (compareLex (compareOn message) (compareLex (compareOn fun v => v.severity.rank)
      (compareLex (compareOn fun v => v.origin.rank)
        fun a b => List.compareLex Location.order a.related b.related)))))))) := rfl

instance : TransCmp (order paths) := by
  have hlocations : TransCmp (List.compareLex Location.order) := inferInstance
  have hrelated := transCmp_on hlocations related
  rw [order_eq_compareLex]
  infer_instance

theorem eq_of_order_eq {a b : Violation} (h : order paths a b = .eq) : a = b := by
  simp only [order, Ordering.then_eq_eq, LawfulEqOrd.compare_eq_iff_eq] at h
  obtain ⟨_, hpath, hline, hrule, hcolumn, hentity, hmessage, hseverity, horigin, hrelated⟩ := h
  have hrule' := Identifier.text_injective hrule
  have hseverity' := Severity.rank_injective hseverity
  have horigin' := Origin.rank_injective horigin
  have hrelated' : a.related = b.related := LawfulEqCmp.eq_of_compare hrelated
  cases a
  cases b
  simp_all

/-! ## Sorting -/

theorem pairwise_sort (violations : List Violation) :
    (sort paths violations).Pairwise fun a b => (order paths a b).isLE :=
  pairwise_mergeSort_isLE violations

theorem sort_eq_of_perm {violations violations' : List Violation}
    (h : violations.Perm violations') : sort paths violations = sort paths violations' := by
  simpa [sort] using map_mergeSort_eq_of_perm (fun _ _ => eq_of_order_eq paths) id (h.map id)

theorem sort_sort_append (paths' : List String) (violations more : List Violation) :
    sort paths (sort paths' violations ++ more) = sort paths (violations ++ more) :=
  sort_eq_of_perm paths ((sort_perm paths' violations).append_right more)

end Violation

end LookML
