import LookML.Proofs.Document.Completeness
import LookML.Proofs.Document.Soundness
import LookML.Proofs.Document.Unambiguity
/-!
# The parser is the grammar

A file's tokens are parsed if and only if they are the items of the grammar, nested no deeper than
allowed. There is one way only to derive them, and the document is what its trees mean: each item
in its place, once, as a property or as a named block.
-/

namespace LookML.Document

open Grammar (Span itemTokens itemNesting)

theorem takeWhile_of_current {ts rest : List Token} (hts : ∀ t ∈ ts, t.kind ≠ .endOfInput)
    (hrest : (current rest).kind = .endOfInput) :
    (ts ++ rest).takeWhile (·.kind ≠ .endOfInput) = ts := by
  have hnone : rest.takeWhile (·.kind ≠ .endOfInput) = [] := by
    cases rest with
    | nil => rfl
    | cons t rest => exact List.takeWhile_cons_of_neg (by simpa [current] using hrest)
  rw [List.takeWhile_append_of_pos (by simpa using hts), hnone, List.append_nil]

theorem ofTokens_iff_derivation (path : String) {ts : List Token} {eof : Token}
    (hts : ∀ t ∈ ts, t.kind ≠ .endOfInput) (heof : eof.kind = .endOfInput) :
    (∀ d, ofTokens path (ts ++ [eof]) = .ok d ↔
      ∃ is, itemTokens is = ts ∧ itemNesting is ≤ maxNesting ∧ Grammar.document path is = d) ∧
      ∀ is is', itemTokens is = ts → itemTokens is' = ts → is = is' := by
  have hword : ∀ key, Grammar.NotNext (.word key) [eof] := by
    simp [Grammar.NotNext, heof]
  have hbrace : Grammar.NotNext .leftBrace [eof] := by
    simp [Grammar.NotNext, heof]
  refine ⟨fun d => ⟨?_, ?_⟩, ?_⟩
  · intro h
    obtain ⟨all, rest, hitems, hend, rfl⟩ := ofTokens_eq_ok.1 h
    obtain ⟨is, htokens, hnesting, rfl⟩ :=
      itemsSpelled path _ 0 _ rest all (Nat.lt_succ_self _) (Nat.zero_le _) hitems
    refine ⟨is, ?_, by rwa [Nat.zero_add] at hnesting, ?_⟩
    · rw [← takeWhile_of_current (Grammar.kind_ne_of_mem_itemTokens is) hend, ← htokens]
      exact takeWhile_of_current hts heof
    · rw [Grammar.document, Grammar.readAll_eq_map]
  · rintro ⟨is, rfl, hnesting, rfl⟩
    have hread : readItems path 0 (itemTokens is ++ [eof]) = .ok (Grammar.readAll path is, [eof]) :=
      readItems_tokens 0 [eof] hword hbrace is (by rwa [Nat.zero_add])
    refine ofTokens_eq_ok.2 ⟨_, _, hread, heof, ?_⟩
    rw [Grammar.document, Grammar.readAll_eq_map]
  · intro is is' h h'
    exact (Grammar.eq_of_itemTokens hword hword hbrace hbrace is is' (by rw [h, h'])).1

def taggedView : List Grammar.Item :=
  let s : Span := ⟨.start, .start⟩
  [.named "view" s s (.word "v" s) (.mk s
    [.list "tags" s s (.mk s (.scalar (.quoted "a" s))
      (.cons s (.pair (.word "b" s) s (.word "1" s)) (.comma s)) s)] s)]

theorem ofTokens_taggedView :
    ofTokens "f" (itemTokens taggedView ++ [⟨.endOfInput, .start, .start⟩]) =
      .ok (Grammar.document "f" taggedView) :=
  ((ofTokens_iff_derivation "f" (by decide) rfl).1 _).2 ⟨taggedView, rfl, by decide, rfl⟩

end LookML.Document
