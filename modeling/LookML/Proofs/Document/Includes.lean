import LookML.Proofs.Document.Completeness
import LookML.Proofs.Document.Soundness
/-!
# What a file includes

The path of a file stands in the locations of what is read from it and in errors. What the file
includes depends on its text alone.
-/

namespace LookML

namespace Token

/-- The name of a file decides nothing but what its errors say. -/
theorem scanFrom_of_path {path : String} (path' : String) {before : Option String}
    {p : Position} {text : List Char} {ts : List Token}
    (h : scanFrom path before p text = .ok ts) : scanFrom path' before p text = .ok ts := by
  fun_induction scanFrom path before p text generalizing ts with
  | case1 =>
    rw [scanFrom.eq_def]
    exact h
  | case5 | case7 => cases h
  | case2 before p c cs hblank ih =>
    rw [scanFrom.eq_def]
    dsimp only
    rw [if_pos hblank, ih h]
  | case3 before p cs hblank ih =>
    rw [scanFrom.eq_def]
    dsimp only
    rw [if_neg hblank, if_pos rfl, ih h]
  | case4 before p cs hkey hblank hcomment =>
    rename_i ih
    obtain ⟨rest, hrest, rfl⟩ := map_eq_ok.1 h
    rw [scanFrom.eq_def]
    dsimp only
    rw [if_neg hblank, if_neg hcomment, if_pos rfl, hkey]
    exact map_eq_ok.2 ⟨_, ih hrest, rfl⟩
  | case6 before p cs key hkey body rest hsplit hblank hcomment =>
    rename_i ih
    obtain ⟨rest, hrest, rfl⟩ := map_eq_ok.1 h
    rw [scanFrom.eq_def]
    dsimp only
    rw [if_neg hblank, if_neg hcomment, if_pos rfl, hkey]
    dsimp only
    split
    · simp_all
    · rename_i hsome
      cases hsplit.symm.trans hsome
      exact map_eq_ok.2 ⟨_, ih hrest, rfl⟩
  | case8 before p cs body raw rest hsplit hblank hcomment hcolon =>
    rename_i ih
    obtain ⟨rest, hrest, rfl⟩ := map_eq_ok.1 h
    rw [scanFrom.eq_def]
    dsimp only
    rw [if_neg hblank, if_neg hcomment, if_neg hcolon, if_pos rfl]
    split
    · simp_all
    · rename_i hsome
      cases hsplit.symm.trans hsome
      exact map_eq_ok.2 ⟨_, ih hrest, rfl⟩
  | case9 before p c cs hblank hcomment hcolon hquote kind hkind ih =>
    obtain ⟨rest, hrest, rfl⟩ := map_eq_ok.1 h
    rw [scanFrom.eq_def]
    dsimp only
    rw [if_neg hblank, if_neg hcomment, if_neg hcolon, if_neg hquote, hkind]
    exact map_eq_ok.2 ⟨_, ih hrest, rfl⟩
  | case10 before p c cs hblank hcomment hcolon hquote hkind =>
    rename_i ih
    obtain ⟨rest, hrest, rfl⟩ := map_eq_ok.1 h
    rw [scanFrom.eq_def]
    dsimp only
    rw [if_neg hblank, if_neg hcomment, if_neg hcolon, if_neg hquote, hkind]
    exact map_eq_ok.2 ⟨_, ih hrest, rfl⟩

end Token

namespace Grammar

/-- What an item includes. Neither a block nor a value in braces is a pattern. -/
def Item.includes : Item → List String
  | .list key _ _ l => if key = "include" then l.value.texts else []
  | .expression key _ _ text _ => if key = "include" then [text] else []
  | .scalar key _ _ value => if key = "include" then value.value.texts else []
  | .anonymous .. | .named .. => []

theorem includes_document (path : String) (is : List Item) :
    (document path is).includes = is.flatMap Item.includes := by
  induction is with
  | nil => rfl
  | cons i is ih =>
    rw [List.flatMap_cons, ← ih]
    cases i with
    | named key word colon name body => rfl
    | anonymous key word colon body | list key word colon l
    | expression key word colon text span | scalar key word colon value =>
      by_cases hkey : key = "include" <;>
        simp [Document.includes, document, Property.occurrences, Item.read, Item.includes, hkey,
          Document.Item.property?, Property.name, Property.value, Value.texts]

end Grammar

namespace Document

theorem exists_of_ofTokens {path : String} {ts : List Token} {d : Document} (path' : String)
    (h : ofTokens path ts = .ok d) :
    ∃ d', ofTokens path' ts = .ok d' ∧ d'.includes = d.includes := by
  obtain ⟨all, rest, hitems, hend, -⟩ := ofTokens_eq_ok.1 h
  obtain ⟨is, rfl, hnesting, rfl⟩ :=
    itemsSpelled path _ 0 ts rest all (Nat.lt_succ_self _) (Nat.zero_le _) hitems
  rw [Nat.zero_add] at hnesting
  have hd := h.symm.trans (ofTokens_of_items hend hnesting)
  refine ⟨Grammar.document path' is, ofTokens_of_items hend hnesting, ?_⟩
  rw [Except.ok.inj hd, Grammar.includes_document, Grammar.includes_document]

theorem exists_of_parse {path text : String} {d : Document} (path' : String)
    (h : parse path text = .ok d) : ∃ d', parse path' text = .ok d' ∧ d'.includes = d.includes := by
  obtain ⟨ts, hts, hd⟩ := bind_eq_ok.1 h
  obtain ⟨d', hd', hincludes⟩ := exists_of_ofTokens path' hd
  exact ⟨d', bind_eq_ok.2 ⟨ts, Token.scanFrom_of_path path' hts, hd'⟩, hincludes⟩

end Document

end LookML
