import LookML.Proofs.Document.Completeness
import LookML.Proofs.Document.Soundness
import LookML.Proofs.Document.Unambiguity
/-!
# One token ahead

Of the tokens that a parser leaves, it has looked at the first one at most. So it reads the same
tokens as the same thing wherever the next token is the same. A block or a list ends in its own
brace or bracket, and what follows does not matter at all.
-/

namespace LookML.Document

open Grammar (Span Scalar NotNext)

variable {path : String} {depth : Nat}

theorem notNext_congr {kind : TokenKind} {rest rest' : List Token} (h : rest'.head? = rest.head?)
    (hrest : NotNext kind rest) : NotNext kind rest' := by
  rwa [NotNext, h]

/-! ## Lists -/

theorem exists_read_of_readList {bracket : Position} {ts rest : List Token} {v : Value}
    {stop : Position} (h : readList path depth bracket ts = .ok (v, stop, rest)) :
    ∃ read, ts = read ++ rest ∧
      ∀ rest', readList path depth bracket (read ++ rest') = .ok (v, stop, rest') := by
  let opened : Span := ⟨bracket, bracket⟩
  obtain ⟨l, htokens, hnesting, rfl, rfl⟩ : ∃ l : Grammar.Bracketed,
      opened.token .leftBracket :: ts = l.tokens ++ rest ∧ depth + l.nesting ≤ maxNesting ∧
        l.value = v ∧ l.stop = stop :=
    exists_of_readList (listsSpelled path _) (Nat.lt_succ_self _) h
  obtain ⟨bracket', read, hl⟩ := l.exists_tokens
  rw [hl, List.cons_append, List.cons.injEq, Grammar.Span.token_inj] at htokens
  obtain ⟨⟨rfl, _⟩, rfl⟩ := htokens
  refine ⟨read, rfl, ?_⟩
  intro rest'
  obtain ⟨bracket', read', hl', hread⟩ := readList_tokens depth rest' l hnesting
  rw [hl, List.cons.injEq, Grammar.Span.token_inj] at hl'
  obtain ⟨⟨rfl, _⟩, rfl⟩ := hl'
  exact hread

theorem exists_read_of_readElement {ts rest : List Token} {v : Value} {stop : Position}
    (h : readElement path depth ts = .ok (v, stop, rest)) :
    ∃ read, ts = read ++ rest ∧ ∀ rest', rest'.head? = rest.head? →
      readElement path depth (read ++ rest') = .ok (v, stop, rest') := by
  cases readElement_eq_ok.1 h with
  | list bracket h =>
    obtain ⟨read, rfl, hread⟩ := exists_read_of_readList h
    exact ⟨_ :: read, rfl, fun rest' _ => readElement_of_list (hread rest')⟩
  | listPair key colon bracket h =>
    obtain ⟨read, rfl, hread⟩ := exists_read_of_readList h
    exact ⟨_ :: _ :: _ :: read, rfl, fun rest' _ => readElement_of_listPair (hread rest')⟩
  | pair key colon s => exact ⟨[_, _, _], rfl, fun rest' _ => readElement_of_pair⟩
  | scalar s hrest =>
    exact ⟨[s.token], rfl, fun rest' hhead => readElement_of_scalar (notNext_congr hhead hrest)⟩

/-! ## Blocks -/

theorem exists_read_of_readBlock {keyword : String} {name : Option String}
    {start brace : Position} {ts rest : List Token} {b : Block}
    (h : readBlock path depth keyword name start brace ts = .ok (b, rest)) :
    ∃ read, ts = read ++ rest ∧
      ∀ rest', readBlock path depth keyword name start brace (read ++ rest') = .ok (b, rest') := by
  let opened : Span := ⟨brace, brace⟩
  obtain ⟨body, htokens, hnesting, rfl⟩ : ∃ body : Grammar.Body,
      opened.token .leftBrace :: ts = body.tokens ++ rest ∧
        depth + body.nesting ≤ maxNesting ∧ body.block path keyword name start = b :=
    exists_of_readBlock (itemsSpelled path _) (Nat.lt_succ_self _) h
  obtain ⟨brace', read, hbody⟩ : ∃ brace' read,
      body.tokens = Span.token brace' .leftBrace :: read := by
    cases body
    exact ⟨_, _, rfl⟩
  rw [hbody, List.cons_append, List.cons.injEq, Grammar.Span.token_inj] at htokens
  obtain ⟨⟨rfl, _⟩, rfl⟩ := htokens
  refine ⟨read, rfl, ?_⟩
  intro rest'
  obtain ⟨brace', read', hbody', hread⟩ := readBlock_tokens depth rest' body hnesting
  rw [hbody, List.cons.injEq, Grammar.Span.token_inj] at hbody'
  obtain ⟨⟨rfl, _⟩, rfl⟩ := hbody'
  exact hread keyword name start

theorem exists_read_of_readItem {key : String} {start : Position} {ts rest : List Token} {i : Item}
    (h : readItem path depth key start ts = .ok (i, rest)) :
    ∃ read, ts = read ++ rest ∧ ∀ rest', rest'.head? = rest.head? →
      readItem path depth key start (read ++ rest') = .ok (i, rest') := by
  cases readItem_eq_ok.1 h with
  | anonymous colon brace h =>
    obtain ⟨read, rfl, hread⟩ := exists_read_of_readBlock h
    exact ⟨_ :: _ :: read, rfl, fun rest' _ =>
      readItem_eq_ok.2 (.anonymous colon brace (hread rest'))⟩
  | list colon bracket h =>
    obtain ⟨read, rfl, hread⟩ := exists_read_of_readList h
    exact ⟨_ :: _ :: read, rfl, fun rest' _ =>
      readItem_eq_ok.2 (.list colon bracket (hread rest'))⟩
  | expression colon text span =>
    exact ⟨[_, _], rfl, fun rest' _ => readItem_eq_ok.2 (.expression colon text span)⟩
  | named colon name brace h =>
    obtain ⟨read, rfl, hread⟩ := exists_read_of_readBlock h
    exact ⟨_ :: _ :: _ :: read, rfl, fun rest' _ =>
      readItem_eq_ok.2 (.named colon name brace (hread rest'))⟩
  | scalar colon s hrest =>
    exact ⟨[_, _], rfl, fun rest' hhead =>
      readItem_eq_ok.2 (.scalar colon s (notNext_congr hhead hrest))⟩

theorem exists_read_of_readItems {ts rest : List Token} {all : List Item}
    (h : readItems path depth ts = .ok (all, rest)) :
    ∃ read, ts = read ++ rest ∧ ∀ rest', rest'.head? = rest.head? →
      readItems path depth (read ++ rest') = .ok (all, rest') := by
  induction all generalizing ts with
  | nil =>
    cases readItems_eq_ok.1 h with
    | nil hword =>
      exact ⟨[], rfl, fun rest' hhead =>
        readItems_eq_ok.2 (.nil fun key => notNext_congr hhead (hword key))⟩
  | cons i others ih =>
    cases readItems_eq_ok.1 h with
    | cons key word hitem hrest =>
      obtain ⟨first, rfl, hfirst⟩ := exists_read_of_readItem hitem
      obtain ⟨read, rfl, hothers⟩ := ih hrest
      refine ⟨word.token (.word key) :: (first ++ read), ?_, ?_⟩
      · rw [List.cons_append, List.append_assoc]
      intro rest' hhead
      have hnext : (read ++ rest').head? = (read ++ rest).head? := by
        rw [List.head?_append, List.head?_append, hhead]
      have hitem := hfirst _ hnext
      rw [List.cons_append, List.append_assoc]
      exact readItems_eq_ok.2 (.cons key word hitem (hothers rest' hhead))

end LookML.Document
