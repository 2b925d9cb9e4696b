import LookML.Proofs.Document.Grammar
/-!
# The grammar is unambiguous

Two syntax trees that spell the same tokens are the same tree. For the parts of a tree this holds
whatever follows them, as long as it is nothing that they could have taken.
-/

namespace LookML.Grammar

@[simp] theorem Span.token_inj {s s' : Span} {k k' : TokenKind} :
    s.token k = s'.token k' ↔ s = s' ∧ k = k' := by
  obtain ⟨p, q⟩ := s
  obtain ⟨p', q'⟩ := s'
  simp only [Span.token, Token.mk.injEq, Span.mk.injEq]
  exact and_comm

@[simp] theorem Scalar.token_inj {s s' : Scalar} : s.token = s'.token ↔ s = s' := by
  cases s <;> cases s' <;> simp [Scalar.token, and_comm]

@[simp] theorem Scalar.token_ne {s : Scalar} {c : Span} {k : TokenKind}
    (hword : ∀ text, k ≠ .word text) (hquoted : ∀ text, k ≠ .quoted text) :
    s.token ≠ c.token k := by
  intro h
  have hkind : s.token.kind = k := congrArg Token.kind h
  rcases s.kind_token with htext | htext
  · exact hword _ (hkind.symm.trans htext)
  · exact hquoted _ (hkind.symm.trans htext)

@[simp] theorem Scalar.ne_token {s : Scalar} {c : Span} {k : TokenKind}
    (hword : ∀ text, k ≠ .word text) (hquoted : ∀ text, k ≠ .quoted text) :
    c.token k ≠ s.token :=
  (Scalar.token_ne hword hquoted).symm

theorem notNext_close {c : Span} {ts : List Token} :
    (∀ key, NotNext (.word key) (c.token .rightBrace :: ts)) ∧
      NotNext .leftBrace (c.token .rightBrace :: ts) := by
  simp [NotNext, Span.token]

theorem not_notNext {c : Span} {k : TokenKind} {ts : List Token} :
    ¬ NotNext k (c.token k :: ts) :=
  fun h => h _ rfl rfl

theorem Bracketed.exists_tokens (l : Bracketed) :
    ∃ bracket inner, l.tokens = Span.token bracket .leftBracket :: inner := by
  cases l with
  | empty bracket close => exact ⟨bracket, _, rfl⟩
  | mk bracket first others close => exact ⟨bracket, _, rfl⟩

theorem Item.exists_tokens (i : Item) :
    ∃ key word after, i.tokens = Span.token word (.word key) :: after := by
  cases i with
  | anonymous key word colon body => exact ⟨key, word, _, rfl⟩
  | list key word colon l => exact ⟨key, word, _, rfl⟩
  | expression key word colon text span => exact ⟨key, word, _, rfl⟩
  | named key word colon name body => exact ⟨key, word, _, rfl⟩
  | scalar key word colon value => exact ⟨key, word, _, rfl⟩

theorem Element.notNext_rightBracket (e : Element) (rest : List Token) :
    NotNext .rightBracket (e.tokens ++ rest) := by
  have hscalar : ∀ (s : Scalar) (after : List Token), NotNext .rightBracket (s.token :: after) := by
    intro s after
    rcases s.kind_token with hkind | hkind <;> simp [NotNext, hkind]
  cases e with
  | list l =>
    obtain ⟨bracket, inner, htokens⟩ := l.exists_tokens
    simp [Element.tokens, htokens, NotNext, Span.token]
  | listPair key colon l => exact hscalar key _
  | pair key colon s => exact hscalar key _
  | scalar s => exact hscalar s _

/-! ## Lists

Two elements of different productions differ in one of their first two tokens, unless one of them
is followed by what the other goes on with.
-/

mutual

theorem Element.eq_of_tokens {rest rest' : List Token} (hrest : NotNext .colon rest)
    (hrest' : NotNext .colon rest') :
    (e e' : Element) → e.tokens ++ rest = e'.tokens ++ rest' → e = e' ∧ rest = rest'
  | .list l, e', h => by
    obtain ⟨bracket, inner, htokens⟩ := l.exists_tokens
    cases e' with
    | list l' =>
      obtain ⟨rfl, hsame⟩ := Bracketed.eq_of_tokens l l' h
      exact ⟨rfl, hsame⟩
    | _ => simp [Element.tokens, htokens] at h
  | .listPair key colon l, e', h => by
    obtain ⟨bracket, inner, htokens⟩ := l.exists_tokens
    cases e' with
    | list l' =>
      obtain ⟨bracket', inner', htokens'⟩ := l'.exists_tokens
      simp [Element.tokens, htokens'] at h
    | listPair key' colon' l' =>
      simp only [Element.tokens, List.cons_append, List.cons.injEq, Scalar.token_inj,
        Span.token_inj, and_true] at h
      obtain ⟨rfl, rfl, h⟩ := h
      obtain ⟨rfl, hsame⟩ := Bracketed.eq_of_tokens l l' h
      exact ⟨rfl, hsame⟩
    | pair key' colon' s => simp [Element.tokens, htokens] at h
    | scalar s =>
      simp [Element.tokens] at h
      exact absurd (h.2 ▸ hrest') not_notNext
  | .pair key colon s, e', h => by
    cases e' with
    | list l' =>
      obtain ⟨bracket', inner', htokens'⟩ := l'.exists_tokens
      simp [Element.tokens, htokens'] at h
    | listPair key' colon' l' =>
      obtain ⟨bracket', inner', htokens'⟩ := l'.exists_tokens
      simp [Element.tokens, htokens'] at h
    | pair key' colon' s' => simpa [Element.tokens, and_assoc] using h
    | scalar s' =>
      simp [Element.tokens] at h
      exact absurd (h.2 ▸ hrest') not_notNext
  | .scalar s, e', h => by
    cases e' with
    | list l' =>
      obtain ⟨bracket', inner', htokens'⟩ := l'.exists_tokens
      simp [Element.tokens, htokens'] at h
    | listPair key' colon' l' =>
      simp [Element.tokens] at h
      exact absurd (h.2 ▸ hrest) not_notNext
    | pair key' colon' s' =>
      simp [Element.tokens] at h
      exact absurd (h.2 ▸ hrest) not_notNext
    | scalar s' => simpa [Element.tokens] using h

theorem Others.eq_of_tokens {close close' : Span} {rest rest' : List Token} :
    (o o' : Others) →
      o.tokens ++ close.token .rightBracket :: rest =
        o'.tokens ++ close'.token .rightBracket :: rest' →
      o = o' ∧ close = close' ∧ rest = rest'
  | .nil, o', h => by
    cases o' with
    | nil => simpa [Others.tokens] using h
    | _ => simp [Others.tokens] at h
  | .comma c, o', h => by
    cases o' with
    | nil => simp [Others.tokens] at h
    | comma c' => simpa [Others.tokens] using h
    | cons c' next o' =>
      simp only [Others.tokens, List.cons_append, List.nil_append, List.append_assoc,
        List.cons.injEq] at h
      exact absurd (h.2 ▸ next.notNext_rightBracket _) not_notNext
  | .cons c next o, o', h => by
    cases o' with
    | nil => simp [Others.tokens] at h
    | comma c' =>
      simp only [Others.tokens, List.cons_append, List.nil_append, List.append_assoc,
        List.cons.injEq] at h
      exact absurd (h.2 ▸ next.notNext_rightBracket _) not_notNext
    | cons c' next' o' =>
      simp only [Others.tokens, List.cons_append, List.append_assoc, List.cons.injEq,
        Span.token_inj, and_true] at h
      obtain ⟨rfl, h⟩ := h
      obtain ⟨rfl, hothers⟩ := Element.eq_of_tokens (notNext_others o close rest)
        (notNext_others o' close' rest') next next' h
      obtain ⟨rfl, hsame⟩ := Others.eq_of_tokens o o' hothers
      exact ⟨rfl, hsame⟩

theorem Bracketed.eq_of_tokens {rest rest' : List Token} :
    (l l' : Bracketed) → l.tokens ++ rest = l'.tokens ++ rest' → l = l' ∧ rest = rest'
  | .empty bracket close, l', h => by
    cases l' with
    | empty bracket' close' => simpa [Bracketed.tokens, and_assoc] using h
    | mk bracket' first' others' close' =>
      simp only [Bracketed.tokens, List.cons_append, List.nil_append, List.append_assoc,
        List.cons.injEq] at h
      exact absurd (h.2 ▸ first'.notNext_rightBracket _) not_notNext
  | .mk bracket first others close, l', h => by
    cases l' with
    | empty bracket' close' =>
      simp only [Bracketed.tokens, List.cons_append, List.nil_append, List.append_assoc,
        List.cons.injEq] at h
      exact absurd (h.2 ▸ first.notNext_rightBracket _) not_notNext
    | mk bracket' first' others' close' =>
      simp only [Bracketed.tokens, List.cons_append, List.nil_append, List.append_assoc,
        List.cons.injEq, Span.token_inj, and_true] at h
      obtain ⟨rfl, h⟩ := h
      obtain ⟨rfl, hothers⟩ := Element.eq_of_tokens (notNext_others others close rest)
        (notNext_others others' close' rest') first first' h
      obtain ⟨rfl, rfl, hsame⟩ := Others.eq_of_tokens others others' hothers
      exact ⟨rfl, hsame⟩

end

/-! ## Blocks -/

mutual

theorem Item.eq_of_tokens {rest rest' : List Token} (hrest : NotNext .leftBrace rest)
    (hrest' : NotNext .leftBrace rest') :
    (i i' : Item) → i.tokens ++ rest = i'.tokens ++ rest' → i = i' ∧ rest = rest'
  | .anonymous key word colon body, i', h => by
    cases i' with
    | anonymous key' word' colon' body' =>
      simp only [Item.tokens, List.cons_append, List.cons.injEq, Span.token_inj, and_true,
        TokenKind.word.injEq] at h
      obtain ⟨⟨rfl, rfl⟩, rfl, h⟩ := h
      obtain ⟨rfl, hsame⟩ := Body.eq_of_tokens body body' h
      exact ⟨rfl, hsame⟩
    | list key' word' colon' l =>
      obtain ⟨bracket, inner, htokens⟩ := l.exists_tokens
      cases body
      simp [Item.tokens, Body.tokens, htokens] at h
    | _ =>
      cases body
      simp [Item.tokens, Body.tokens] at h
  | .list key word colon l, i', h => by
    obtain ⟨bracket, inner, htokens⟩ := l.exists_tokens
    cases i' with
    | anonymous key' word' colon' body =>
      cases body
      simp [Item.tokens, Body.tokens, htokens] at h
    | list key' word' colon' l' =>
      simp only [Item.tokens, List.cons_append, List.cons.injEq, Span.token_inj, and_true,
        TokenKind.word.injEq] at h
      obtain ⟨⟨rfl, rfl⟩, rfl, h⟩ := h
      obtain ⟨rfl, hsame⟩ := Bracketed.eq_of_tokens l l' h
      exact ⟨rfl, hsame⟩
    | _ => simp [Item.tokens, htokens] at h
  | .expression key word colon text span, i', h => by
    cases i' with
    | anonymous key' word' colon' body =>
      cases body
      simp [Item.tokens, Body.tokens] at h
    | list key' word' colon' l =>
      obtain ⟨bracket, inner, htokens⟩ := l.exists_tokens
      simp [Item.tokens, htokens] at h
    | expression key' word' colon' text' span' =>
      simp only [Item.tokens, List.cons_append, List.nil_append, List.cons.injEq, Span.token_inj,
        and_true, TokenKind.word.injEq, TokenKind.expression.injEq] at h
      obtain ⟨⟨rfl, rfl⟩, rfl, ⟨rfl, rfl⟩, hsame⟩ := h
      exact ⟨rfl, hsame⟩
    | _ => simp [Item.tokens] at h
  | .named key word colon name body, i', h => by
    cases i' with
    | anonymous key' word' colon' body' =>
      cases body'
      simp [Item.tokens, Body.tokens] at h
    | list key' word' colon' l =>
      obtain ⟨bracket, inner, htokens⟩ := l.exists_tokens
      simp [Item.tokens, htokens] at h
    | expression key' word' colon' text' span' => simp [Item.tokens] at h
    | named key' word' colon' name' body' =>
      simp only [Item.tokens, List.cons_append, List.cons.injEq, Span.token_inj, and_true,
        TokenKind.word.injEq, Scalar.token_inj] at h
      obtain ⟨⟨rfl, rfl⟩, rfl, rfl, h⟩ := h
      obtain ⟨rfl, hsame⟩ := Body.eq_of_tokens body body' h
      exact ⟨rfl, hsame⟩
    | scalar key' word' colon' value =>
      cases body
      simp only [Item.tokens, Body.tokens, List.cons_append, List.nil_append, List.cons.injEq] at h
      exact absurd (h.2.2.2 ▸ hrest') not_notNext
  | .scalar key word colon value, i', h => by
    cases i' with
    | anonymous key' word' colon' body' =>
      cases body'
      simp [Item.tokens, Body.tokens] at h
    | list key' word' colon' l =>
      obtain ⟨bracket, inner, htokens⟩ := l.exists_tokens
      simp [Item.tokens, htokens] at h
    | expression key' word' colon' text' span' => simp [Item.tokens] at h
    | named key' word' colon' name' body' =>
      cases body'
      simp only [Item.tokens, Body.tokens, List.cons_append, List.nil_append, List.cons.injEq] at h
      exact absurd (h.2.2.2 ▸ hrest) not_notNext
    | scalar key' word' colon' value' =>
      simp only [Item.tokens, List.cons_append, List.nil_append, List.cons.injEq, Span.token_inj,
        and_true, TokenKind.word.injEq, Scalar.token_inj] at h
      obtain ⟨⟨rfl, rfl⟩, rfl, rfl, hsame⟩ := h
      exact ⟨rfl, hsame⟩

theorem Body.eq_of_tokens {rest rest' : List Token} :
    (b b' : Body) → b.tokens ++ rest = b'.tokens ++ rest' → b = b' ∧ rest = rest'
  | .mk brace is close, .mk brace' is' close', h => by
    simp only [Body.tokens, List.cons_append, List.nil_append, List.append_assoc, List.cons.injEq,
      Span.token_inj, and_true] at h
    obtain ⟨rfl, h⟩ := h
    obtain ⟨rfl, hclose⟩ := eq_of_itemTokens notNext_close.1 notNext_close.1
      notNext_close.2 notNext_close.2 is is' h
    simp only [List.cons.injEq, Span.token_inj, and_true] at hclose
    obtain ⟨rfl, hsame⟩ := hclose
    exact ⟨rfl, hsame⟩

theorem eq_of_itemTokens {rest rest' : List Token} (hword : ∀ key, NotNext (.word key) rest)
    (hword' : ∀ key, NotNext (.word key) rest') (hbrace : NotNext .leftBrace rest)
    (hbrace' : NotNext .leftBrace rest') :
    (is is' : List Item) → itemTokens is ++ rest = itemTokens is' ++ rest' →
      is = is' ∧ rest = rest'
  | [], [], h => ⟨rfl, h⟩
  | [], i' :: is', h => by
    obtain ⟨key, word, after, htokens⟩ := i'.exists_tokens
    rw [itemTokens, itemTokens, htokens, List.nil_append] at h
    exact absurd (h ▸ hword key) not_notNext
  | i :: is, [], h => by
    obtain ⟨key, word, after, htokens⟩ := i.exists_tokens
    rw [itemTokens, itemTokens, htokens, List.nil_append] at h
    exact absurd (h ▸ hword' key) not_notNext
  | i :: is, i' :: is', h => by
    rw [itemTokens, itemTokens, List.append_assoc, List.append_assoc] at h
    obtain ⟨rfl, hitems⟩ := Item.eq_of_tokens (notNext_itemTokens hbrace is)
      (notNext_itemTokens hbrace' is') i i' h
    obtain ⟨rfl, hsame⟩ := eq_of_itemTokens hword hword' hbrace hbrace' is is' hitems
    exact ⟨rfl, hsame⟩

end

end LookML.Grammar
