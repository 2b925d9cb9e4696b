import LookML.Proofs.Document.Reading
/-!
# Every syntax tree is read

What a syntax tree spells is parsed, and parsed as what the tree means, as long as it is not nested
too deep. The parsers look at one token past the tree: a colon or a brace there would change what
comes before it, and no tree has one there.
-/

namespace LookML.Document

open Grammar (Span Scalar Body Bracketed Others Element NotNext itemTokens itemNesting readAll
  notNext_itemTokens notNext_others)

variable {path : String}

mutual

theorem readElement_tokens (depth : Nat) (rest : List Token) (hrest : NotNext .colon rest) :
    (e : Element) → depth + e.nesting ≤ maxNesting →
      readElement path depth (e.tokens ++ rest) = .ok (e.value, e.stop, rest)
  | .list l, h => by
    obtain ⟨bracket, inner, htokens, hlist⟩ := readList_tokens depth rest l h
    rw [Element.tokens, htokens]
    exact readElement_eq_ok.2 (.list bracket hlist)
  | .listPair key colon l, h => by
    obtain ⟨bracket, inner, htokens, hlist⟩ := readList_tokens depth rest l h
    rw [Element.tokens, htokens]
    exact readElement_eq_ok.2 (.listPair key colon bracket hlist)
  | .pair key colon s, _ => readElement_eq_ok.2 (.pair key colon s)
  | .scalar s, _ => readElement_eq_ok.2 (.scalar s hrest)

theorem readElements_tokens (depth line : Nat) (close : Span) (rest : List Token)
    (first : Element)
    (hfirst : ∀ rest, NotNext .colon rest →
      readElement path depth (first.tokens ++ rest) = .ok (first.value, first.stop, rest)) :
    (o : Others) → depth + o.nesting ≤ maxNesting →
      readElements path depth line
          (first.tokens ++ (o.tokens ++ close.token .rightBracket :: rest)) =
        .ok (first.value :: o.values, close.stop, rest)
  | .nil, _ => readElements_eq_ok.2 (.last close (hfirst _ (notNext_others .nil close rest)))
  | .comma c, _ =>
    readElements_eq_ok.2 (.cons c (hfirst _ (notNext_others (.comma c) close rest))
      (readElements_eq_ok.2 (.close close)))
  | .cons c next o, h => by
    have hnext : depth + next.nesting ≤ maxNesting :=
      Nat.le_trans (Nat.add_le_add_left (Nat.le_max_left _ _) depth) h
    have hothers : depth + o.nesting ≤ maxNesting :=
      Nat.le_trans (Nat.add_le_add_left (Nat.le_max_right _ _) depth) h
    have hread := readElements_tokens depth line close rest next
      (fun rest hrest => readElement_tokens depth rest hrest next hnext) o hothers
    have hcomma := hfirst _ (notNext_others (.cons c next o) close rest)
    rw [Others.tokens, List.cons_append, List.append_assoc] at hcomma ⊢
    exact readElements_eq_ok.2 (.cons c hcomma hread)

theorem readList_tokens (depth : Nat) (rest : List Token) :
    (l : Bracketed) → depth + l.nesting ≤ maxNesting →
      ∃ bracket inner, l.tokens = Span.token bracket .leftBracket :: inner ∧
        readList path depth bracket.start (inner ++ rest) = .ok (l.value, l.stop, rest)
  | .empty bracket close, h =>
    ⟨bracket, [close.token .rightBracket], rfl,
      readList_eq_ok.2 ⟨h, [], readElements_eq_ok.2 (.close close), rfl⟩⟩
  | .mk bracket first o close, h => by
    have hdepth : depth + 1 + max first.nesting o.nesting ≤ maxNesting := by
      rw [Bracketed.nesting] at h
      omega
    have hfirst : depth + 1 + first.nesting ≤ maxNesting :=
      Nat.le_trans (Nat.add_le_add_left (Nat.le_max_left _ _) (depth + 1)) hdepth
    have hothers : depth + 1 + o.nesting ≤ maxNesting :=
      Nat.le_trans (Nat.add_le_add_left (Nat.le_max_right _ _) (depth + 1)) hdepth
    have hread := readElements_tokens (depth + 1) bracket.start.line close rest first
      (fun rest hrest => readElement_tokens (depth + 1) rest hrest first hfirst) o hothers
    refine ⟨bracket, _, rfl, readList_eq_ok.2 ⟨by omega, _, ?_, rfl⟩⟩
    rw [List.append_assoc, List.append_assoc]
    exact hread

end

mutual

theorem readItem_tokens (depth : Nat) (rest : List Token) (hrest : NotNext .leftBrace rest) :
    (i : Grammar.Item) → depth + i.nesting ≤ maxNesting →
      ∃ key word after, i.tokens = Span.token word (.word key) :: after ∧
        readItem path depth key word.start (after ++ rest) = .ok (i.read path, rest)
  | .anonymous key word colon body, h => by
    obtain ⟨brace, inner, htokens, hblock⟩ := readBlock_tokens depth rest body h
    refine ⟨key, word, _, rfl, ?_⟩
    rw [htokens]
    exact readItem_eq_ok.2 (.anonymous colon brace (hblock key none word.start))
  | .list key word colon l, h => by
    obtain ⟨bracket, inner, htokens, hlist⟩ := readList_tokens depth rest l h
    refine ⟨key, word, _, rfl, ?_⟩
    rw [htokens]
    exact readItem_eq_ok.2 (.list colon bracket hlist)
  | .expression key word colon text span, _ =>
    ⟨key, word, _, rfl, readItem_eq_ok.2 (.expression colon text span)⟩
  | .named key word colon name body, h => by
    obtain ⟨brace, inner, htokens, hblock⟩ := readBlock_tokens depth rest body h
    refine ⟨key, word, _, rfl, ?_⟩
    rw [htokens]
    exact readItem_eq_ok.2 (.named colon name brace (hblock key (some name.text) word.start))
  | .scalar key word colon value, _ =>
    ⟨key, word, _, rfl, readItem_eq_ok.2 (.scalar colon value hrest)⟩

theorem readBlock_tokens (depth : Nat) (rest : List Token) :
    (b : Body) → depth + b.nesting ≤ maxNesting →
      ∃ brace inner, b.tokens = Span.token brace .leftBrace :: inner ∧
        ∀ keyword name start, readBlock path depth keyword name start brace.start (inner ++ rest) =
          .ok (b.block path keyword name start, rest)
  | .mk brace is close, h => by
    have hdepth : depth + 1 + itemNesting is ≤ maxNesting := by
      rw [Body.nesting] at h
      omega
    have hread := readItems_tokens (depth + 1) (close.token .rightBrace :: rest)
      (by simp [NotNext, Span.token]) (by simp [NotNext, Span.token]) is hdepth
    refine ⟨brace, _, rfl, ?_⟩
    intro keyword name start
    refine readBlock_eq_ok.2 ⟨by omega, _, close, ?_, rfl⟩
    rw [List.append_assoc]
    exact hread

theorem readItems_tokens (depth : Nat) (rest : List Token)
    (hword : ∀ key, NotNext (.word key) rest) (hbrace : NotNext .leftBrace rest) :
    (is : List Grammar.Item) → depth + itemNesting is ≤ maxNesting →
      readItems path depth (itemTokens is ++ rest) = .ok (readAll path is, rest)
  | [], _ => readItems_eq_ok.2 (.nil hword)
  | i :: is, h => by
    have hitem : depth + i.nesting ≤ maxNesting :=
      Nat.le_trans (Nat.add_le_add_left (Nat.le_max_left _ _) depth) h
    have hitems : depth + itemNesting is ≤ maxNesting :=
      Nat.le_trans (Nat.add_le_add_left (Nat.le_max_right _ _) depth) h
    obtain ⟨key, word, after, htokens, hread⟩ :=
      readItem_tokens depth (itemTokens is ++ rest) (notNext_itemTokens hbrace is) i hitem
    rw [itemTokens, htokens, List.append_assoc, List.cons_append]
    exact readItems_eq_ok.2
      (.cons key word hread (readItems_tokens depth rest hword hbrace is hitems))

end

/-! ## Main statement -/

theorem notNext_of_current {kind : TokenKind} {rest : List Token}
    (h : (current rest).kind = .endOfInput) (hkind : kind ≠ .endOfInput) : NotNext kind rest := by
  intro t ht
  obtain ⟨rest, rfl⟩ := List.head?_eq_some_iff.1 ht
  rw [show t.kind = .endOfInput from h]
  exact hkind.symm

theorem ofTokens_of_items {is : List Grammar.Item} {rest : List Token}
    (hend : (current rest).kind = .endOfInput) (hnesting : itemNesting is ≤ maxNesting) :
    ofTokens path (itemTokens is ++ rest) = .ok (Grammar.document path is) := by
  have hread : readItems path 0 (itemTokens is ++ rest) = .ok (readAll path is, rest) :=
    readItems_tokens 0 rest (fun _ => notNext_of_current hend nofun)
      (notNext_of_current hend nofun) is (by rwa [Nat.zero_add])
  refine ofTokens_eq_ok.2 ⟨_, _, hread, hend, ?_⟩
  rw [Grammar.document, Grammar.readAll_eq_map]

theorem parse_of_scan {text : String} {is : List Grammar.Item} {eof : Token}
    (hscan : Token.scan path text = .ok (itemTokens is ++ [eof])) (heof : eof.kind = .endOfInput)
    (hnesting : itemNesting is ≤ maxNesting) :
    parse path text = .ok (Grammar.document path is) := by
  rw [parse, hscan]
  exact ofTokens_of_items heof hnesting

end LookML.Document
