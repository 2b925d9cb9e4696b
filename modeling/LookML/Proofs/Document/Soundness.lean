import LookML.Proofs.Document.Reading
/-!
# Whatever is read, a syntax tree spells

Where a parser succeeds there is a syntax tree that spells the tokens it read, is not nested too
deep and means what was parsed. The induction is on the number of tokens, since a block or a list
is parsed by the parser of what stands inside it.
-/

namespace LookML.Document

open Grammar (Span Scalar Body Bracketed Others Element itemTokens itemNesting readAll)

variable {path : String} {depth n : Nat}

/-! ## Lists -/

def ListsSpelled (path : String) (n : Nat) : Prop :=
  ∀ (depth line : Nat) (bracket : Span) (ts rest : List Token) (vs : List Value)
    (stop : Position), ts.length < n → depth + 1 ≤ maxNesting →
    readElements path (depth + 1) line ts = .ok (vs, stop, rest) →
      ∃ l : Bracketed, bracket.token .leftBracket :: ts = l.tokens ++ rest ∧
        depth + l.nesting ≤ maxNesting ∧ l.value = .list vs ∧ l.stop = stop

theorem exists_of_readList (hn : ListsSpelled path n) {bracket : Span} {body rest : List Token}
    {v : Value} {stop : Position} (hbody : body.length < n)
    (h : readList path depth bracket.start body = .ok (v, stop, rest)) :
    ∃ l : Bracketed, bracket.token .leftBracket :: body = l.tokens ++ rest ∧
      depth + l.nesting ≤ maxNesting ∧ l.value = v ∧ l.stop = stop := by
  obtain ⟨hdepth, vs, helements, rfl⟩ := readList_eq_ok.1 h
  exact hn depth _ bracket body rest vs stop hbody hdepth helements

theorem exists_of_readElement (hn : ListsSpelled path n) (hdepth : depth ≤ maxNesting)
    {ts rest : List Token} {v : Value} {stop : Position} (hts : ts.length ≤ n)
    (h : readElement path depth ts = .ok (v, stop, rest)) :
    ∃ e : Element, ts = e.tokens ++ rest ∧ depth + e.nesting ≤ maxNesting ∧ e.value = v ∧
      e.stop = stop := by
  cases readElement_eq_ok.1 h with
  | list bracket h =>
    obtain ⟨l, htokens, hnesting, rfl, rfl⟩ := exists_of_readList hn hts h
    exact ⟨.list l, htokens, hnesting, rfl, rfl⟩
  | listPair key colon bracket h =>
    have hbody := Nat.lt_of_succ_lt (Nat.lt_of_succ_lt hts)
    obtain ⟨l, htokens, hnesting, rfl, rfl⟩ := exists_of_readList hn hbody h
    refine ⟨.listPair key colon l, ?_, hnesting, rfl, rfl⟩
    rw [htokens]
    rfl
  | pair key colon s => exact ⟨.pair key colon s, rfl, hdepth, rfl, rfl⟩
  | scalar s h => exact ⟨.scalar s, rfl, hdepth, rfl, rfl⟩

theorem listsSpelled (path : String) (n : Nat) : ListsSpelled path n := by
  induction n with
  | zero => exact fun _ _ _ _ _ _ _ hts => absurd hts (Nat.not_lt_zero _)
  | succ n ih =>
    intro depth line bracket ts rest vs stop hts hdepth h
    have hlength := Nat.le_of_lt_succ hts
    cases readElements_eq_ok.1 h with
    | close close => exact ⟨.empty bracket close, rfl, hdepth, rfl, rfl⟩
    | last close helement =>
      obtain ⟨e, rfl, hnesting, rfl, _⟩ := exists_of_readElement ih hdepth hlength helement
      refine ⟨.mk bracket e .nil close, ?_, ?_, rfl, rfl⟩
      · simp [Bracketed.tokens, Others.tokens]
      · rw [Bracketed.nesting, Others.nesting, Nat.max_zero]
        omega
    | cons comma helement hrest =>
      obtain ⟨e, rfl, hnesting, rfl, _⟩ := exists_of_readElement ih hdepth hlength helement
      simp only [List.length_append, List.length_cons] at hlength
      -- What follows the comma is read like a list whose bracket stands in the comma's place.
      obtain ⟨l, htokens, hdeep, hvalue, rfl⟩ :=
        ih depth line comma _ rest _ _ (by omega) hdepth hrest
      cases l with
      | empty comma' close =>
        cases hvalue
        refine ⟨.mk bracket e (.comma comma) close, ?_, ?_, rfl, rfl⟩
        · have hafter := (List.cons.inj htokens).2
          simp [Bracketed.tokens, Others.tokens, hafter]
        · rw [Bracketed.nesting, Others.nesting, Nat.max_zero]
          omega
      | mk comma' next others close =>
        cases hvalue
        refine ⟨.mk bracket e (.cons comma next others) close, ?_, ?_, rfl, rfl⟩
        · have hafter := (List.cons.inj htokens).2
          simp [Bracketed.tokens, Others.tokens, hafter]
        · rw [Bracketed.nesting] at hdeep
          rw [Bracketed.nesting, Others.nesting]
          omega

/-! ## Blocks -/

def ItemsSpelled (path : String) (n : Nat) : Prop :=
  ∀ (depth : Nat) (ts rest : List Token) (all : List Item), ts.length < n →
    depth ≤ maxNesting → readItems path depth ts = .ok (all, rest) →
      ∃ is, ts = itemTokens is ++ rest ∧ depth + itemNesting is ≤ maxNesting ∧
        readAll path is = all

theorem exists_of_readBlock (hn : ItemsSpelled path n) {keyword : String} {name : Option String}
    {start : Position} {brace : Span} {body rest : List Token} {b : Block}
    (hbody : body.length < n)
    (h : readBlock path depth keyword name start brace.start body = .ok (b, rest)) :
    ∃ t : Body, brace.token .leftBrace :: body = t.tokens ++ rest ∧
      depth + t.nesting ≤ maxNesting ∧ t.block path keyword name start = b := by
  obtain ⟨hdepth, all, close, hitems, rfl⟩ := readBlock_eq_ok.1 h
  obtain ⟨is, rfl, hnesting, rfl⟩ := hn (depth + 1) body _ all hbody hdepth hitems
  refine ⟨.mk brace is close, ?_, ?_, rfl⟩
  · simp [Body.tokens]
  · rw [Body.nesting]
    omega

theorem exists_of_readItem (hn : ItemsSpelled path n) (hdepth : depth ≤ maxNesting)
    {key : String} {word : Span} {ts rest : List Token} {i : Item} (hts : ts.length ≤ n)
    (h : readItem path depth key word.start ts = .ok (i, rest)) :
    ∃ t : Grammar.Item, word.token (.word key) :: ts = t.tokens ++ rest ∧
      depth + t.nesting ≤ maxNesting ∧ t.read path = i := by
  cases readItem_eq_ok.1 h with
  | anonymous colon brace h =>
    obtain ⟨body, htokens, hnesting, rfl⟩ := exists_of_readBlock hn (Nat.lt_of_succ_lt hts) h
    refine ⟨.anonymous key word colon body, ?_, hnesting, rfl⟩
    rw [htokens]
    rfl
  | list colon bracket h =>
    obtain ⟨l, htokens, hnesting, rfl, rfl⟩ :=
      exists_of_readList (listsSpelled path n) (Nat.lt_of_succ_lt hts) h
    refine ⟨.list key word colon l, ?_, hnesting, rfl⟩
    rw [htokens]
    rfl
  | expression colon text span =>
    exact ⟨.expression key word colon text span, rfl, hdepth, rfl⟩
  | named colon name brace h =>
    have hbody := Nat.lt_of_succ_lt (Nat.lt_of_succ_lt hts)
    obtain ⟨body, htokens, hnesting, rfl⟩ := exists_of_readBlock hn hbody h
    refine ⟨.named key word colon name body, ?_, hnesting, rfl⟩
    rw [htokens]
    rfl
  | scalar colon s h => exact ⟨.scalar key word colon s, rfl, hdepth, rfl⟩

theorem itemsSpelled (path : String) (n : Nat) : ItemsSpelled path n := by
  induction n with
  | zero => exact fun _ _ _ _ hts => absurd hts (Nat.not_lt_zero _)
  | succ n ih =>
    intro depth ts rest all hts hdepth h
    cases readItems_eq_ok.1 h with
    | nil h => exact ⟨[], rfl, hdepth, rfl⟩
    | cons key word hitem hrest =>
      have hlength := Nat.le_of_lt_succ (Nat.lt_of_succ_lt hts)
      obtain ⟨t, htokens, hnesting, rfl⟩ := exists_of_readItem ih hdepth hlength hitem
      -- An item takes a token at least, so that the induction applies to what it leaves.
      have hshorter := congrArg List.length htokens
      have hpos : 0 < t.tokens.length := by
        cases t <;> exact Nat.zero_lt_succ _
      simp only [List.length_append, List.length_cons] at hshorter hts
      obtain ⟨is, rfl, hdeep, rfl⟩ := ih depth _ rest _ (by omega) hdepth hrest
      refine ⟨t :: is, ?_, ?_, rfl⟩
      · rw [htokens, itemTokens, List.append_assoc]
      · rw [itemNesting]
        omega

end LookML.Document
