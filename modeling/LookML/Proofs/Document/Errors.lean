import LookML.Proofs.Document.Soundness
/-!
# Where a syntax error stands

Whatever the parsers complain about is a token of the file: the one that should have been another,
or the brace or bracket that is nested too deep. There always is such a token, as no parser reads
past the end of input. What the complaint names is the text of a token too.
-/

namespace LookML

/-- The text of a word or of a quoted string. -/
def TokenKind.text? : TokenKind → Option String
  | .word text | .quoted text => some text
  | _ => none

/-- The key or keyword that the expectation is about. -/
def Expectation.text? : Expectation → Option String
  | .valueOf key => some key
  | .blockEnd keyword _ => some keyword
  | _ => none

/-- The texts of the file that are named in the complaint. -/
def SyntaxError.Cause.texts : Cause → List String
  | .unexpected expected found => expected.text?.toList ++ found.text?.toList
  | .unterminatedExpression key => [key]
  | .unterminatedString | .nestingTooDeep => []

namespace Document

open Grammar (Span)

variable {path : String} {depth n : Nat}

def Ends (ts : List Token) : Prop :=
  ∃ t ∈ ts, t.kind = .endOfInput

theorem Ends.rest (read : List Token) {rest : List Token} (h : Ends (read ++ rest))
    (hread : ∀ t ∈ read, t.kind ≠ .endOfInput) : Ends rest := by
  obtain ⟨t, ht, hkind⟩ := h
  rcases List.mem_append.1 ht with hmem | hmem
  · exact absurd hkind (hread t hmem)
  · exact ⟨t, hmem, hkind⟩

theorem Ends.tail {t : Token} {rest : List Token} (h : Ends (t :: rest))
    (ht : t.kind ≠ .endOfInput) : Ends rest :=
  Ends.rest [t] h (by simpa using ht)

/-- The error is about the file of the given path, stands at one of the tokens and names no text
but theirs. -/
structure Stands (path : String) (ts : List Token) (e : SyntaxError) : Prop where
  path_eq : e.path = path
  position : ∃ t ∈ ts, t.start = e.position
  texts : ∀ text ∈ e.cause.texts, ∃ t ∈ ts, t.kind.text? = some text

theorem Stands.mono {ts ts' : List Token} {e : SyntaxError} (h : Stands path ts e)
    (hsub : ts ⊆ ts') : Stands path ts' e where
  path_eq := h.path_eq
  position := by
    obtain ⟨t, ht, hstart⟩ := h.position
    exact ⟨t, hsub ht, hstart⟩
  texts := by
    intro text htext
    obtain ⟨t, ht, hkind⟩ := h.texts text htext
    exact ⟨t, hsub ht, hkind⟩

theorem Stands.tail {t : Token} {rest : List Token} {e : SyntaxError} (h : Stands path rest e) :
    Stands path (t :: rest) e :=
  h.mono (List.subset_cons_self t rest)

theorem stands_unexpected {ts all : List Token} (h : Ends ts) (hsub : ts ⊆ all)
    {expected : Expectation}
    (hexpected : ∀ text ∈ expected.text?, ∃ t ∈ all, t.kind.text? = some text) :
    Stands path all (.unexpected path (current ts) expected) := by
  obtain ⟨t, ht, _⟩ := h
  cases ts with
  | nil => cases ht
  | cons t ts =>
    have hcurrent : t ∈ all := hsub List.mem_cons_self
    refine ⟨rfl, ⟨t, hcurrent, rfl⟩, fun text htext => ?_⟩
    rcases List.mem_append.1 htext with htext | htext
    · exact hexpected text (Option.mem_toList.1 htext)
    · exact ⟨t, hcurrent, Option.mem_toList.1 htext⟩

theorem stands_nestingTooDeep {t : Token} {ts : List Token} (ht : t ∈ ts) :
    Stands path ts ⟨path, t.start, .nestingTooDeep⟩ :=
  ⟨rfl, ⟨t, ht, rfl⟩, nofun⟩

/-! ## Lists -/

theorem stands_of_scalar {ts : List Token} {e : SyntaxError} (hends : Ends ts)
    (h : scalar path ts = .error e) : Stands path ts e := by
  unfold scalar at h
  split at h
  · cases h
  · cases h
  · cases h
    exact stands_unexpected hends (List.Subset.refl _) (by simp [Expectation.text?])

def ElementsStand (path : String) (n : Nat) : Prop :=
  ∀ (depth line : Nat) (ts : List Token) (e : SyntaxError), ts.length < n →
    depth + 1 ≤ maxNesting → Ends ts → elements path (depth + 1) line ts = .error e →
      Stands path ts e

theorem stands_of_list (hn : ElementsStand path n) (bracket : Token) {body : List Token}
    {e : SyntaxError} (hbody : body.length < n) (hends : Ends body)
    (h : list path depth bracket.start body = .error e) : Stands path (bracket :: body) e := by
  rw [list] at h
  split at h
  · cases h
    exact stands_nestingTooDeep List.mem_cons_self
  · rename_i hdepth
    rcases bind_eq_error.1 h with h | ⟨_, _, h⟩
    · exact (hn depth _ body e hbody (Nat.lt_of_not_le hdepth) hends h).tail
    · cases h

theorem stands_of_element (hn : ElementsStand path n) {ts : List Token} {e : SyntaxError}
    (hts : ts.length ≤ n) (hends : Ends ts) (h : element path depth ts = .error e) :
    Stands path ts e := by
  rw [element.eq_def] at h
  split at h
  case h_1 p q body =>
    rcases bind_eq_error.1 h with h | ⟨_, _, h⟩
    · exact stands_of_list hn ⟨.leftBracket, p, q⟩ hts (hends.tail (by simp)) h
    · cases h
  -- The key of a pair is a word or a quoted string.
  case h_2 | h_3 =>
    rename_i key p q p' q' rest
    have hafter : Ends rest := (hends.tail (by simp)).tail (by simp)
    split at h
    · rename_i p'' q'' body
      rcases bind_eq_error.1 h with h | ⟨_, _, h⟩
      · have hbody : body.length < n := Nat.lt_of_succ_lt (Nat.lt_of_succ_lt hts)
        have hlist := stands_of_list hn ⟨.leftBracket, p'', q''⟩ hbody (hafter.tail (by simp)) h
        exact hlist.tail.tail
      · cases h
    · rcases bind_eq_error.1 h with h | ⟨_, _, h⟩
      · exact (stands_of_scalar hafter h).tail.tail
      · cases h
  case h_4 => exact stands_of_scalar hends h

/-- What an element leaves holds the end of input, and is part of what was there. -/
theorem rest_of_element {ts rest : List Token} {v : Value} {stop : Position}
    (hdepth : depth ≤ maxNesting) (hends : Ends ts)
    (h : readElement path depth ts = .ok (v, stop, rest)) : Ends rest ∧ rest ⊆ ts := by
  obtain ⟨t, rfl, _⟩ := exists_of_readElement (listsSpelled path _) hdepth (Nat.le_refl _) h
  exact ⟨hends.rest t.tokens t.kind_ne, List.subset_append_right _ _⟩

theorem elementsStand (path : String) (n : Nat) : ElementsStand path n := by
  induction n with
  | zero => exact fun _ _ _ _ hts => absurd hts (Nat.not_lt_zero _)
  | succ n ih =>
    intro depth line ts e hts hdepth hends h
    rw [elements.eq_def] at h
    split at h
    · cases h
    · rename_i p q rest _
      cases h
      exact stands_unexpected hends (List.Subset.refl _) (by simp [Expectation.text?])
    · rcases bind_eq_error.1 h with h | ⟨⟨v, stop, rest, shorter⟩, helement, h⟩
      · exact stands_of_element ih (Nat.le_of_lt_succ hts) hends h
      · obtain ⟨hrest, hsub⟩ :=
          rest_of_element hdepth hends (forgetAfter_eq_ok.2 ⟨shorter, helement⟩)
        simp only at h
        split at h
        · rename_i p q after shorter
          rcases bind_eq_error.1 h with h | ⟨_, _, h⟩
          · refine ((ih depth line after e ?_ hdepth (hrest.tail (by simp)) h).tail).mono hsub
            simp only [List.length_cons] at shorter
            omega
          · cases h
        · cases h
        · cases h
          exact stands_unexpected hrest hsub (by simp [Expectation.text?])

/-! ## Blocks -/

/-- What an item leaves holds the end of input, and is part of what was there. -/
theorem rest_of_item {key : String} (word : Span) {ts rest : List Token} {i : Item}
    (hdepth : depth ≤ maxNesting) (hends : Ends (word.token (.word key) :: ts))
    (h : readItem path depth key word.start ts = .ok (i, rest)) :
    Ends rest ∧ rest ⊆ word.token (.word key) :: ts := by
  obtain ⟨t, htokens, _⟩ := exists_of_readItem (itemsSpelled path _) hdepth (Nat.le_refl _) h
  rw [htokens] at hends ⊢
  exact ⟨hends.rest t.tokens t.kind_ne, List.subset_append_right _ _⟩

/-- What items leave holds the end of input, and is part of what was there. -/
theorem rest_of_items {ts rest : List Token} {all : List Item} (hdepth : depth ≤ maxNesting)
    (hends : Ends ts) (h : readItems path depth ts = .ok (all, rest)) : Ends rest ∧ rest ⊆ ts := by
  obtain ⟨is, rfl, _⟩ := itemsSpelled path _ depth ts rest all (Nat.lt_succ_self _) hdepth h
  exact ⟨hends.rest _ (Grammar.kind_ne_of_mem_itemTokens is), List.subset_append_right _ _⟩

def ItemsStand (path : String) (n : Nat) : Prop :=
  ∀ (depth : Nat) (ts : List Token) (e : SyntaxError), ts.length < n → depth ≤ maxNesting →
    Ends ts → items path depth ts = .error e → Stands path ts e

theorem stands_of_block (hn : ItemsStand path n) {keyword : String} {name : Option String}
    {start : Position} (brace : Token) {body all : List Token} {e : SyntaxError}
    (hbody : body.length < n) (hends : Ends body) (hsuffix : brace :: body <:+ all)
    (hkeyword : ∃ t ∈ all, t.kind.text? = some keyword)
    (h : block path depth keyword name start brace.start body = .error e) : Stands path all e := by
  obtain ⟨hbrace, hinside⟩ := List.cons_subset.1 hsuffix.subset
  rw [block] at h
  split at h
  · cases h
    exact stands_nestingTooDeep hbrace
  · rename_i hopen
    have hdepth : depth + 1 ≤ maxNesting := Nat.lt_of_not_le hopen
    rcases bind_eq_error.1 h with h | ⟨⟨inner, rest, shorter⟩, hitems, h⟩
    · exact (hn (depth + 1) body e hbody hdepth hends h).mono hinside
    · obtain ⟨hrest, hsub⟩ := rest_of_items hdepth hends (forget_eq_ok.2 ⟨shorter, hitems⟩)
      simp only at h
      split at h
      · cases h
      · cases h
        refine stands_unexpected hrest (List.Subset.trans hsub hinside) fun text htext => ?_
        split at htext <;> cases htext
        exact hkeyword

theorem stands_of_item (hn : ItemsStand path n) {key : String} (word : Span)
    {ts : List Token} {e : SyntaxError} (hts : ts.length ≤ n) (hends : Ends ts)
    (h : item path depth key word.start ts = .error e) :
    Stands path (word.token (.word key) :: ts) e := by
  have hkey : ∃ t ∈ word.token (.word key) :: ts, t.kind.text? = some key :=
    ⟨_, List.mem_cons_self, rfl⟩
  rw [item.eq_def] at h
  split at h
  · rename_i p q rest
    have hrest : Ends rest := hends.tail (by simp)
    split at h
    case h_1 p' q' body =>
      rcases bind_eq_error.1 h with h | ⟨_, _, h⟩
      · have hbody : body.length < n := Nat.lt_of_succ_lt hts
        have hafter : Ends body := hrest.tail (by simp)
        exact stands_of_block hn ⟨.leftBrace, p', q'⟩ hbody hafter ⟨[_, _], rfl⟩ hkey h
      · cases h
    case h_2 p' q' body =>
      rcases bind_eq_error.1 h with h | ⟨_, _, h⟩
      · have hbody : body.length < n := Nat.lt_of_succ_lt hts
        have hlists := elementsStand path n
        have hlist := stands_of_list hlists ⟨.leftBracket, p', q'⟩ hbody (hrest.tail (by simp)) h
        exact hlist.tail.tail
      · cases h
    case h_3 => cases h
    -- The name of a block is a word or a quoted string.
    case h_4 | h_5 =>
      rename_i p' q' p'' q'' body
      rcases bind_eq_error.1 h with h | ⟨_, _, h⟩
      · have hbody : body.length < n := Nat.lt_of_succ_lt (Nat.lt_of_succ_lt hts)
        have hafter : Ends body := (hrest.tail (by simp)).tail (by simp)
        exact stands_of_block hn ⟨.leftBrace, p'', q''⟩ hbody hafter ⟨[_, _, _], rfl⟩ hkey h
      · cases h
    case h_6 | h_7 => cases h
    case h_8 =>
      cases h
      refine stands_unexpected hrest (by simp) fun text htext => ?_
      cases htext
      exact hkey
  · cases h
    exact stands_unexpected hends (List.subset_cons_self _ _) (by simp [Expectation.text?])

theorem itemsStand (path : String) (n : Nat) : ItemsStand path n := by
  induction n with
  | zero => exact fun _ _ _ hts => absurd hts (Nat.not_lt_zero _)
  | succ n ih =>
    intro depth ts e hts hdepth hends h
    rw [items.eq_def] at h
    split at h
    · rename_i key start stop after
      have hafter : Ends after := hends.tail (by simp)
      have hlength : after.length ≤ n := Nat.le_of_lt_succ (Nat.lt_of_succ_lt hts)
      rcases bind_eq_error.1 h with h | ⟨⟨first, rest, shorter⟩, hitem, h⟩
      · exact stands_of_item ih ⟨start, stop⟩ hlength hafter h
      · rcases bind_eq_error.1 h with h | ⟨_, _, h⟩
        · obtain ⟨hrest, hsub⟩ :=
            rest_of_item ⟨start, stop⟩ hdepth hends (forget_eq_ok.2 ⟨shorter, hitem⟩)
          exact (ih depth rest e (Nat.lt_of_lt_of_le shorter hlength) hdepth hrest h).mono hsub
        · cases h
    · cases h

/-! ## Main statement -/

theorem stands_of_ofTokens {ts : List Token} {e : SyntaxError} (hends : Ends ts)
    (h : ofTokens path ts = .error e) : Stands path ts e := by
  unfold ofTokens at h
  rcases bind_eq_error.1 h with h | ⟨⟨all, rest, shorter⟩, hitems, h⟩
  · exact itemsStand path _ 0 ts e (Nat.lt_succ_self _) (Nat.zero_le _) hends h
  · obtain ⟨hrest, hsub⟩ :=
      rest_of_items (Nat.zero_le _) hends (forget_eq_ok.2 ⟨shorter, hitems⟩)
    simp only at h
    split at h
    · cases h
    · cases h
      exact stands_unexpected hrest hsub (by simp [Expectation.text?])

end Document

end LookML
