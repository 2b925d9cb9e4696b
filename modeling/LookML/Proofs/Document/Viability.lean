import LookML.Proofs.Document.Errors
import LookML.Proofs.Document.Lookahead
/-!
# Errors stand at the first impossible token

The tokens before the one that is complained about could go on to make a document. With that token
they cannot, whatever follows it: no parser that is open there reads them. So the complaint comes as
early as it can.
-/

namespace LookML.Document

open Grammar (Span Scalar Body Bracketed Others Element NotNext itemTokens itemNesting)

variable {path : String} {depth n : Nat}

/-! ## What tokens can go on to be -/

def Begins (whole : List Token → Prop) (ts : List Token) : Prop :=
  ∃ rest, whole (ts ++ rest)

/-- The tokens are an element of a list. The number of blocks and lists around it is `depth`, here
and in what follows. -/
def IsElement (depth : Nat) (ts : List Token) : Prop :=
  ∃ e : Element, e.tokens = ts ∧ depth + e.nesting ≤ maxNesting

def IsList (depth : Nat) (bracket : Span) (ts : List Token) : Prop :=
  ∃ l : Bracketed, l.tokens = bracket.token .leftBracket :: ts ∧ depth + l.nesting ≤ maxNesting

def IsBody (depth : Nat) (brace : Span) (ts : List Token) : Prop :=
  ∃ b : Body, b.tokens = brace.token .leftBrace :: ts ∧ depth + b.nesting ≤ maxNesting

def IsItem (depth : Nat) (key : String) (word : Span) (ts : List Token) : Prop :=
  ∃ i : Grammar.Item, i.tokens = word.token (.word key) :: ts ∧ depth + i.nesting ≤ maxNesting

def IsItems (depth : Nat) (ts : List Token) : Prop :=
  ∃ is, itemTokens is = ts ∧ depth + itemNesting is ≤ maxNesting

def anywhere : Span := ⟨.start, .start⟩

section Wholes

variable {bracket brace word colon : Span} {key : String} {ts ts' : List Token}

theorem isElement_scalar (s : Scalar) (h : depth ≤ maxNesting) : IsElement depth [s.token] :=
  ⟨.scalar s, rfl, h⟩

theorem isElement_pair (key : Scalar) (colon : Span) (s : Scalar) (h : depth ≤ maxNesting) :
    IsElement depth [key.token, colon.token .colon, s.token] :=
  ⟨.pair key colon s, rfl, h⟩

theorem IsList.element (h : IsList depth bracket ts) :
    IsElement depth (bracket.token .leftBracket :: ts) := by
  obtain ⟨l, htokens, hnesting⟩ := h
  exact ⟨.list l, htokens, hnesting⟩

theorem IsList.listPair (h : IsList depth bracket ts) (key : Scalar) (colon : Span) :
    IsElement depth (key.token :: colon.token .colon :: bracket.token .leftBracket :: ts) := by
  obtain ⟨l, htokens, hnesting⟩ := h
  exact ⟨.listPair key colon l, by rw [Element.tokens, htokens], hnesting⟩

theorem isList_empty (bracket close : Span) (h : depth + 1 ≤ maxNesting) :
    IsList depth bracket [close.token .rightBracket] :=
  ⟨.empty bracket close, rfl, h⟩

theorem IsElement.last (h : IsElement (depth + 1) ts) (bracket close : Span) :
    IsList depth bracket (ts ++ [close.token .rightBracket]) := by
  obtain ⟨e, rfl, hnesting⟩ := h
  refine ⟨.mk bracket e .nil close, rfl, ?_⟩
  rw [Bracketed.nesting, Others.nesting, Nat.max_zero]
  omega

theorem IsElement.cons {comma : Span} (h : IsElement (depth + 1) ts) (hrest : IsList depth comma ts')
    (bracket : Span) : IsList depth bracket (ts ++ comma.token .comma :: ts') := by
  obtain ⟨e, rfl, hnesting⟩ := h
  obtain ⟨l, htokens, hdeep⟩ := hrest
  cases l with
  | empty comma' close =>
    obtain rfl := (List.cons.inj htokens).2
    refine ⟨.mk bracket e (.comma comma) close, rfl, ?_⟩
    rw [Bracketed.nesting, Others.nesting, Nat.max_zero]
    omega
  | mk comma' next others close =>
    obtain rfl := (List.cons.inj htokens).2
    refine ⟨.mk bracket e (.cons comma next others) close, ?_, ?_⟩
    · simp [Bracketed.tokens, Others.tokens]
    · rw [Bracketed.nesting] at hdeep
      rw [Bracketed.nesting, Others.nesting]
      omega

theorem isItems_nil (h : depth ≤ maxNesting) : IsItems depth [] :=
  ⟨[], rfl, h⟩

theorem IsItem.cons (h : IsItem depth key word ts) (hrest : IsItems depth ts') :
    IsItems depth (word.token (.word key) :: (ts ++ ts')) := by
  obtain ⟨i, htokens, hnesting⟩ := h
  obtain ⟨is, rfl, hdeep⟩ := hrest
  refine ⟨i :: is, ?_, ?_⟩
  · rw [itemTokens, htokens, List.cons_append]
  · rw [itemNesting]
    omega

theorem IsItems.body (h : IsItems (depth + 1) ts) (brace close : Span) :
    IsBody depth brace (ts ++ [close.token .rightBrace]) := by
  obtain ⟨is, rfl, hnesting⟩ := h
  refine ⟨.mk brace is close, rfl, ?_⟩
  rw [Body.nesting]
  omega

theorem isItem_scalar (key : String) (word colon : Span) (s : Scalar) (h : depth ≤ maxNesting) :
    IsItem depth key word [colon.token .colon, s.token] :=
  ⟨.scalar key word colon s, rfl, h⟩

theorem IsList.item (h : IsList depth bracket ts) (key : String) (word colon : Span) :
    IsItem depth key word (colon.token .colon :: bracket.token .leftBracket :: ts) := by
  obtain ⟨l, htokens, hnesting⟩ := h
  exact ⟨.list key word colon l, by rw [Grammar.Item.tokens, htokens], hnesting⟩

theorem IsBody.anonymous (h : IsBody depth brace ts) (key : String) (word colon : Span) :
    IsItem depth key word (colon.token .colon :: brace.token .leftBrace :: ts) := by
  obtain ⟨b, htokens, hnesting⟩ := h
  exact ⟨.anonymous key word colon b, by rw [Grammar.Item.tokens, htokens], hnesting⟩

theorem IsBody.named (h : IsBody depth brace ts) (key : String) (word colon : Span)
    (name : Scalar) :
    IsItem depth key word
      (colon.token .colon :: name.token :: brace.token .leftBrace :: ts) := by
  obtain ⟨b, htokens, hnesting⟩ := h
  exact ⟨.named key word colon name b, by rw [Grammar.Item.tokens, htokens], hnesting⟩

end Wholes

/-! ## Stuck parsers -/

/-- The error complains about the token. -/
structure Blames (path : String) (e : SyntaxError) (t : Token) : Prop where
  path_eq : e.path = path
  position : e.position = t.start
  cause : e.cause = .nestingTooDeep ∨ ∃ expected, e.cause = .unexpected expected t.kind

theorem blames_unexpected (t : Token) (expected : Expectation) :
    Blames path (.unexpected path t expected) t :=
  ⟨rfl, rfl, .inr ⟨expected, rfl⟩⟩

def Reads {α : Type} (parser : List Token → Except SyntaxError α) (ts : List Token) : Prop :=
  ∃ r, parser ts = .ok r

/-- The error complains about a token up to which the tokens begin something whole, and beyond which
they are not read. -/
def Stuck (path : String) (whole reads : List Token → Prop) (ts : List Token) (e : SyntaxError) :
    Prop :=
  ∃ before t after, ts = before ++ t :: after ∧ Blames path e t ∧ Begins whole before ∧
    ∀ after', ¬ reads (before ++ t :: after')

section Stuck

variable {whole reads whole' reads' : List Token → Prop} {ts : List Token} {e : SyntaxError}

theorem stuck_here {t : Token} (after : List Token) (hblames : Blames path e t)
    (hwhole : Begins whole []) (hreads : ∀ after', ¬ reads (t :: after')) :
    Stuck path whole reads (t :: after) e :=
  ⟨[], t, after, rfl, hblames, hwhole, hreads⟩

theorem Stuck.under (h : Stuck path whole reads ts e) (front : List Token)
    (hwhole : ∀ ts', whole ts' → Begins whole' (front ++ ts'))
    (hreads : ∀ ts', ts'.head? = ts.head? → reads' (front ++ ts') → reads ts') :
    Stuck path whole' reads' (front ++ ts) e := by
  obtain ⟨before, t, after, rfl, hblames, ⟨rest, hrest⟩, hstuck⟩ := h
  refine ⟨front ++ before, t, after, by rw [List.append_assoc], hblames, ?_, ?_⟩
  · obtain ⟨more, hmore⟩ := hwhole _ hrest
    exact ⟨rest ++ more, by simpa only [List.append_assoc] using hmore⟩
  · intro after' hread
    rw [List.append_assoc] at hread
    refine hstuck after' (hreads _ ?_ hread)
    rw [List.head?_append, List.head?_append]
    rfl

end Stuck

theorem Ends.exists_cons {ts : List Token} (h : Ends ts) : ∃ t rest, ts = t :: rest := by
  obtain ⟨t, ht, _⟩ := h
  exact List.exists_cons_of_ne_nil (List.ne_nil_of_mem ht)

/-! ## Lists -/

theorem exists_scalar {t : Token}
    (h : (∃ text, t.kind = .word text) ∨ ∃ text, t.kind = .quoted text) :
    ∃ s : Scalar, t = s.token := by
  obtain ⟨kind, start, stop⟩ := t
  rcases h with ⟨text, rfl⟩ | ⟨text, rfl⟩
  · exact ⟨.word text ⟨start, stop⟩, rfl⟩
  · exact ⟨.quoted text ⟨start, stop⟩, rfl⟩

/-- A parser of single values complains about the next token, which is none. -/
theorem exists_of_scalar_error {ts : List Token} {e : SyntaxError} (hends : Ends ts)
    (h : scalar path ts = .error e) :
    ∃ t rest, ts = t :: rest ∧ Blames path e t ∧ ∀ s : Scalar, t ≠ s.token := by
  unfold scalar at h
  split at h
  · cases h
  · cases h
  · rename_i hword hquoted
    cases h
    obtain ⟨t, rest, rfl⟩ := hends.exists_cons
    refine ⟨t, rest, rfl, blames_unexpected t _, ?_⟩
    rintro s rfl
    cases s with
    | word text span => exact hword _ _ _ _ rfl
    | quoted text span => exact hquoted _ _ _ _ rfl

theorem reads_of_bracket {bracket : Span} {ts : List Token}
    (h : Reads (readElement path depth) (bracket.token .leftBracket :: ts)) :
    Reads (readList path depth bracket.start) ts := by
  obtain ⟨⟨v, stop, rest⟩, h⟩ := h
  generalize hts : bracket.token .leftBracket :: ts = all at h
  cases readElement_eq_ok.1 h with
  | list bracket' h =>
    simp only [List.cons.injEq, Grammar.Span.token_inj, and_true] at hts
    obtain ⟨rfl, rfl⟩ := hts
    exact ⟨_, h⟩
  | _ => simp at hts

theorem reads_of_key {key : Scalar} {colon : Span} {ts : List Token}
    (h : Reads (readElement path depth) (key.token :: colon.token .colon :: ts)) :
    (∃ bracket rest, ts = Span.token bracket .leftBracket :: rest ∧
      Reads (readList path depth bracket.start) rest) ∨
    ∃ (s : Scalar) (rest : List Token), ts = s.token :: rest := by
  obtain ⟨⟨v, stop, rest⟩, h⟩ := h
  generalize hts : key.token :: colon.token .colon :: ts = all at h
  cases readElement_eq_ok.1 h with
  | list bracket h => simp at hts
  | listPair key' colon' bracket h =>
    exact .inl ⟨bracket, _, (List.cons.inj (List.cons.inj hts).2).2, _, h⟩
  | pair key' colon' s => exact .inr ⟨s, _, (List.cons.inj (List.cons.inj hts).2).2⟩
  | scalar s hcolon =>
    obtain rfl := (List.cons.inj hts).2
    exact absurd hcolon Grammar.not_notNext

def ElementsStuck (path : String) (n : Nat) : Prop :=
  ∀ (depth line : Nat) (bracket : Span) (ts : List Token) (e : SyntaxError), ts.length < n →
    depth + 1 ≤ maxNesting → Ends ts → elements path (depth + 1) line ts = .error e →
      Stuck path (IsList depth bracket) (Reads (readElements path (depth + 1) line)) ts e

theorem stuck_of_list (hn : ElementsStuck path n) (bracket : Span) {body : List Token}
    {e : SyntaxError} (hbody : body.length < n) (hends : Ends body)
    (h : list path depth bracket.start body = .error e) :
    (maxNesting ≤ depth ∧ Blames path e (bracket.token .leftBracket)) ∨
      Stuck path (IsList depth bracket) (Reads (readList path depth bracket.start)) body e := by
  rw [list] at h
  split at h
  · rename_i hdepth
    cases h
    exact .inl ⟨hdepth, rfl, rfl, .inl rfl⟩
  · rename_i hdepth
    rcases bind_eq_error.1 h with h | ⟨_, _, h⟩
    · refine .inr ((hn depth _ bracket body e hbody (Nat.lt_of_not_le hdepth) hends h).under []
        (fun ts' hts' => ⟨[], by simpa using hts'⟩) ?_)
      rintro ts' _ ⟨⟨v, stop, rest⟩, hread⟩
      obtain ⟨_, vs, helements, _⟩ := readList_eq_ok.1 hread
      exact ⟨_, helements⟩
    · cases h

theorem not_reads_list_of_le (hdepth : maxNesting ≤ depth) {bracket : Position} {ts : List Token} :
    ¬ Reads (readList path depth bracket) ts := by
  rintro ⟨⟨v, stop, rest⟩, hread⟩
  exact absurd (readList_eq_ok.1 hread).1 (Nat.not_le.2 (Nat.lt_succ_of_le hdepth))

theorem stuck_of_pair (hn : ElementsStuck path n) (hdepth : depth ≤ maxNesting) {first : Token}
    (hfirst : ∃ key : Scalar, first = key.token) (colon : Span) {rest : List Token}
    {e : SyntaxError} (hrest : rest.length < n) (hends : Ends rest)
    (h : (∃ bracket body, rest = Span.token bracket .leftBracket :: body ∧
        list path depth bracket.start body = .error e) ∨
      (∀ bracket body, rest ≠ Span.token bracket .leftBracket :: body) ∧
        scalar path rest = .error e) :
    Stuck path (IsElement depth) (Reads (readElement path depth))
      (first :: colon.token .colon :: rest) e := by
  obtain ⟨key, rfl⟩ := hfirst
  have hvalue : IsElement depth [key.token, colon.token .colon, (Scalar.word "" anywhere).token] :=
    isElement_pair key colon _ hdepth
  rcases h with ⟨bracket, body, rfl, h⟩ | ⟨hbracket, h⟩
  · have hbody : body.length < n := Nat.lt_of_succ_lt hrest
    rcases stuck_of_list hn bracket hbody (hends.tail (by simp [Span.token])) h with
      ⟨hdeep, hblames⟩ | hstuck
    · refine ⟨[key.token, colon.token .colon], _, body, rfl, hblames, ⟨_, hvalue⟩, ?_⟩
      intro after' hread
      rcases reads_of_key hread with ⟨bracket', rest, heq, hread⟩ | ⟨s, rest, heq⟩
      · exact not_reads_list_of_le hdeep hread
      · simp at heq
    · refine hstuck.under [key.token, colon.token .colon, bracket.token .leftBracket]
        (fun ts' hlist => ⟨[], by simpa using hlist.listPair key colon⟩) ?_
      intro ts' _ hread
      rcases reads_of_key hread with ⟨bracket', rest, heq, hread⟩ | ⟨s, rest, heq⟩
      · obtain ⟨hsame, rfl⟩ := List.cons.inj heq
        obtain rfl := (Grammar.Span.token_inj.1 hsame).1
        exact hread
      · simp at heq
  · obtain ⟨t, rest, rfl, hblames, hscalar⟩ := exists_of_scalar_error hends h
    refine ⟨[key.token, colon.token .colon], t, rest, rfl, hblames, ⟨_, hvalue⟩, ?_⟩
    intro after' hread
    rcases reads_of_key hread with ⟨bracket, rest', heq, _⟩ | ⟨s, rest', heq⟩
    · exact hbracket bracket rest (by rw [(List.cons.inj heq).1])
    · exact hscalar s (List.cons.inj heq).1

theorem stuck_of_element (hn : ElementsStuck path n) (hdepth : depth ≤ maxNesting)
    {ts : List Token} {e : SyntaxError} (hts : ts.length ≤ n) (hends : Ends ts)
    (h : element path depth ts = .error e) :
    Stuck path (IsElement depth) (Reads (readElement path depth)) ts e := by
  have hvalue : IsElement depth [(Scalar.word "" anywhere).token] := isElement_scalar _ hdepth
  rw [element.eq_def] at h
  split at h
  case h_1 p q body =>
    let bracket : Span := ⟨p, q⟩
    have hreads : ∀ ts', Reads (readElement path depth) (bracket.token .leftBracket :: ts') →
        Reads (readList path depth p) ts' := fun ts' => reads_of_bracket
    rcases bind_eq_error.1 h with h | ⟨_, _, h⟩
    · rcases stuck_of_list hn bracket hts (hends.tail (by simp)) h with ⟨hdeep, hblames⟩ | hstuck
      · exact stuck_here _ hblames ⟨_, hvalue⟩ fun after' hread =>
          not_reads_list_of_le hdeep (hreads after' hread)
      · exact hstuck.under [bracket.token .leftBracket]
          (fun ts' hlist => ⟨[], by simpa using hlist.element⟩) fun ts' _ => hreads ts'
    · cases h
  -- The key of a pair is a word or a quoted string.
  case h_2 | h_3 =>
    rename_i key p q p' q' rest
    have hrest : Ends rest := (hends.tail (by simp)).tail (by simp)
    have hpair : (∃ bracket body, rest = Span.token bracket .leftBracket :: body ∧
          list path depth bracket.start body = .error e) ∨
        (∀ bracket body, rest ≠ Span.token bracket .leftBracket :: body) ∧
          scalar path rest = .error e := by
      split at h
      · rename_i p'' q'' body
        rcases bind_eq_error.1 h with h | ⟨_, _, h⟩
        · exact .inl ⟨⟨p'', q''⟩, body, rfl, h⟩
        · cases h
      · rename_i hbracket
        rcases bind_eq_error.1 h with h | ⟨_, _, h⟩
        · exact .inr ⟨fun bracket body => hbracket _ _ body, h⟩
        · cases h
    exact stuck_of_pair hn hdepth (exists_scalar (by simp)) ⟨p', q'⟩ (Nat.lt_of_succ_lt hts)
      hrest hpair
  case h_4 hbracket _ _ =>
    obtain ⟨t, rest, rfl, hblames, hscalar⟩ := exists_of_scalar_error hends h
    refine stuck_here rest hblames ⟨_, hvalue⟩ ?_
    rintro after' ⟨⟨v, stop, rest'⟩, hread⟩
    generalize hafter : t :: after' = all at hread
    cases readElement_eq_ok.1 hread with
    | list bracket h => exact hbracket _ _ _ (by rw [(List.cons.inj hafter).1]; rfl)
    | listPair key colon bracket h => exact hscalar key (List.cons.inj hafter).1
    | pair key colon s => exact hscalar key (List.cons.inj hafter).1
    | scalar s h => exact hscalar s (List.cons.inj hafter).1

theorem isElement_of_readElement {read rest : List Token} {v : Value} {stop : Position}
    (hdepth : depth ≤ maxNesting)
    (h : readElement path depth (read ++ rest) = .ok (v, stop, rest)) : IsElement depth read := by
  obtain ⟨e, htokens, hnesting, _⟩ :=
    exists_of_readElement (listsSpelled path _) hdepth (Nat.le_refl _) h
  exact ⟨e, (List.append_cancel_right htokens).symm, hnesting⟩

theorem reads_of_elements {line : Nat} {read rest : List Token} {v : Value} {stop : Position}
    (helement : readElement path depth (read ++ rest) = .ok (v, stop, rest))
    (h : Reads (readElements path depth line) (read ++ rest)) :
    (∃ close after, rest = Span.token close .rightBracket :: after) ∨
      ∃ comma after, rest = Span.token comma .comma :: after ∧
        Reads (readElements path depth line) after := by
  obtain ⟨⟨vs, last, left⟩, h⟩ := h
  generalize read ++ rest = all at helement h
  cases readElements_eq_ok.1 h with
  | close close => exact absurd rfl ((readElement_eq_ok.1 helement).notNext.1 _ rfl)
  | last close hlast =>
    rw [helement] at hlast
    cases hlast
    exact .inl ⟨close, left, rfl⟩
  | cons comma hnext hrest =>
    rw [helement] at hnext
    cases hnext
    exact .inr ⟨comma, _, rfl, _, hrest⟩

section Separators

variable {line : Nat} {read after : List Token} {v : Value} {stop : Position} {e : SyntaxError}

theorem stuck_of_comma (hn : ElementsStuck path n) (hdepth : depth + 1 ≤ maxNesting)
    (bracket comma : Span) (hafter : after.length < n) (hends : Ends after)
    (hread : ∀ rest, rest.head? = some (comma.token .comma) →
      readElement path (depth + 1) (read ++ rest) = .ok (v, stop, rest))
    (h : elements path (depth + 1) line after = .error e) :
    Stuck path (IsList depth bracket) (Reads (readElements path (depth + 1) line))
      (read ++ comma.token .comma :: after) e := by
  have hwhole : IsElement (depth + 1) read :=
    isElement_of_readElement hdepth (hread (comma.token .comma :: after) rfl)
  have hstuck := hn depth line comma after e hafter hdepth hends h
  rw [List.append_cons]
  refine hstuck.under _ (fun ts' hlist => ⟨[], ?_⟩) ?_
  · simpa using hwhole.cons hlist bracket
  · intro ts' _ hlist
    rw [← List.append_cons] at hlist
    rcases reads_of_elements (hread (comma.token .comma :: ts') rfl) hlist with
      ⟨close, left, heq⟩ | ⟨comma', left, heq, hrest⟩
    · simp at heq
    · obtain rfl := (List.cons.inj heq).2
      exact hrest

theorem stuck_of_separator (hdepth : depth + 1 ≤ maxNesting) (bracket : Span) {t : Token}
    (hcomma : t.kind ≠ .comma) (hclose : t.kind ≠ .rightBracket) (hblames : Blames path e t)
    (hread : ∀ rest, rest.head? = some t →
      readElement path (depth + 1) (read ++ rest) = .ok (v, stop, rest)) :
    Stuck path (IsList depth bracket)
      (Reads (readElements path (depth + 1) line)) (read ++ t :: after) e := by
  have hwhole : IsElement (depth + 1) read :=
    isElement_of_readElement hdepth (hread (t :: after) rfl)
  refine ⟨read, t, after, rfl, hblames, ⟨_, hwhole.last bracket anywhere⟩, ?_⟩
  intro after' hlist
  rcases reads_of_elements (hread (t :: after') rfl) hlist with
    ⟨close, left, heq⟩ | ⟨comma, left, heq, _⟩
  · obtain rfl := (List.cons.inj heq).1
    exact hclose rfl
  · obtain rfl := (List.cons.inj heq).1
    exact hcomma rfl

end Separators

/-- The induction is on the number of tokens: what follows a comma is fewer, and so are the elements
of a list inside the list. -/
theorem elementsStuck (path : String) (n : Nat) : ElementsStuck path n := by
  induction n with
  | zero => exact fun _ _ _ _ _ hts => absurd hts (Nat.not_lt_zero _)
  | succ n ih =>
    intro depth line bracket ts e hts hdepth hends h
    rw [elements.eq_def] at h
    split at h
    · cases h
    · cases h
      refine stuck_here _ (blames_unexpected _ _) ⟨_, isList_empty bracket anywhere hdepth⟩ ?_
      rintro after' ⟨⟨vs, stop, rest'⟩, hread⟩
      cases readElements_eq_ok.1 hread with
      | last close h => exact absurd rfl ((readElement_eq_ok.1 h).notNext.2 _ rfl)
      | cons comma h hrest => exact absurd rfl ((readElement_eq_ok.1 h).notNext.2 _ rfl)
    · rename_i hbracket _
      rcases bind_eq_error.1 h with h | ⟨⟨v, stop, rest, shorter⟩, helement, h⟩
      · refine (stuck_of_element ih hdepth (Nat.le_of_lt_succ hts) hends h).under []
          (fun ts' helement => ⟨_, helement.last bracket anywhere⟩) ?_
        rintro ts' hhead ⟨⟨vs, stop, rest⟩, hread⟩
        rw [List.nil_append] at hread
        cases readElements_eq_ok.1 hread with
        | close close =>
          obtain ⟨after, rfl⟩ := List.head?_eq_some_iff.1 hhead.symm
          exact absurd rfl (hbracket _ _ _)
        | last close h => exact ⟨_, h⟩
        | cons comma h hrest => exact ⟨_, h⟩
      · have hread := forgetAfter_eq_ok.2 ⟨shorter, helement⟩
        obtain ⟨hrest, _⟩ := rest_of_element hdepth hends hread
        obtain ⟨read, rfl, hreads⟩ := exists_read_of_readElement hread
        simp only at h
        split at h
        · rename_i p q after _ _ _ _
          have hafter : after.length < n := by
            simp only [List.length_append, List.length_cons] at hts
            omega
          rcases bind_eq_error.1 h with h | ⟨_, _, h⟩
          · exact stuck_of_comma ih hdepth bracket ⟨p, q⟩ hafter (hrest.tail (by simp)) hreads h
          · cases h
        · cases h
        · rename_i hcomma hclose
          obtain ⟨t, after, rfl⟩ := hrest.exists_cons
          cases h
          have hseparator : t.kind ≠ .comma ∧ t.kind ≠ .rightBracket := by
            rcases t with ⟨kind, p, q⟩
            constructor
            · rintro rfl
              exact hcomma _ _ _ _ rfl HEq.rfl
            · rintro rfl
              exact hclose _ _ _ _ rfl HEq.rfl
          exact stuck_of_separator hdepth bracket hseparator.1 hseparator.2 (blames_unexpected t _)
            hreads

/-! ## Blocks -/

theorem isItem_of_readItem {key : String} (word : Span) {read rest : List Token} {i : Item}
    (hdepth : depth ≤ maxNesting)
    (h : readItem path depth key word.start (read ++ rest) = .ok (i, rest)) :
    IsItem depth key word read := by
  obtain ⟨t, htokens, hnesting, _⟩ :=
    exists_of_readItem (itemsSpelled path _) hdepth (Nat.le_refl _) h
  rw [← List.cons_append] at htokens
  exact ⟨t, (List.append_cancel_right htokens).symm, hnesting⟩

theorem isItems_of_readItems {read rest : List Token} {all : List Item}
    (hdepth : depth ≤ maxNesting) (h : readItems path depth (read ++ rest) = .ok (all, rest)) :
    IsItems depth read := by
  obtain ⟨is, htokens, hnesting, _⟩ :=
    itemsSpelled path _ depth _ rest all (Nat.lt_succ_self _) hdepth h
  exact ⟨is, (List.append_cancel_right htokens).symm, hnesting⟩

section Reads

variable {key : String} {start : Position} {colon brace bracket : Span} {ts : List Token}

theorem reads_of_anonymous
    (h : Reads (readItem path depth key start)
      (colon.token .colon :: brace.token .leftBrace :: ts)) :
    Reads (readBlock path depth key none start brace.start) ts := by
  obtain ⟨⟨i, rest⟩, h⟩ := h
  generalize hts : colon.token .colon :: brace.token .leftBrace :: ts = all at h
  cases readItem_eq_ok.1 h with
  | anonymous colon' brace' hblock =>
    simp only [List.cons.injEq, Grammar.Span.token_inj, and_true] at hts
    obtain ⟨_, rfl, rfl⟩ := hts
    exact ⟨_, hblock⟩
  | _ => simp at hts

theorem reads_of_list
    (h : Reads (readItem path depth key start)
      (colon.token .colon :: bracket.token .leftBracket :: ts)) :
    Reads (readList path depth bracket.start) ts := by
  obtain ⟨⟨i, rest⟩, h⟩ := h
  generalize hts : colon.token .colon :: bracket.token .leftBracket :: ts = all at h
  cases readItem_eq_ok.1 h with
  | list colon' bracket' hlist =>
    simp only [List.cons.injEq, Grammar.Span.token_inj, and_true] at hts
    obtain ⟨_, rfl, rfl⟩ := hts
    exact ⟨_, hlist⟩
  | _ => simp at hts

theorem reads_of_named {name : Scalar}
    (h : Reads (readItem path depth key start)
      (colon.token .colon :: name.token :: brace.token .leftBrace :: ts)) :
    Reads (readBlock path depth key (some name.text) start brace.start) ts := by
  obtain ⟨⟨i, rest⟩, h⟩ := h
  generalize hts : colon.token .colon :: name.token :: brace.token .leftBrace :: ts = all at h
  cases readItem_eq_ok.1 h with
  | named colon' name' brace' hblock =>
    simp only [List.cons.injEq, Grammar.Span.token_inj, Grammar.Scalar.token_inj, and_true] at hts
    obtain ⟨_, rfl, rfl, rfl⟩ := hts
    exact ⟨_, hblock⟩
  | scalar colon' s hbrace =>
    obtain rfl := (List.cons.inj (List.cons.inj hts).2).2
    exact absurd hbrace Grammar.not_notNext
  | _ => simp at hts

theorem reads_of_items {word : Span}
    (h : Reads (readItems path depth) (word.token (.word key) :: ts)) :
    ∃ i between, readItem path depth key word.start ts = .ok (i, between) ∧
      Reads (readItems path depth) between := by
  obtain ⟨⟨all, rest⟩, h⟩ := h
  generalize hts : word.token (.word key) :: ts = tokens at h
  cases readItems_eq_ok.1 h with
  | nil hword =>
    rw [← hts] at hword
    exact absurd (hword key) Grammar.not_notNext
  | cons key' word' hitem hrest =>
    simp only [List.cons.injEq, Grammar.Span.token_inj, TokenKind.word.injEq] at hts
    obtain ⟨⟨rfl, rfl⟩, rfl⟩ := hts
    exact ⟨_, _, hitem, _, hrest⟩

end Reads

def ItemsStuck (path : String) (n : Nat) : Prop :=
  ∀ (depth : Nat) (ts : List Token) (e : SyntaxError), ts.length < n → depth ≤ maxNesting →
    Ends ts → items path depth ts = .error e →
      Stuck path (IsItems depth) (Reads (readItems path depth)) ts e

theorem not_reads_block_of_le (hdepth : maxNesting ≤ depth) {keyword : String}
    {name : Option String} {start brace : Position} {ts : List Token} :
    ¬ Reads (readBlock path depth keyword name start brace) ts := by
  rintro ⟨⟨b, rest⟩, hread⟩
  exact absurd (readBlock_eq_ok.1 hread).1 (Nat.not_le.2 (Nat.lt_succ_of_le hdepth))

theorem stuck_of_block (hn : ItemsStuck path n) {keyword : String} {name : Option String}
    {start : Position} (brace : Span) {body : List Token} {e : SyntaxError}
    (hbody : body.length < n) (hends : Ends body)
    (h : block path depth keyword name start brace.start body = .error e) :
    (maxNesting ≤ depth ∧ Blames path e (brace.token .leftBrace)) ∨
      Stuck path (IsBody depth brace)
        (Reads (readBlock path depth keyword name start brace.start)) body e := by
  rw [block] at h
  split at h
  · rename_i hdepth
    cases h
    exact .inl ⟨hdepth, rfl, rfl, .inl rfl⟩
  · rename_i hopen
    have hdepth : depth + 1 ≤ maxNesting := Nat.lt_of_not_le hopen
    right
    rcases bind_eq_error.1 h with h | ⟨⟨inner, rest, shorter⟩, hitems, h⟩
    · refine (hn (depth + 1) body e hbody hdepth hends h).under []
        (fun ts' hitems => ⟨_, hitems.body brace anywhere⟩) ?_
      rintro ts' _ ⟨⟨b, rest⟩, hread⟩
      obtain ⟨_, all, close, hitems, _⟩ := readBlock_eq_ok.1 hread
      exact ⟨_, hitems⟩
    · have hread := forget_eq_ok.2 ⟨shorter, hitems⟩
      obtain ⟨hrest, _⟩ := rest_of_items hdepth hends hread
      obtain ⟨read, hall, hreads⟩ := exists_read_of_readItems hread
      have hwhole : IsItems (depth + 1) read := isItems_of_readItems hdepth (hall ▸ hread)
      simp only at h
      split at h
      · cases h
      · rename_i hclose
        obtain ⟨t, after, rfl⟩ := hrest.exists_cons
        cases h
        refine ⟨read, t, after, hall, blames_unexpected t _, ⟨_, hwhole.body brace anywhere⟩, ?_⟩
        rintro after' ⟨⟨b, rest⟩, hread⟩
        obtain ⟨_, all, close, hitems, _⟩ := readBlock_eq_ok.1 hread
        have hsame := (hreads (t :: after') rfl).symm.trans hitems
        obtain rfl : t = close.token .rightBrace := by
          cases hsame
          rfl
        exact hclose _ _ _ _ rfl HEq.rfl

theorem stuck_of_anonymous (hn : ItemsStuck path n) (hdepth : depth ≤ maxNesting) {key : String}
    (word colon brace : Span) {body : List Token} {e : SyntaxError} (hbody : body.length < n)
    (hends : Ends body) (h : block path depth key none word.start brace.start body = .error e) :
    Stuck path (IsItem depth key word) (Reads (readItem path depth key word.start))
      (colon.token .colon :: brace.token .leftBrace :: body) e := by
  rcases stuck_of_block hn brace hbody hends h with ⟨hdeep, hblames⟩ | hstuck
  · have hvalue := isItem_scalar key word colon (.word "" anywhere) hdepth
    refine ⟨[colon.token .colon], _, body, rfl, hblames, ⟨_, hvalue⟩, ?_⟩
    exact fun after' hread => not_reads_block_of_le hdeep (reads_of_anonymous hread)
  · exact hstuck.under [colon.token .colon, brace.token .leftBrace]
      (fun ts' hwhole => ⟨[], by simpa using hwhole.anonymous key word colon⟩)
      fun ts' _ => reads_of_anonymous

theorem stuck_of_named (hn : ItemsStuck path n) (hdepth : depth ≤ maxNesting) {key : String}
    (word colon : Span) (name : Scalar) (brace : Span) {body : List Token} {e : SyntaxError}
    (hbody : body.length < n) (hends : Ends body)
    (h : block path depth key (some name.text) word.start brace.start body = .error e) :
    Stuck path (IsItem depth key word) (Reads (readItem path depth key word.start))
      (colon.token .colon :: name.token :: brace.token .leftBrace :: body) e := by
  rcases stuck_of_block hn brace hbody hends h with ⟨hdeep, hblames⟩ | hstuck
  · have hvalue := isItem_scalar key word colon name hdepth
    refine ⟨[colon.token .colon, name.token], _, body, rfl, hblames, ⟨[], hvalue⟩, ?_⟩
    exact fun after' hread => not_reads_block_of_le hdeep (reads_of_named hread)
  · exact hstuck.under [colon.token .colon, name.token, brace.token .leftBrace]
      (fun ts' hwhole => ⟨[], by simpa using hwhole.named key word colon name⟩)
      fun ts' _ => reads_of_named

theorem stuck_of_listItem (hdepth : depth ≤ maxNesting) {key : String}
    (word colon bracket : Span) {body : List Token} {e : SyntaxError} (hends : Ends body)
    (h : list path depth bracket.start body = .error e) :
    Stuck path (IsItem depth key word) (Reads (readItem path depth key word.start))
      (colon.token .colon :: bracket.token .leftBracket :: body) e := by
  rcases stuck_of_list (elementsStuck path _) bracket (Nat.lt_succ_self _) hends h with
    ⟨hdeep, hblames⟩ | hstuck
  · have hvalue := isItem_scalar key word colon (.word "" anywhere) hdepth
    refine ⟨[colon.token .colon], _, body, rfl, hblames, ⟨_, hvalue⟩, ?_⟩
    exact fun after' hread => not_reads_list_of_le hdeep (reads_of_list hread)
  · exact hstuck.under [colon.token .colon, bracket.token .leftBracket]
      (fun ts' hwhole => ⟨[], by simpa using hwhole.item key word colon⟩)
      fun ts' _ => reads_of_list

theorem stuck_of_item (hn : ItemsStuck path n) (hdepth : depth ≤ maxNesting) {key : String}
    (word : Span) {ts : List Token} {e : SyntaxError} (hts : ts.length ≤ n) (hends : Ends ts)
    (h : item path depth key word.start ts = .error e) :
    Stuck path (IsItem depth key word) (Reads (readItem path depth key word.start)) ts e := by
  have hvalue := fun colon => isItem_scalar key word colon (.word "" anywhere) hdepth
  rw [item.eq_def] at h
  split at h
  · rename_i p q rest
    have hrest : Ends rest := hends.tail (by simp)
    split at h
    case h_1 p' q' body =>
      rcases bind_eq_error.1 h with h | ⟨_, _, h⟩
      · exact stuck_of_anonymous hn hdepth word ⟨p, q⟩ ⟨p', q'⟩ (Nat.lt_of_succ_lt hts)
          (hrest.tail (by simp)) h
      · cases h
    case h_2 p' q' body =>
      rcases bind_eq_error.1 h with h | ⟨_, _, h⟩
      · exact stuck_of_listItem hdepth word ⟨p, q⟩ ⟨p', q'⟩ (hrest.tail (by simp)) h
      · cases h
    case h_3 => cases h
    case h_4 name p' q' p'' q'' body =>
      rcases bind_eq_error.1 h with h | ⟨_, _, h⟩
      · exact stuck_of_named hn hdepth word ⟨p, q⟩ (.word name ⟨p', q'⟩) ⟨p'', q''⟩
          (Nat.lt_of_succ_lt (Nat.lt_of_succ_lt hts)) ((hrest.tail (by simp)).tail (by simp)) h
      · cases h
    case h_5 name p' q' p'' q'' body =>
      rcases bind_eq_error.1 h with h | ⟨_, _, h⟩
      · exact stuck_of_named hn hdepth word ⟨p, q⟩ (.quoted name ⟨p', q'⟩) ⟨p'', q''⟩
          (Nat.lt_of_succ_lt (Nat.lt_of_succ_lt hts)) ((hrest.tail (by simp)).tail (by simp)) h
      · cases h
    case h_6 | h_7 => cases h
    case h_8 hbrace hbracket hexpression _ _ hword hquoted =>
      let colon : Span := ⟨p, q⟩
      obtain ⟨t, after, rfl⟩ := hrest.exists_cons
      cases h
      refine ⟨[colon.token .colon], t, after, rfl, blames_unexpected t _, ⟨_, hvalue colon⟩, ?_⟩
      intro after' hread
      have hscalar : ∀ s : Scalar, t ≠ s.token := by
        rintro (⟨text, span⟩ | ⟨text, span⟩) rfl
        · exact hword _ _ _ _ rfl
        · exact hquoted _ _ _ _ rfl
      obtain ⟨⟨i, rest⟩, hread⟩ := hread
      generalize hts' : [colon.token .colon] ++ t :: after' = all at hread
      cases readItem_eq_ok.1 hread with
      | anonymous colon' brace hblock =>
        obtain rfl := (List.cons.inj (List.cons.inj hts').2).1
        exact hbrace _ _ _ rfl
      | list colon' bracket hlist =>
        obtain rfl := (List.cons.inj (List.cons.inj hts').2).1
        exact hbracket _ _ _ rfl
      | expression colon' text span =>
        obtain rfl := (List.cons.inj (List.cons.inj hts').2).1
        exact hexpression _ _ _ _ rfl
      | named colon' name brace hblock => exact hscalar name (List.cons.inj (List.cons.inj hts').2).1
      | scalar colon' s hnext => exact hscalar s (List.cons.inj (List.cons.inj hts').2).1
  · rename_i hcolon
    obtain ⟨t, after, rfl⟩ := hends.exists_cons
    cases h
    refine stuck_here after (blames_unexpected t _) ⟨_, hvalue anywhere⟩ ?_
    rintro after' ⟨⟨i, rest⟩, hread⟩
    generalize hts' : t :: after' = all at hread
    cases readItem_eq_ok.1 hread
    all_goals
      obtain rfl := (List.cons.inj hts').1
      exact hcolon _ _ _ rfl

/-- The induction is on the number of tokens: the items after the first one are fewer, and so are
those of a block. -/
theorem itemsStuck (path : String) (n : Nat) : ItemsStuck path n := by
  induction n with
  | zero => exact fun _ _ _ hts => absurd hts (Nat.not_lt_zero _)
  | succ n ih =>
    intro depth ts e hts hdepth hends h
    rw [items.eq_def] at h
    split at h
    · rename_i key start stop after
      let word : Span := ⟨start, stop⟩
      have hafter : Ends after := hends.tail (by simp)
      have hlength : after.length ≤ n := Nat.le_of_lt_succ (Nat.lt_of_succ_lt hts)
      rcases bind_eq_error.1 h with h | ⟨⟨first, rest, shorter⟩, hitem, h⟩
      · refine (stuck_of_item ih hdepth word hlength hafter h).under [word.token (.word key)]
          (fun ts' hwhole => ⟨[], by simpa using hwhole.cons (isItems_nil hdepth)⟩) ?_
        intro ts' _ hread
        obtain ⟨i, between, hitem, _⟩ := reads_of_items hread
        exact ⟨_, hitem⟩
      · have hread := forget_eq_ok.2 ⟨shorter, hitem⟩
        obtain ⟨hrest, _⟩ := rest_of_item word hdepth hends hread
        obtain ⟨read, rfl, hreads⟩ := exists_read_of_readItem hread
        have hwhole : IsItem depth key word read := isItem_of_readItem word hdepth hread
        rcases bind_eq_error.1 h with h | ⟨_, _, h⟩
        · refine (ih depth rest e (Nat.lt_of_lt_of_le shorter hlength) hdepth hrest h).under
            (word.token (.word key) :: read)
            (fun ts' hitems => ⟨[], by simpa using hwhole.cons hitems⟩) ?_
          intro ts' hhead hread
          obtain ⟨i, between, hitem, hitems⟩ := reads_of_items hread
          cases hitem.symm.trans (hreads ts' hhead)
          exact hitems
        · cases h
    · cases h

/-! ## Main statement -/

/-- The tokens are a document, but for the end of input: items that are nested no deeper than
allowed. -/
def Accepted (ts : List Token) : Prop :=
  ∃ is, itemTokens is = ts ∧ itemNesting is ≤ maxNesting

theorem stuck_of_ofTokens {ts : List Token} {e : SyntaxError} (hends : Ends ts)
    (h : ofTokens path ts = .error e) :
    Stuck path (IsItems 0) (Reads (ofTokens path)) ts e := by
  unfold ofTokens at h
  rcases bind_eq_error.1 h with h | ⟨⟨all, rest, shorter⟩, hitems, h⟩
  · refine (itemsStuck path _ 0 ts e (Nat.lt_succ_self _) (Nat.zero_le _) hends h).under []
      (fun ts' hitems => ⟨[], by simpa using hitems⟩) ?_
    rintro ts' _ ⟨d, hread⟩
    obtain ⟨all, rest, hitems, _⟩ := ofTokens_eq_ok.1 hread
    exact ⟨_, hitems⟩
  · have hread := forget_eq_ok.2 ⟨shorter, hitems⟩
    obtain ⟨hrest, _⟩ := rest_of_items (Nat.zero_le _) hends hread
    obtain ⟨read, hall, hreads⟩ := exists_read_of_readItems hread
    have hwhole : IsItems 0 read := isItems_of_readItems (Nat.zero_le _) (hall ▸ hread)
    simp only at h
    split at h
    · cases h
    · rename_i hend
      obtain ⟨t, after, rfl⟩ := hrest.exists_cons
      cases h
      refine ⟨read, t, after, hall, blames_unexpected t _, ⟨[], by simpa using hwhole⟩, ?_⟩
      rintro after' ⟨d, hread⟩
      obtain ⟨all', rest, hitems, hend', _⟩ := ofTokens_eq_ok.1 hread
      cases (hreads (t :: after') rfl).symm.trans hitems
      exact hend hend'

theorem Accepted.reads {ts : List Token} {eof : Token} (h : Accepted ts)
    (heof : eof.kind = .endOfInput) : Reads (ofTokens path) (ts ++ [eof]) := by
  obtain ⟨is, rfl, hnesting⟩ := h
  exact ⟨_, ofTokens_of_items heof hnesting⟩

theorem before_endOfInput {ts before after : List Token} {t eof : Token}
    (hts : ∀ t ∈ ts, t.kind ≠ .endOfInput) (hall : ts ++ [eof] = before ++ t :: after)
    (hkind : t.kind = .endOfInput) : before = ts := by
  rcases List.append_eq_append_iff.1 hall with ⟨between, rfl, hlast⟩ | ⟨between, rfl, hlast⟩
  · rcases List.singleton_eq_append_iff.1 hlast with ⟨rfl, _⟩ | ⟨_, hnone⟩
    · exact List.append_nil ts
    · cases hnone
  · cases between with
    | nil => exact (List.append_nil before).symm
    | cons _ between =>
      obtain rfl := (List.cons.inj hlast).1
      exact absurd hkind (hts t (by simp))

/-- The error complains about the token after `before`, the first one of `ts` that cannot be part of
a document. If it is the end of input, then `ts` is no document. -/
structure FirstImpossible (path : String) (ts : List Token) (e : SyntaxError)
    (before : List Token) (t : Token) : Prop where
  blames : Blames path e t
  possible : ∃ rest, Accepted (before ++ rest)
  impossible : ∀ rest, ¬ Accepted (before ++ t :: rest)
  of_endOfInput : t.kind = .endOfInput → before = ts ∧ ¬ Accepted ts

/-- Where tokens are not a document, the error stands at the first of them that cannot be part of
one: those before it begin a document, and none begins with them and it. -/
theorem error_at_first_impossible {ts : List Token} {eof : Token} {e : SyntaxError}
    (hts : ∀ t ∈ ts, t.kind ≠ .endOfInput) (heof : eof.kind = .endOfInput)
    (h : ofTokens path (ts ++ [eof]) = .error e) :
    ∃ before t after, ts ++ [eof] = before ++ t :: after ∧ FirstImpossible path ts e before t := by
  have hends : Ends (ts ++ [eof]) := ⟨eof, by simp, heof⟩
  obtain ⟨before, t, after, hall, hblames, ⟨rest, is, htokens, hnesting⟩, hstuck⟩ :=
    stuck_of_ofTokens hends h
  refine ⟨before, t, after, hall, hblames, ⟨rest, is, htokens, ?_⟩, ?_, ?_⟩
  · rwa [Nat.zero_add] at hnesting
  · intro rest hwhole
    obtain ⟨d, hread⟩ := hwhole.reads heof
    rw [List.append_assoc] at hread
    exact hstuck _ ⟨d, hread⟩
  · refine fun hkind => ⟨before_endOfInput hts hall hkind, fun hwhole => ?_⟩
    obtain ⟨d, hread⟩ := hwhole.reads heof
    rw [hread] at h
    cases h

def commaless : List Token :=
  [⟨.word "tags", ⟨1, 1⟩, ⟨1, 2⟩⟩, ⟨.colon, ⟨1, 2⟩, ⟨1, 3⟩⟩, ⟨.leftBracket, ⟨1, 3⟩, ⟨1, 4⟩⟩,
    ⟨.quoted "a", ⟨1, 4⟩, ⟨1, 5⟩⟩, ⟨.quoted "b", ⟨1, 5⟩, ⟨1, 6⟩⟩, ⟨.rightBracket, ⟨1, 6⟩, ⟨1, 7⟩⟩]

theorem error_of_commaless :
    ∃ before t after, commaless ++ [⟨.endOfInput, ⟨1, 7⟩, ⟨1, 7⟩⟩] = before ++ t :: after ∧
      FirstImpossible "f" commaless ⟨"f", ⟨1, 5⟩, .unexpected .listSeparator (.quoted "b")⟩
        before t :=
  error_at_first_impossible (by decide) rfl (by cbv)

end LookML.Document
