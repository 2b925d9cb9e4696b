import LookML.Proofs.Document.Viability
import LookML.Proofs.Token.Breaks
import LookML.Proofs.Token.Spelling
/-!
# Pairs in lists

A pair `key: "value"` is an element of a list, except for the expression keys: after one of them the
colon begins an expression also in a list, where no expression can stand. In quotes every key is
like any other.
-/

namespace LookML.Document

open Grammar (Span Scalar Element itemTokens)
open Token (ReadsAs Stops escape isExpressionKey isDelimiter)

/-- A string in quotes, with its quotes and backslashes escaped. -/
def quote (s : String) : String :=
  String.ofList ('"' :: (escape s.toList ++ ['"']))

/-- A property up to the bracket of the list it is set to. -/
def listOpening (property : String) : String :=
  property ++ ": ["

/-- A property that is set to a list of one pair. Its key is written as it stands. -/
def pairText (property key value : String) : String :=
  listOpening property ++ key ++ ": " ++ quote value ++ "]"

def pairDocument (path property key value text : String) : Document where
  path := path
  properties := [.mk property (.list [.pair key (.text value)])
    (.between path .start (Position.start.after text.toList))]
  blocks := []

variable {path property key value : String}

/-! ## The parts of such a text -/

section Parts

variable (path) {before : Option String} {p : Position} {left : List Char}

theorem exists_readsAs_word {word : String} (hword : IsWord word.toList)
    (hleft : left.head? = some ':') :
    ∃ span : Span, span.start = p ∧
      ReadsAs path before p word.toList left [span.token (.word word)] (some word) := by
  have hdelimiter : ∀ c, left.head? = some c → isDelimiter c := by
    intro c hc
    obtain rfl := Option.some.inj (hleft.symm.trans hc)
    decide
  have hread : ReadsAs path before p word.toList left _ _ := .word hword hdelimiter
  rw [String.ofList_toList] at hread
  exact ⟨⟨p, p.after word.toList⟩, rfl, hread⟩

theorem exists_readsAs_quote (s : String) : ∃ span : Span,
    ReadsAs path before p (quote s).toList left [span.token (.quoted s)] none := by
  have hread : ReadsAs path before p ('"' :: (escape s.toList ++ ['"'])) left _ none :=
    .quoted (Token.resolves_escape s.toList)
  have htext : (quote s).toList = '"' :: (escape s.toList ++ ['"']) := String.toList_ofList
  rw [String.ofList_toList] at hread
  rw [htext]
  exact ⟨⟨p, _⟩, hread⟩

theorem exists_readsAs_sign {kind : TokenKind} {c : Char} (hc : kind.sign? = some c)
    (hcolon : kind = .colon → before.filter isExpressionKey = none) : ∃ span : Span,
      span.stop = p.next c ∧ ReadsAs path before p [c] left [span.token kind] none :=
  ⟨⟨p, p.next c⟩, rfl, .sign hc hcolon⟩

theorem isBlank_space : Text.isBlank ' ' = true := by
  decide

end Parts

theorem exists_readsAs_listOpening (path : String) (hproperty : IsWord property.toList)
    (hplain : ¬ isExpressionKey property) (left : List Char) :
    ∃ word colon bracket : Span, word.start = .start ∧
      ReadsAs path none .start (listOpening property).toList left
        [word.token (.word property), colon.token .colon, bracket.token .leftBracket] none := by
  have hfilter : (some property).filter isExpressionKey = none :=
    Option.filter_some_neg (eq_false_of_ne_true hplain)
  have htext : (listOpening property).toList =
      property.toList ++ ([':'] ++ ([' '] ++ ['['])) := String.toList_append
  have hleft : ([':'] ++ ([' '] ++ ['[']) ++ left).head? = some ':' := rfl
  have hcolon : TokenKind.sign? .colon = some ':' := rfl
  have hbracket : TokenKind.sign? .leftBracket = some '[' := rfl
  obtain ⟨word, hstart, hword⟩ := exists_readsAs_word path (p := .start) hproperty hleft
  obtain ⟨colon, -, hcolon⟩ := exists_readsAs_sign path hcolon fun _ => hfilter
  obtain ⟨bracket, -, hbracket⟩ := exists_readsAs_sign path hbracket nofun
  rw [htext]
  exact ⟨word, colon, bracket, hstart,
    hword.append (hcolon.append ((ReadsAs.blank isBlank_space).append hbracket))⟩

theorem exists_readsAs_pairEnd {before : Option String} (path : String) (p : Position)
    (hbefore : before.filter isExpressionKey = none) (value : String) :
    ∃ colon span close : Span, close.stop = p.after (": " ++ quote value ++ "]").toList ∧
      ReadsAs path before p (": " ++ quote value ++ "]").toList []
        [colon.token .colon, span.token (.quoted value), close.token .rightBracket] none := by
  have htext : (": " ++ quote value ++ "]").toList =
      [':'] ++ ([' '] ++ ((quote value).toList ++ [']'])) := by
    rw [String.toList_append, String.toList_append, List.append_assoc]
    rfl
  have hcolon : TokenKind.sign? .colon = some ':' := rfl
  have hbracket : TokenKind.sign? .rightBracket = some ']' := rfl
  obtain ⟨colon, -, hcolon⟩ := exists_readsAs_sign path (p := p) hcolon fun _ => hbefore
  obtain ⟨span, hspan⟩ := exists_readsAs_quote path value
  obtain ⟨close, hstop, hclose⟩ := exists_readsAs_sign path hbracket nofun
  rw [htext]
  refine ⟨colon, span, close, ?_,
    hcolon.append ((ReadsAs.blank isBlank_space).append (hspan.append hclose))⟩
  rw [hstop, Position.after_append, Position.after_append, Position.after_append]
  rfl

/-- The written key is read as a single token, and the colon after it begins no expression. -/
def ReadsAsKey (path written key : String) : Prop :=
  ∀ p left, left.head? = some ':' → ∃ (k : Scalar) (before : Option String), k.text = key ∧
    before.filter isExpressionKey = none ∧ ReadsAs path none p written.toList left [k.token] before

theorem readsAsKey_word (hkey : IsWord key.toList) (hplain : ¬ isExpressionKey key) :
    ReadsAsKey path key key := by
  intro p left hleft
  obtain ⟨span, -, hread⟩ := exists_readsAs_word path hkey hleft
  have hbefore : (some key).filter isExpressionKey = none :=
    Option.filter_some_neg (eq_false_of_ne_true hplain)
  exact ⟨.word key span, some key, rfl, hbefore, hread⟩

theorem readsAsKey_quote (key : String) : ReadsAsKey path (quote key) key := by
  intro p left _
  obtain ⟨span, hread⟩ := exists_readsAs_quote path key
  exact ⟨.quoted key span, none, rfl, rfl, hread⟩

/-! ## Pairs that are read -/

theorem parse_pairText {written : String} (hproperty : IsWord property.toList)
    (hplain : ¬ isExpressionKey property) (hkey : ReadsAsKey path written key) (value : String) :
    parse path (pairText property written value) =
      .ok (pairDocument path property key value (pairText property written value)) := by
  have htext : (pairText property written value).toList = (listOpening property).toList ++
      (written.toList ++ (": " ++ quote value ++ "]").toList) := by
    simp [pairText]
  obtain ⟨word, colon, bracket, hstart, hopening⟩ :=
    exists_readsAs_listOpening path hproperty hplain
      (written.toList ++ (": " ++ quote value ++ "]").toList ++ [])
  obtain ⟨k, before, rfl, hbefore, hwritten⟩ :=
    hkey (Position.start.after (listOpening property).toList)
      ((": " ++ quote value ++ "]").toList ++ []) (by simp)
  obtain ⟨colon', span, close, hstop, hend⟩ := exists_readsAs_pairEnd path
    ((Position.start.after (listOpening property).toList).after written.toList) hbefore value
  have hread := hopening.append (hwritten.append hend)
  rw [← htext] at hread
  have hscan : Token.scan path (pairText property written value) =
      .ok (itemTokens [.list property word colon
        (.mk bracket (.pair k colon' (.quoted value span)) .nil close)] ++ [_]) :=
    hread.scanFrom_eq_ok
  have hlast : close.stop = Position.start.after (pairText property written value).toList := by
    rw [hstop, htext, Position.after_append, Position.after_append]
  rw [parse_of_scan hscan rfl (show 1 ≤ maxNesting by decide), pairDocument, ← hlast, ← hstart]
  rfl

/-! ## Expression keys -/

theorem exists_readsAs_expressionKey (path : String) (hproperty : IsWord property.toList)
    (hplain : ¬ isExpressionKey property) (hkey : IsWord key.toList) (rest : List Char) :
    ∃ word colon bracket span : Span,
      ReadsAs path none .start (listOpening property ++ key).toList (':' :: rest)
        [word.token (.word property), colon.token .colon, bracket.token .leftBracket,
          span.token (.word key)] (some key) := by
  obtain ⟨word, colon, bracket, -, hopening⟩ :=
    exists_readsAs_listOpening path hproperty hplain (key.toList ++ ':' :: rest)
  have hrest : (':' :: rest).head? = some ':' := rfl
  obtain ⟨span, -, hspan⟩ := exists_readsAs_word path hkey hrest
  rw [String.toList_append]
  exact ⟨word, colon, bracket, span, hopening.append hspan⟩

theorem semicolon_prefix_of_escape {cs : List Char} (h : [';'] <+: escape cs ++ ['"', ']']) :
    [';'] <+: cs := by
  cases cs with
  | nil => exact absurd h (by decide)
  | cons c cs =>
    rw [escape, List.flatMap_cons, ← escape] at h
    split at h
    · exact absurd (List.cons_prefix_cons.1 h).1 (by decide)
    · exact List.cons_prefix_cons.2 ⟨(List.cons_prefix_cons.1 h).1, List.nil_prefix⟩

theorem not_terminator_infix_escape {cs : List Char} (h : ¬ [';', ';'] <:+: cs) :
    ¬ [';', ';'] <:+: escape cs ++ ['"', ']'] := by
  induction cs with
  | nil => decide
  | cons c cs ih =>
    obtain ⟨hhead, htail⟩ := not_or.1 (List.infix_cons_iff.not.1 h)
    rw [escape, List.flatMap_cons, ← escape]
    by_cases hc : c = '"' ∨ c = '\\'
    · have hne : ';' ≠ c := by
        rintro rfl
        exact absurd hc (by decide)
      rw [if_pos hc, List.append_assoc]
      refine List.infix_cons_iff.not.2 (not_or.2 ⟨fun hp => ?_, ?_⟩)
      · exact absurd (List.cons_prefix_cons.1 hp).1 (by decide)
      · exact List.infix_cons_iff.not.2
          (not_or.2 ⟨fun hp => hne (List.cons_prefix_cons.1 hp).1, ih htail⟩)
    · rw [if_neg hc, List.append_assoc]
      refine List.infix_cons_iff.not.2 (not_or.2 ⟨fun hp => hhead ?_, ih htail⟩)
      obtain ⟨rfl, hnext⟩ := List.cons_prefix_cons.1 hp
      exact List.cons_prefix_cons.2 ⟨rfl, semicolon_prefix_of_escape hnext⟩

theorem not_reads_expression {word colon bracket key' colon' span : Span} {text : String}
    {ts : List Token} : ¬ Reads (ofTokens path) (word.token (.word property) ::
      colon.token .colon :: bracket.token .leftBracket :: key'.token (.word key) ::
        colon'.token .colon :: span.token (.expression text) :: ts) := by
  rintro ⟨d, hd⟩
  obtain ⟨all, rest, hitems, -⟩ := ofTokens_eq_ok.1 hd
  obtain ⟨i, between, hitem, -⟩ := reads_of_items ⟨_, hitems⟩
  obtain ⟨⟨v, stop, after⟩, hlist⟩ := reads_of_list ⟨_, hitem⟩
  obtain ⟨-, vs, helements, -⟩ := readList_eq_ok.1 hlist
  have helement : Reads (readElement path 1) ((Scalar.word key key').token ::
      colon'.token .colon :: span.token (.expression text) :: ts) := by
    cases readElements_eq_ok.1 helements with
    | last close h => exact ⟨_, h⟩
    | cons comma h => exact ⟨_, h⟩
  rcases reads_of_key helement with ⟨bracket', _, h, -⟩ | ⟨s, _, h⟩
  · cases h
  · cases s <;> cases h

theorem exists_expression_of_scanFrom {p : Position} {rest : List Char} {ts : List Token}
    (hkey : isExpressionKey key) (h : Token.scanFrom path (some key) p (':' :: rest) = .ok ts) :
    ∃ (colon span : Span) (text : String) (more : List Token),
      ts = colon.token .colon :: span.token (.expression text) :: more := by
  cases hsplit : splitAtTerminator (Text.trimStart rest) with
  | none =>
    rw [Token.scanFrom_unendedExpression hkey hsplit] at h
    cases h
  | some split =>
    obtain ⟨body, left⟩ := split
    obtain ⟨hbody, hfirst⟩ := splitAtTerminator_eq_some_iff.1 hsplit
    have hrest : rest.takeWhile Text.isBlank ++ (body ++ ';' :: ';' :: left) = rest :=
      hbody ▸ List.takeWhile_append_dropWhile
    rw [← hrest, Token.scanFrom_expression hkey (fun c hc => List.mem_takeWhile_imp hc)
      (Token.isBlank_head_expression hbody) hfirst] at h
    obtain ⟨more, -, rfl⟩ := map_eq_ok.1 h
    exact ⟨⟨_, _⟩, ⟨_, _⟩, _, more, rfl⟩

/-- A list in which the colon follows an expression key is not parsed, whatever comes next. -/
theorem not_parses_expressionKey (hproperty : IsWord property.toList)
    (hplain : ¬ isExpressionKey property) (hword : IsWord key.toList) (hkey : isExpressionKey key)
    (rest : String) : ¬ ∃ d, parse path (listOpening property ++ key ++ ":" ++ rest) = .ok d := by
  rintro ⟨d, hd⟩
  obtain ⟨ts, hscan, hts⟩ := bind_eq_ok.1 hd
  obtain ⟨word, colon, bracket, span, hread⟩ :=
    exists_readsAs_expressionKey path hproperty hplain hword rest.toList
  have htext : (listOpening property ++ key ++ ":" ++ rest).toList =
      (listOpening property ++ key).toList ++ ':' :: rest.toList := by
    rw [String.toList_append, String.toList_append, List.append_assoc]
    rfl
  rw [Token.scan, htext, hread _ fun _ h => h] at hscan
  obtain ⟨us, hus, rfl⟩ := map_eq_ok.1 hscan
  obtain ⟨colon', span', text, more, rfl⟩ := exists_expression_of_scanFrom hkey hus
  exact not_reads_expression ⟨d, hts⟩

/-- If no terminator follows, the list breaks off at the colon. -/
theorem parse_pairText_of_expressionKey (hproperty : IsWord property.toList)
    (hplain : ¬ isExpressionKey property) (hword : IsWord key.toList) (hkey : isExpressionKey key)
    (hvalue : ¬ [';', ';'] <:+: value.toList) :
    parse path (pairText property key value) =
      .error ⟨path, Position.start.after (listOpening property ++ key).toList,
        .unterminatedExpression key⟩ := by
  have htext : (pairText property key value).toList = (listOpening property ++ key).toList ++
      ':' :: ' ' :: '"' :: (escape value.toList ++ ['"', ']']) := by
    simp [pairText, quote]
  have hrest : ¬ [';', ';'] <:+: '"' :: (escape value.toList ++ ['"', ']']) := by
    refine List.infix_cons_iff.not.2 (not_or.2 ⟨?_, not_terminator_infix_escape hvalue⟩)
    exact fun hp => absurd (List.cons_prefix_cons.1 hp).1 (by decide)
  have hstops : Stops (some key) (':' :: ' ' :: '"' :: (escape value.toList ++ ['"', ']']))
      (.unterminatedExpression key) :=
    .expression hkey (Token.splitAtTerminator_eq_none_iff.2 hrest)
  obtain ⟨word, colon, bracket, span, hread⟩ :=
    exists_readsAs_expressionKey path hproperty hplain hword _
  rw [parse, Token.scan, htext, hread _ fun _ h => h, hstops.scanFrom_eq]
  rfl

/-! ## Main statement -/

/-- A list of one pair is parsed as that pair, whatever its value, unless its bare key is an
expression key: what then follows is an expression, and no list goes on with one. In quotes every
key is parsed. -/
theorem pair_parses_iff (path : String) (hproperty : IsWord property.toList)
    (hplain : ¬ isExpressionKey property) (hkey : IsWord key.toList) (value : String) :
    (parse path (pairText property key value) =
        .ok (pairDocument path property key value (pairText property key value)) ↔
      ¬ isExpressionKey key) ∧
    parse path (pairText property (quote key) value) =
      .ok (pairDocument path property key value (pairText property (quote key) value)) ∧
    (isExpressionKey key →
      (∀ rest, ¬ ∃ d, parse path (listOpening property ++ key ++ ":" ++ rest) = .ok d) ∧
      (¬ [';', ';'] <:+: value.toList → parse path (pairText property key value) =
        .error ⟨path, Position.start.after (listOpening property ++ key).toList,
          .unterminatedExpression key⟩)) := by
  have hcolon : pairText property key value =
      listOpening property ++ key ++ ":" ++ (" " ++ quote value ++ "]") := by
    apply String.toList_injective
    simp [pairText]
  refine ⟨⟨fun hparse hexpression => ?_, fun hexpression => ?_⟩, ?_, fun hexpression => ⟨?_, ?_⟩⟩
  · rw [hcolon] at hparse
    exact not_parses_expressionKey hproperty hplain hkey hexpression _ ⟨_, hparse⟩
  · exact parse_pairText hproperty hplain (readsAsKey_word hkey hexpression) value
  · exact parse_pairText hproperty hplain (readsAsKey_quote key) value
  · exact not_parses_expressionKey hproperty hplain hkey hexpression
  · exact parse_pairText_of_expressionKey hproperty hplain hkey hexpression

theorem isWord_filters : IsWord "filters".toList :=
  ⟨by decide, by decide, by simp [Text.isBlank]⟩

theorem pair_parses_iff_filters :
    IsWord "filters".toList ∧ ¬ isExpressionKey "filters" ∧ IsWord "status".toList ∧
      (parse "f" (pairText "filters" "status" "a, \"b\"") =
          .ok (pairDocument "f" "filters" "status" "a, \"b\""
            (pairText "filters" "status" "a, \"b\"")) ↔
        ¬ isExpressionKey "status") ∧
      parse "f" (pairText "filters" (quote "status") "a, \"b\"") =
        .ok (pairDocument "f" "filters" "status" "a, \"b\""
          (pairText "filters" (quote "status") "a, \"b\"")) ∧
      (isExpressionKey "status" →
        (∀ rest, ¬ ∃ d,
          parse "f" (listOpening "filters" ++ "status" ++ ":" ++ rest) = .ok d) ∧
        (¬ [';', ';'] <:+: "a, \"b\"".toList →
          parse "f" (pairText "filters" "status" "a, \"b\"") =
            .error ⟨"f", Position.start.after (listOpening "filters" ++ "status").toList,
              .unterminatedExpression "status"⟩)) := by
  have hstatus : IsWord "status".toList := ⟨by decide, by decide, by simp [Text.isBlank]⟩
  exact ⟨isWord_filters, by decide, hstatus,
    pair_parses_iff "f" isWord_filters (by decide) hstatus "a, \"b\""⟩

/-- A measure that is named like an expression cannot be filtered by, unless it is quoted. -/
theorem parse_filters_sqlTotal :
    IsWord "filters".toList ∧ ¬ isExpressionKey "filters" ∧ IsWord "sql_total".toList ∧
      pairText "filters" "sql_total" "yes" = "filters: [sql_total: \"yes\"]" ∧
      parse "a.lkml" "filters: [sql_total: \"yes\"]" =
        .error ⟨"a.lkml", ⟨1, 20⟩, .unterminatedExpression "sql_total"⟩ := by
  have hscan : Token.scan "a.lkml" "filters: [sql_total: \"yes\"]" =
      .error ⟨"a.lkml", ⟨1, 20⟩, .unterminatedExpression "sql_total"⟩ := by
    decide +kernel
  have htext : pairText "filters" "sql_total" "yes" = "filters: [sql_total: \"yes\"]" := by
    decide +kernel
  refine ⟨isWord_filters, by decide, ⟨by decide, by decide, by simp [Text.isBlank]⟩, htext, ?_⟩
  rw [parse, hscan]
  rfl

end LookML.Document
