import LookML.Token.Lexer
/-!
# Lexemes

The pieces that a text is made of: blanks and comments, words, quoted strings and expressions. For
each of them, when a text begins with one, and where it ends.
-/

namespace LookML

open Text

/-! ## Between tokens -/

/-- `rest` is left of a text after some blanks and comments. A comment runs to the end of its line
or of the text. -/
inductive Gap : List Char → List Char → Prop
  | none {rest : List Char} : Gap rest rest
  | blank {c : Char} {cs rest : List Char} : isBlank c → Gap cs rest → Gap (c :: cs) rest
  | comment {body cs rest : List Char} : '\n' ∉ body → (∀ c, cs.head? = some c → c = '\n') →
      Gap cs rest → Gap ('#' :: (body ++ cs)) rest

theorem Gap.blanks {blanks text rest : List Char} (hblanks : ∀ c ∈ blanks, isBlank c)
    (h : Gap text rest) : Gap (blanks ++ text) rest := by
  induction blanks with
  | nil => exact h
  | cons c blanks ih =>
    exact .blank (hblanks c (.head _)) (ih fun d hd => hblanks d (.tail _ hd))

/-! ## Words and punctuation -/

/-- A word is not empty, does not begin like a comment, and holds no blank, no punctuation and no
quote. -/
structure IsWord (w : List Char) : Prop where
  ne_nil : w ≠ []
  head : w.head? ≠ some '#'
  clear : ∀ c ∈ w, isBlank c = false ∧ c ∉ [':', ',', '{', '}', '[', ']', '"']

theorem Token.isDelimiter_eq_false_iff {c : Char} :
    isDelimiter c = false ↔ isBlank c = false ∧ c ∉ [':', ',', '{', '}', '[', ']', '"'] := by
  simp [isDelimiter, and_assoc]

theorem Token.isDelimiter_of_isBlank {c : Char} (h : isBlank c) : isDelimiter c := by
  simp [isDelimiter, h]

theorem Token.isDelimiter_of_punctuation? {c : Char} (hblank : isBlank c = false) (hcolon : c ≠ ':')
    (hquote : c ≠ '"') (h : punctuation? c = none) : isDelimiter c = false := by
  refine isDelimiter_eq_false_iff.2 ⟨hblank, fun hmem => ?_⟩
  simp only [List.mem_cons, List.not_mem_nil, or_false] at hmem
  rcases hmem with rfl | rfl | rfl | rfl | rfl | rfl | rfl
  · exact hcolon rfl
  · cases h
  · cases h
  · cases h
  · cases h
  · cases h
  · exact hquote rfl

theorem Token.punctuation?_eq_none {c : Char} (h : isDelimiter c = false) :
    punctuation? c = none := by
  unfold punctuation?
  split
  case h_6 => rfl
  all_goals exact absurd h (by decide)

def TokenKind.sign? : TokenKind → Option Char
  | .colon => some ':'
  | .comma => some ','
  | .leftBrace => some '{'
  | .rightBrace => some '}'
  | .leftBracket => some '['
  | .rightBracket => some ']'
  | .word _ | .quoted _ | .expression _ | .endOfInput => none

theorem Token.punctuation?_eq_some_iff {c : Char} {kind : TokenKind} :
    punctuation? c = some kind ↔ kind.sign? = some c ∧ kind ≠ .colon := by
  constructor
  · intro h
    unfold punctuation? at h
    split at h <;> cases h <;> exact ⟨rfl, by decide⟩
  · rintro ⟨h, hcolon⟩
    cases kind with
    | colon => exact absurd rfl hcolon
    | _ => cases h <;> rfl

theorem Token.isDelimiter_of_sign? {kind : TokenKind} {c : Char} (h : kind.sign? = some c) :
    isDelimiter c ∧ isBlank c = false ∧ c ≠ '#' ∧ c ≠ '"' := by
  unfold TokenKind.sign? at h
  split at h <;> cases h <;> decide

/-! ## Expressions -/

theorem splitAtTerminator_eq_some_iff {cs body rest : List Char} :
    splitAtTerminator cs = some (body, rest) ↔
      cs = body ++ ';' :: ';' :: rest ∧ ¬ [';', ';'] <:+: body ++ [';'] := by
  fun_induction splitAtTerminator cs generalizing body rest with
  | case1 => simp
  | case2 rest' =>
    constructor
    · intro h
      cases h
      exact ⟨rfl, by decide⟩
    · rintro ⟨h, hfirst⟩
      cases body with
      | nil =>
        cases h
        rfl
      | cons d body =>
        cases body with
        | nil =>
          cases h
          exact absurd List.infix_rfl hfirst
        | cons e body =>
          cases h
          exact absurd ⟨[], body ++ [';'], rfl⟩ hfirst
  | case3 c cs hnone ih =>
    -- the text does not begin with the terminator, so neither does the part before the first one
    have hcons : ∀ {tail : List Char}, cs = tail ++ ';' :: ';' :: rest →
        (¬ [';', ';'] <:+: c :: tail ++ [';'] ↔ ¬ [';', ';'] <:+: tail ++ [';']) := by
      intro tail htail
      rw [List.cons_append, List.infix_cons_iff, not_or, and_iff_right]
      rintro hprefix
      obtain ⟨rfl, hnext⟩ := List.cons_prefix_cons.1 hprefix
      cases tail with
      | nil => exact hnone _ rfl htail
      | cons d tail =>
        obtain ⟨rfl, _⟩ := List.cons_prefix_cons.1 hnext
        exact hnone _ rfl htail
    rw [Option.map_eq_some_iff]
    constructor
    · rintro ⟨⟨tail, _⟩, htail, h⟩
      cases h
      obtain ⟨hcs, hfirst⟩ := ih.1 htail
      exact ⟨by rw [hcs]; rfl, (hcons hcs).2 hfirst⟩
    · rintro ⟨h, hfirst⟩
      cases body with
      | nil =>
        obtain ⟨rfl, hcs⟩ := List.cons.inj h
        exact (hnone _ rfl hcs).elim
      | cons d tail =>
        obtain ⟨rfl, hcs⟩ := List.cons.inj h
        exact ⟨(tail, rest), ih.2 ⟨hcs, (hcons hcs).1 hfirst⟩, rfl⟩

/-! ## Quoted strings -/

/-- The content of a quoted string as it is written between its quotes, and what it stands for. A
backslash before a quote or a backslash is not part of the content; anywhere else it is. -/
inductive Resolves : List Char → List Char → Prop
  | nil : Resolves [] []
  | escaped {c : Char} {raw value : List Char} :
      c = '"' ∨ c = '\\' → Resolves raw value → Resolves ('\\' :: c :: raw) (c :: value)
  | plain {c : Char} {raw value : List Char} :
      c ≠ '"' → (c = '\\' → ∃ d raw', raw = d :: raw' ∧ d ≠ '"' ∧ d ≠ '\\') →
      Resolves raw value → Resolves (c :: raw) (c :: value)

theorem splitQuoted_of_resolves {raw value : List Char} (h : Resolves raw value)
    (rest : List Char) :
    splitQuoted (raw ++ '"' :: rest) = some (value, raw ++ ['"'], rest) := by
  induction h with
  | nil => rfl
  | escaped hc _ ih =>
    rcases hc with rfl | rfl
    · simp [splitQuoted, ih]
    · simp [splitQuoted, ih]
  | @plain c raw value hquote hbackslash _ ih =>
    have hnext : ∀ {d : Char} {cs : List Char}, d = '"' ∨ d = '\\' → c = '\\' →
        raw ++ '"' :: rest = d :: cs → False := by
      rintro d cs hd hc heq
      obtain ⟨d', raw', rfl, hne⟩ := hbackslash hc
      obtain ⟨rfl, _⟩ := List.cons.inj heq
      simp_all
    rw [List.cons_append, splitQuoted.eq_5 c _ hquote (fun _ => hnext (.inl rfl))
      (fun _ => hnext (.inr rfl)), ih]
    rfl

theorem resolves_of_splitQuoted {cs value written rest : List Char}
    (h : splitQuoted cs = some (value, written, rest)) :
    ∃ raw, written = raw ++ ['"'] ∧ Resolves raw value := by
  fun_induction splitQuoted cs generalizing value written rest with
  | case1 => cases h
  | case2 =>
    cases h
    exact ⟨[], rfl, .nil⟩
  | case3 cs ih =>
    obtain ⟨⟨value', written', rest'⟩, hrest, h⟩ := Option.map_eq_some_iff.1 h
    cases h
    obtain ⟨raw, rfl, hraw⟩ := ih hrest
    exact ⟨'\\' :: '"' :: raw, rfl, .escaped (.inl rfl) hraw⟩
  | case4 cs ih =>
    obtain ⟨⟨value', written', rest'⟩, hrest, h⟩ := Option.map_eq_some_iff.1 h
    cases h
    obtain ⟨raw, rfl, hraw⟩ := ih hrest
    exact ⟨'\\' :: '\\' :: raw, rfl, .escaped (.inr rfl) hraw⟩
  | case5 c cs hquote hescapedQuote hescapedBackslash ih =>
    obtain ⟨⟨value', written', rest'⟩, hrest, h⟩ := Option.map_eq_some_iff.1 h
    cases h
    obtain ⟨raw, rfl, hraw⟩ := ih hrest
    have hcs := append_of_splitQuoted hrest
    refine ⟨c :: raw, rfl, .plain hquote (fun hc => ?_) hraw⟩
    cases raw with
    | nil => exact (hescapedQuote _ hc hcs).elim
    | cons d raw =>
      refine ⟨d, raw, rfl, ?_, ?_⟩
      · rintro rfl
        exact hescapedQuote _ hc hcs
      · rintro rfl
        exact hescapedBackslash _ hc hcs

end LookML
