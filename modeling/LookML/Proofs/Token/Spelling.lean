import LookML.Proofs.Token.Scanning
/-!
# Tokens survive being spelled

A sequence of tokens can be spelled in many ways, with different blanks and comments between them.
Whichever way is taken, the text is read as the same tokens: layout and comments carry no meaning.
-/

namespace LookML

open Text

def TokenKind.word? : TokenKind → Option String
  | .word w => some w
  | _ => none

theorem TokenKind.word?_eq_some_iff {kind : TokenKind} {w : String} :
    kind.word? = some w ↔ kind = .word w := by
  cases kind <;> simp [word?]

theorem TokenKind.word?_of_sign? {kind : TokenKind} {c : Char} (h : kind.sign? = some c) :
    kind.word? = none := by
  cases kind <;> first | rfl | cases h

namespace Token

/-! ## Sequences that can be spelled -/

/-- After these tokens an expression has to stand: they end in the colon of an expression key. -/
def AsksExpression (kinds : List TokenKind) : Prop :=
  ∃ before key, kinds = before ++ [.word key, .colon] ∧ isExpressionKey key

/-- Words are words, expressions are trimmed and hold no `;;`, and an expression stands wherever
one is asked for, and nowhere else. -/
structure Spellable (kinds : List TokenKind) : Prop where
  word : ∀ w, .word w ∈ kinds → IsWord w.toList
  trimmed : ∀ e, .expression e ∈ kinds → trim e.toList = e.toList
  unterminated : ∀ e, .expression e ∈ kinds → ¬ [';', ';'] <:+: e.toList
  placed : ∀ i, (∃ e, kinds[i]? = some (.expression e)) ↔ AsksExpression (kinds.take i)

/-! ## Ways of spelling -/

/-- Blanks, and comments up to the end of their lines. -/
inductive Separator : List Char → Prop
  | nil : Separator []
  | blank {c : Char} {cs : List Char} : isBlank c → Separator cs → Separator (c :: cs)
  | comment {body cs : List Char} : '\n' ∉ body → Separator cs →
      Separator ('#' :: (body ++ '\n' :: cs))

/-- The gap may stand between the two tokens, either of which is absent at an end of the text. A
word would run on into a comment or a word that follows it at once, and a comment before an
expression would be part of it. -/
structure Separates (before after : Option TokenKind) (gap : List Char) : Prop where
  separator : Separator gap
  comment : ∀ w, before = some (.word w) → gap.head? ≠ some '#'
  word : ∀ v w, before = some (.word v) → after = some (.word w) → gap ≠ []
  expression : ∀ e, after = some (.expression e) → ∀ c ∈ gap, isBlank c

/-- A backslash is put before each quote and each backslash. -/
def escape (cs : List Char) : List Char :=
  cs.flatMap fun c => if c = '"' ∨ c = '\\' then ['\\', c] else [c]

/-- How a token is written. Before the `;;` of an expression are blanks, which may be left out
unless the expression ends in a semicolon. -/
inductive Written : TokenKind → List Char → Prop
  | word (w : String) : Written (.word w) w.toList
  | quoted (s : String) : Written (.quoted s) ('"' :: (escape s.toList ++ ['"']))
  | expression (e : String) {blanks : List Char} : (∀ c ∈ blanks, isBlank c) →
      (e.toList.getLast? = some ';' → blanks ≠ []) →
      Written (.expression e) (e.toList ++ blanks ++ [';', ';'])
  | sign {kind : TokenKind} {c : Char} : kind.sign? = some c → Written kind [c]

/-- The text spells the tokens that follow the one `before` it. -/
inductive Spelling : Option TokenKind → List TokenKind → List Char → Prop
  | done {before : Option TokenKind} {gap : List Char} :
      Separates before none gap → Spelling before [] gap
  | token {before : Option TokenKind} {kind : TokenKind} {kinds : List TokenKind}
      {gap written rest : List Char} :
      Separates before (some kind) gap → Written kind written → Spelling (some kind) kinds rest →
      Spelling before (kind :: kinds) (gap ++ (written ++ rest))

/-! ## Reading back -/

theorem Separator.gap {cs : List Char} (h : Separator cs) (rest : List Char) :
    Gap (cs ++ rest) rest := by
  induction h with
  | nil => exact .none
  | blank hc _ ih => exact .blank hc ih
  | comment hbody _ ih =>
    rw [List.cons_append, List.append_assoc]
    exact .comment hbody (fun c hc => (Option.some.inj hc).symm) (.blank rfl ih)

theorem resolves_escape (cs : List Char) : Resolves (escape cs) cs := by
  induction cs with
  | nil => exact .nil
  | cons c cs ih =>
    rw [escape, List.flatMap_cons]
    by_cases hc : c = '"' ∨ c = '\\'
    · rw [if_pos hc]
      exact .escaped hc ih
    · rw [if_neg hc]
      obtain ⟨hquote, hbackslash⟩ := not_or.1 hc
      exact .plain hquote (fun h => absurd h hbackslash) ih

theorem not_infix_blanks {blanks : List Char} (hblanks : ∀ c ∈ blanks, isBlank c) :
    ¬ [';', ';'] <:+: blanks ++ [';'] := by
  induction blanks with
  | nil => decide
  | cons b blanks ih =>
    have hb : ';' ≠ b := by
      rintro rfl
      exact absurd (hblanks _ (.head _)) (by decide)
    rw [List.cons_append, List.infix_cons_iff, not_or]
    exact ⟨fun h => hb (List.cons_prefix_cons.1 h).1, ih fun c hc => hblanks c (.tail _ hc)⟩

theorem not_infix_append_blanks {e blanks : List Char} (he : ¬ [';', ';'] <:+: e)
    (hblanks : ∀ c ∈ blanks, isBlank c) (hlast : e.getLast? = some ';' → blanks ≠ []) :
    ¬ [';', ';'] <:+: e ++ blanks ++ [';'] := by
  induction e with
  | nil => exact not_infix_blanks hblanks
  | cons c e ih =>
    rw [List.infix_cons_iff, not_or] at he
    rw [List.cons_append, List.cons_append, List.infix_cons_iff, not_or]
    constructor
    · intro hterminator
      obtain ⟨rfl, hnext⟩ := List.cons_prefix_cons.1 hterminator
      cases e with
      | nil =>
        cases blanks with
        | nil => exact hlast rfl rfl
        | cons b blanks =>
          obtain ⟨rfl, _⟩ := List.cons_prefix_cons.1 hnext
          exact absurd (hblanks _ (.head _)) (by decide)
      | cons d e =>
        obtain ⟨rfl, _⟩ := List.cons_prefix_cons.1 hnext
        exact he.1 (List.cons_prefix_cons.2 ⟨rfl, by simp⟩)
    · refine ih he.2 fun h => hlast ?_
      rw [List.getLast?_cons, h]
      rfl

/-! ## Between a word and what follows it -/

theorem Separates.isDelimiter_head {w : String} {after : Option TokenKind} {gap : List Char}
    (h : Separates (some (.word w)) after gap) {c : Char} (hc : gap.head? = some c) :
    isDelimiter c := by
  have hcomment := h.comment w rfl
  cases h.separator with
  | nil => cases hc
  | blank hblank =>
    cases hc
    exact isDelimiter_of_isBlank hblank
  | comment => exact absurd rfl hcomment

theorem Spelling.isDelimiter_head {w : String} {kinds : List TokenKind} {text : List Char}
    (h : Spelling (some (.word w)) kinds text)
    (hexpression : ∀ e, kinds.head? ≠ some (.expression e)) {c : Char}
    (hc : text.head? = some c) : isDelimiter c := by
  cases h with
  | done hgap => exact hgap.isDelimiter_head hc
  | @token _ kind _ gap written rest hgap hwritten _ =>
    by_cases hempty : gap = []
    · subst hempty
      cases hwritten with
      | word v => exact absurd rfl (hgap.word w v rfl rfl)
      | quoted =>
        cases hc
        decide
      | expression e => exact absurd rfl (hexpression e)
      | sign hsign =>
        cases hc
        exact (isDelimiter_of_sign? hsign).1
    · obtain ⟨d, ds, rfl⟩ := List.exists_cons_of_ne_nil hempty
      exact hgap.isDelimiter_head hc

/-! ## Where expressions are asked for -/

theorem asksExpression_iff {kinds : List TokenKind} :
    AsksExpression kinds ↔ kinds.getLast? = some .colon ∧
      ((kinds.dropLast.getLast?.bind TokenKind.word?).filter isExpressionKey).isSome := by
  constructor
  · rintro ⟨before, key, rfl, hkey⟩
    rw [List.append_cons, List.getLast?_concat, List.dropLast_concat, List.getLast?_concat]
    exact ⟨rfl, by rw [Option.bind_some, TokenKind.word?, Option.filter_some_pos hkey]; rfl⟩
  · rintro ⟨hcolon, hsome⟩
    obtain ⟨kinds, rfl⟩ := List.getLast?_eq_some_iff.1 hcolon
    rw [List.dropLast_concat] at hsome
    obtain ⟨key, hfilter⟩ := Option.isSome_iff_exists.1 hsome
    obtain ⟨hword, hkey⟩ := Option.filter_eq_some_iff.1 hfilter
    obtain ⟨kind, hlast, hkind⟩ := Option.bind_eq_some_iff.1 hword
    obtain rfl := TokenKind.word?_eq_some_iff.1 hkind
    obtain ⟨before, rfl⟩ := List.getLast?_eq_some_iff.1 hlast
    exact ⟨before, key, List.append_assoc before _ _, hkey⟩

instance : DecidablePred AsksExpression := fun _ => decidable_of_iff _ asksExpression_iff.symm

theorem not_asksExpression_append {kinds : List TokenKind} {kind : TokenKind}
    (hkind : kind ≠ .colon) : ¬ AsksExpression (kinds ++ [kind]) := by
  rw [asksExpression_iff, List.getLast?_concat]
  exact fun h => hkind (Option.some.inj h.1)

theorem asksExpression_append_colon_iff {kinds : List TokenKind} :
    AsksExpression (kinds ++ [.colon]) ↔
      ((kinds.getLast?.bind TokenKind.word?).filter isExpressionKey).isSome := by
  rw [asksExpression_iff, List.getLast?_concat, List.dropLast_concat, eq_self, true_and]

/-! ## Reading a spelling -/

variable {path : String}

theorem Scans.trimmedExpression {key e : String} {gap blanks rest : List Char}
    {kinds : List TokenKind} (hkey : isExpressionKey key) (hgap : ∀ c ∈ gap, isBlank c)
    (htrim : trim e.toList = e.toList) (hterminator : ¬ [';', ';'] <:+: e.toList)
    (hblanks : ∀ c ∈ blanks, isBlank c) (hlast : e.toList.getLast? = some ';' → blanks ≠ [])
    (h : Scans path none rest kinds) :
    Scans path (some key) (':' :: (gap ++ (e.toList ++ blanks ++ [';', ';'] ++ rest)))
      (.colon :: .expression e :: kinds) := by
  -- the blanks around an empty expression are skipped together
  have hbody : ¬ [';', ';'] <:+: trimStart (e.toList ++ blanks) ++ [';'] := by
    intro hfirst
    obtain ⟨front, hfront⟩ := trimStart_suffix (e.toList ++ blanks)
    refine not_infix_append_blanks hterminator hblanks hlast (hfirst.trans ⟨front, [], ?_⟩)
    rw [List.append_nil, ← List.append_assoc, hfront]
  have hskipped : ∀ c ∈ gap ++ (e.toList ++ blanks).takeWhile isBlank, isBlank c := by
    intro c hc
    rcases List.mem_append.1 hc with hc | hc
    · exact hgap c hc
    · exact List.mem_takeWhile_imp hc
  have hscans := Scans.expression hkey hskipped (fun _ => head?_trimStart) hbody h
  have htext : gap ++ (e.toList ++ blanks).takeWhile isBlank ++
      (trimStart (e.toList ++ blanks) ++ ';' :: ';' :: rest) =
      gap ++ (e.toList ++ blanks ++ [';', ';'] ++ rest) := by
    rw [List.append_assoc, ← List.append_assoc (List.takeWhile _ _), trimStart,
      List.takeWhile_append_dropWhile, List.append_assoc _ [';', ';']]
    rfl
  have hkept : trimEnd (trimStart (e.toList ++ blanks)) = e.toList :=
    (trim_append_blank hblanks).trans htrim
  rwa [htext, hkept, String.ofList_toList] at hscans

theorem Spellable.head_iff {done kinds : List TokenKind} (h : Spellable (done ++ kinds)) :
    (∃ e, kinds.head? = some (.expression e)) ↔ AsksExpression done := by
  have hplaced := h.placed done.length
  rwa [List.getElem?_append_right (Nat.le_refl _), Nat.sub_self, ← List.head?_eq_getElem?,
    List.take_left] at hplaced

/-- After the tokens `done`, the text is read as `kinds`. An expression is read together with the
colon that asks for it. -/
structure ReadsBack (path : String) (done : List TokenKind) (text : List Char)
    (kinds : List TokenKind) : Prop where
  plain : ¬ AsksExpression done → Scans path (done.getLast?.bind TokenKind.word?) text kinds
  asked : ∀ key, isExpressionKey key → ∀ before, done = before ++ [.word key, .colon] →
    Scans path (some key) (':' :: text) (.colon :: kinds)

namespace ReadsBack

variable {done kinds : List TokenKind} {kind : TokenKind} {rest : List Char}

theorem next (h : ReadsBack path (done ++ [kind]) rest kinds) (hkind : kind ≠ .colon) :
    Scans path kind.word? rest kinds := by
  have hplain := h.plain (not_asksExpression_append hkind)
  rwa [List.getLast?_concat, Option.bind_some] at hplain

theorem sign {c : Char} (hsign : kind.sign? = some c)
    (h : ReadsBack path (done ++ [kind]) rest kinds) :
    Scans path (done.getLast?.bind TokenKind.word?) (c :: rest) (kind :: kinds) := by
  by_cases hasks : AsksExpression (done ++ [kind])
  · -- the colon is read together with the expression after it
    obtain rfl : kind = .colon := not_not.1 fun hne => not_asksExpression_append hne hasks
    cases hsign
    obtain ⟨front, key, heq, hkey⟩ := hasks
    have hdone : done = front ++ [.word key] :=
      List.append_cancel_right (heq.trans (List.append_cons front _ _))
    rw [hdone, List.getLast?_concat]
    exact h.asked key hkey front heq
  · have hplain := h.plain hasks
    rw [List.getLast?_concat, Option.bind_some, TokenKind.word?_of_sign? hsign] at hplain
    refine Scans.sign hsign ?_ hplain
    rintro rfl
    rwa [asksExpression_append_colon_iff, Option.not_isSome_iff_eq_none] at hasks

end ReadsBack

theorem readsBack_of_spelling {done kinds : List TokenKind} {text : List Char}
    (h : Spelling done.getLast? kinds text) (hspellable : Spellable (done ++ kinds)) :
    ReadsBack path done text (kinds ++ [.endOfInput]) := by
  generalize hbefore : done.getLast? = before at h
  induction h generalizing done with
  | done hgap =>
    have hnot : ¬ AsksExpression done := by
      intro hasks
      obtain ⟨e, he⟩ := hspellable.head_iff.2 hasks
      cases he
    have hrest := hgap.separator.gap []
    rw [List.append_nil] at hrest
    exact {
      plain := fun _ => Scans.gap hrest .endOfInput
      asked := fun key hkey before heq => absurd ⟨before, key, heq, hkey⟩ hnot }
  | @token before kind kinds gap written rest hgap hwritten hrest ih =>
    have hsplit : done ++ kind :: kinds = done ++ [kind] ++ kinds := List.append_cons _ _ _
    have hread : ReadsBack path (done ++ [kind]) rest (kinds ++ [.endOfInput]) :=
      ih (hsplit ▸ hspellable) List.getLast?_concat
    have hmem : kind ∈ done ++ kind :: kinds := List.mem_append_right _ (.head _)
    constructor
    · intro hnot
      refine Scans.gap (hgap.separator.gap _) ?_
      cases hwritten with
      | word w =>
        have hkind : TokenKind.word w ≠ .colon := TokenKind.noConfusion
        have hend : ∀ c, rest.head? = some c → isDelimiter c := by
          refine fun c => hrest.isDelimiter_head fun e he => ?_
          exact not_asksExpression_append hkind ((hsplit ▸ hspellable).head_iff.1 ⟨e, he⟩)
        exact .word (hspellable.word w hmem) hend (hread.next hkind)
      | quoted s =>
        rw [List.cons_append, List.append_assoc]
        exact .quoted (resolves_escape s.toList) (hread.next TokenKind.noConfusion)
      | expression e => exact absurd (hspellable.head_iff.1 ⟨e, rfl⟩) hnot
      | sign hsign => exact hread.sign hsign
    · intro key hkey before heq
      obtain ⟨e, he⟩ := hspellable.head_iff.2 ⟨before, key, heq, hkey⟩
      cases he
      cases hwritten with
      | expression _ hblanks hlast =>
        exact .trimmedExpression hkey (hgap.expression e rfl) (hspellable.trimmed e hmem)
          (hspellable.unterminated e hmem) hblanks hlast (hread.next TokenKind.noConfusion)
      | sign hsign => cases hsign

/-! ## Main statement -/

/-- Comments and layout do not change what a text means: however the tokens are spelled, they are
read again. -/
theorem scan_of_spelling (path : String) {kinds : List TokenKind} {text : String}
    (hkinds : Spellable kinds) (htext : Spelling none kinds text.toList) :
    ∃ ts, scan path text = .ok ts ∧ ts.map Token.kind = kinds ++ [.endOfInput] := by
  have hread : ReadsBack path [] text.toList (kinds ++ [.endOfInput]) :=
    readsBack_of_spelling htext hkinds
  exact hread.plain (by decide) .start

/-- The expression ends in a semicolon, the string in a backslash, and the comment between them
looks like a terminator. -/
def commented : String :=
  "sql:a; ;;#;;\n\"\\\\\""

def commentedKinds : List TokenKind :=
  [.word "sql", .colon, .expression "a;", .quoted "\\"]

theorem scan_of_spelling_commented :
    Spellable commentedKinds ∧ Spelling none commentedKinds commented.toList ∧
      ∃ ts, scan "f" commented = .ok ts ∧
        ts.map Token.kind = commentedKinds ++ [.endOfInput] := by
  have hkinds : Spellable commentedKinds := by
    refine ⟨?_, ?_, ?_, ?_⟩
    · intro w hw
      obtain rfl : w = "sql" := by simpa [commentedKinds] using hw
      exact ⟨by decide, by decide, by simp [isBlank]⟩
    · intro e he
      obtain rfl : e = "a;" := by simpa [commentedKinds] using he
      decide
    · intro e he
      obtain rfl : e = "a;" := by simpa [commentedKinds] using he
      decide
    · intro i
      match i with
      | 0 | 1 | 3 | 4 => exact iff_of_false (by simp [commentedKinds]) (by decide)
      | 2 => exact iff_of_true ⟨"a;", rfl⟩ (by decide)
      | i + 5 =>
        have hnot : ¬ AsksExpression commentedKinds := by decide
        exact iff_of_false (by simp [commentedKinds]) hnot
  have htext : Spelling none commentedKinds commented.toList := by
    have hstart : Separates none (some (.word "sql")) [] := ⟨.nil, by simp, by simp, by simp⟩
    have hkey : Separates (some (.word "sql")) (some .colon) [] :=
      ⟨.nil, by simp, by simp, by simp⟩
    have hvalue : Separates (some .colon) (some (.expression "a;")) [] :=
      ⟨.nil, by simp, by simp, by simp⟩
    have hcomment : Separates (some (.expression "a;")) (some (.quoted "\\"))
        ('#' :: ([';', ';'] ++ ['\n'])) :=
      ⟨.comment (by decide) .nil, by simp, by simp, by simp⟩
    have hend : Separates (some (.quoted "\\")) none [] := ⟨.nil, by simp, by simp, by simp⟩
    have hcolon : Written .colon [':'] := .sign rfl
    have hexpression : Written (.expression "a;") ("a;".toList ++ [' '] ++ [';', ';']) :=
      .expression "a;" (by simp [isBlank]) (by decide)
    have hspelling := Spelling.token hstart (.word "sql") <| .token hkey hcolon <|
      .token hvalue hexpression <| .token hcomment (.quoted "\\") <| .done hend
    convert hspelling using 1 <;> decide
  exact ⟨hkinds, htext, scan_of_spelling "f" hkinds htext⟩

end Token

end LookML
