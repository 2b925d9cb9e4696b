import LookML.Proofs.Token.Scanning
import LookML.Proofs.Token.Tiling
/-!
# Where a text breaks off

A text that is not scanned to its end breaks off at the opening quote of a string without an end,
or at the colon before an expression without one. Up to there it is scanned like any other: if the
string or expression is ended at once, it is a token that begins there.
-/

namespace LookML

open Text

namespace Token

/-! ## Ends that are missing -/

theorem splitAtTerminator_eq_none_iff {cs : List Char} :
    splitAtTerminator cs = none ↔ ¬ [';', ';'] <:+: cs := by
  fun_induction splitAtTerminator cs with
  | case1 => simp
  | case2 rest => simpa using (List.prefix_append [';', ';'] rest).isInfix
  | case3 c cs hnone ih =>
    have hprefix : ¬ [';', ';'] <+: c :: cs := by
      rintro ⟨rest, h⟩
      exact hnone rest (List.cons.inj h).1.symm (List.cons.inj h).2.symm
    rw [Option.map_eq_none_iff, ih, List.infix_cons_iff, not_or, and_iff_right hprefix]

theorem terminator_infix_trimStart {cs : List Char} (h : [';', ';'] <:+: cs) :
    [';', ';'] <:+: trimStart cs := by
  induction cs with
  | nil => exact h
  | cons c cs ih =>
    by_cases hblank : isBlank c = true
    · have hprefix : ¬ [';', ';'] <+: c :: cs := by
        rintro ⟨rest, heq⟩
        rw [← (List.cons.inj heq).1] at hblank
        exact absurd hblank (by decide)
      rw [trimStart, List.dropWhile_cons_of_pos hblank]
      exact ih ((List.infix_cons_iff.1 h).resolve_left hprefix)
    · rw [trimStart, List.dropWhile_cons_of_neg hblank]
      exact h

/-- How a text goes on with a string or expression that has no end, how it goes on if that is
ended at once, and the complaint about it. A string begins with its quote, an expression with the
colon after its key. -/
inductive Endless : List Char → List Char → SyntaxError.Cause → Prop
  | string {rest : List Char} : (∀ raw value, Resolves raw value → ¬ raw ++ ['"'] <+: rest) →
      Endless ('"' :: rest) ['"', '"'] .unterminatedString
  | expression {key : String} {rest : List Char} : isExpressionKey key →
      ¬ [';', ';'] <:+: rest →
      Endless (':' :: rest) [':', ';', ';'] (.unterminatedExpression key)

/-! ## Tokens that begin somewhere -/

section Begins

variable {path : String} {before : Option String} {p q : Position} {text : List Char}

/-- The text is scanned from `p` on, and a token of it begins at `q`. -/
def Begins (path : String) (before : Option String) (p : Position) (text : List Char)
    (q : Position) : Prop :=
  ∃ ts, scanFrom path before p text = .ok ts ∧ ∃ t ∈ ts, t.start = q

theorem Begins.after {tokens : List Token → List Token} {before' : Option String}
    {p' : Position} {rest : List Char} (h : Begins path before' p' rest q)
    (hscan : scanFrom path before p text = tokens <$> scanFrom path before' p' rest)
    (htokens : ∀ ts, ts ⊆ tokens ts) : Begins path before p text q := by
  obtain ⟨ts, hts, t, ht, hstart⟩ := h
  exact ⟨tokens ts, by rw [hscan, hts]; rfl, t, htokens ts ht, hstart⟩

theorem begins_string : Begins path before p ['"', '"'] p := by
  have hscan : scanFrom path before p ['"', '"'] = _ <$> scanFrom path none _ [] :=
    scanFrom_quoted .nil
  rw [scanFrom_nil] at hscan
  exact ⟨_, hscan, _, List.mem_cons_self, rfl⟩

theorem begins_expression {key : String} (hkey : isExpressionKey key) :
    Begins path (some key) p [':', ';', ';'] p := by
  have hscan : scanFrom path (some key) p (':' :: ([] ++ ([] ++ [';', ';']))) =
      _ <$> scanFrom path none _ [] :=
    scanFrom_expression hkey (by simp) (by simp) (by decide)
  rw [scanFrom_nil] at hscan
  exact ⟨_, hscan, _, List.mem_cons_self, rfl⟩

end Begins

/-! ## Parts of a text -/

theorem map_eq_error {α β : Type} {x : Except SyntaxError α} {f : α → β} {e : SyntaxError} :
    f <$> x = .error e ↔ x = .error e := by
  cases x <;> simp [Functor.map, Except.map]

/-- One text ends at once or begins with the same character as the other. -/
def BeginsLike (text other : List Char) : Prop :=
  ∀ c, text.head? = some c → other.head? = some c

theorem BeginsLike.append {text other : List Char} (h : BeginsLike text other)
    (slice : List Char) : BeginsLike (slice ++ text) (slice ++ other) := by
  cases slice with
  | nil => exact h
  | cons c slice => exact fun d hd => hd

/-- Read from `p` on, `slice` is the tokens `ts`. They leave the word `before'`, if the last of them
is a word, and they are the same whatever comes next, as long as it begins like `left`. -/
def ReadsAs (path : String) (before : Option String) (p : Position) (slice left : List Char)
    (ts : List Token) (before' : Option String) : Prop :=
  ∀ text, BeginsLike text left → scanFrom path before p (slice ++ text) =
    (ts ++ ·) <$> scanFrom path before' (p.after slice) text

namespace ReadsAs

variable {path : String} {before before' before'' : Option String} {p : Position}
  {slice slice' left : List Char} {ts ts' : List Token}

theorem skip (h : ∀ text, BeginsLike text left →
    scanFrom path before p (slice ++ text) = scanFrom path before' (p.after slice) text) :
    ReadsAs path before p slice left [] before' := by
  intro text htext
  rw [h text htext]
  cases scanFrom path before' (p.after slice) text <;> rfl

theorem nil : ReadsAs path before p [] left [] before :=
  skip fun _ _ => rfl

theorem blank {c : Char} (hc : isBlank c) : ReadsAs path before p [c] left [] before :=
  skip fun _ _ => scanFrom_blank hc

theorem comment {body : List Char} (hbody : '\n' ∉ body)
    (hleft : ∀ c, left.head? = some c → c = '\n') :
    ReadsAs path before p ('#' :: body) left [] before :=
  skip fun _ htext => scanFrom_comment hbody fun c hc => hleft c (htext c hc)

theorem word {w : List Char} (hw : IsWord w) (hleft : ∀ c, left.head? = some c → isDelimiter c) :
    ReadsAs path before p w left [⟨.word (String.ofList w), p, p.after w⟩]
      (some (String.ofList w)) :=
  fun _ htext => scanFrom_word hw fun c hc => hleft c (htext c hc)

theorem quoted {raw value : List Char} (hraw : Resolves raw value) :
    ReadsAs path before p ('"' :: (raw ++ ['"'])) left
      [⟨.quoted (String.ofList value), p, p.after ('"' :: (raw ++ ['"']))⟩] none := by
  intro text _
  rw [List.cons_append, List.append_assoc]
  exact scanFrom_quoted hraw

theorem sign {kind : TokenKind} {c : Char} (hc : kind.sign? = some c)
    (hcolon : kind = .colon → before.filter isExpressionKey = none) :
    ReadsAs path before p [c] left [⟨kind, p, p.next c⟩] none :=
  fun _ _ => scanFrom_sign hc hcolon

theorem expression {key : String} {blanks body : List Char} (hkey : isExpressionKey key)
    (hblanks : ∀ c ∈ blanks, isBlank c) (hhead : ∀ c, body.head? = some c → isBlank c = false)
    (hbody : ¬ [';', ';'] <:+: body ++ [';']) :
    ReadsAs path (some key) p (':' :: (blanks ++ (body ++ [';', ';']))) left
      [⟨.colon, p, p.next ':'⟩, ⟨.expression (String.ofList (trimEnd body)),
        (p.next ':').after blanks, ((p.next ':').after blanks).after (body ++ [';', ';'])⟩] none := by
  intro text _
  have hstop : p.after (':' :: (blanks ++ (body ++ [';', ';']))) =
      ((p.next ':').after blanks).after (body ++ [';', ';']) :=
    Position.after_append (p.next ':') blanks (body ++ [';', ';'])
  rw [List.cons_append, List.append_assoc, List.append_assoc, hstop]
  exact scanFrom_expression hkey hblanks hhead hbody

theorem append (h : ReadsAs path before p slice (slice' ++ left) ts before')
    (h' : ReadsAs path before' (p.after slice) slice' left ts' before'') :
    ReadsAs path before p (slice ++ slice') left (ts ++ ts') before'' := by
  intro text htext
  rw [List.append_assoc, h _ (htext.append slice'), h' text htext, Position.after_append]
  cases scanFrom path before'' ((p.after slice).after slice') text with
  | error e => rfl
  | ok us => exact congrArg Except.ok (List.append_assoc ts ts' us).symm

theorem scanFrom_eq_ok (h : ReadsAs path before p slice left ts before') :
    scanFrom path before p slice = .ok (ts ++ [⟨.endOfInput, p.after slice, p.after slice⟩]) := by
  have hslice := h [] nofun
  rwa [List.append_nil, scanFrom_nil] at hslice

end ReadsAs

/-! ## Texts that break off -/

/-- A string or an expression without an end comes next, after a last token that is the word
`before`, if it is a word. -/
inductive Stops : Option String → List Char → SyntaxError.Cause → Prop
  | string {before : Option String} {rest : List Char} : splitQuoted rest = none →
      Stops before ('"' :: rest) .unterminatedString
  | expression {key : String} {rest : List Char} : isExpressionKey key →
      splitAtTerminator (trimStart rest) = none →
      Stops (some key) (':' :: rest) (.unterminatedExpression key)

theorem Stops.scanFrom_eq {path : String} {before : Option String} {p : Position}
    {left : List Char} {cause : SyntaxError.Cause} (h : Stops before left cause) :
    scanFrom path before p left = .error ⟨path, p, cause⟩ := by
  cases h with
  | string hsplit => exact scanFrom_unendedString hsplit
  | expression hkey hsplit => exact scanFrom_unendedExpression hkey hsplit

theorem Stops.exists_ended {before : Option String} {left : List Char} {cause : SyntaxError.Cause}
    (h : Stops before left cause) :
    ∃ ended, Endless left ended cause ∧ BeginsLike ended left ∧
      ∀ path p, Begins path before p ended p := by
  cases h with
  | string h =>
    refine ⟨_, .string ?_, fun c hc => hc, fun _ _ => begins_string⟩
    rintro raw value hraw ⟨left, rfl⟩
    rw [List.append_assoc, List.singleton_append, splitQuoted_of_resolves hraw] at h
    cases h
  | expression hkey h =>
    refine ⟨_, .expression hkey ?_, fun c hc => hc, fun _ _ => begins_expression hkey⟩
    exact fun hinfix => splitAtTerminator_eq_none_iff.1 h (terminator_infix_trimStart hinfix)

/-- Read from `p` on, the text is `slice`, which is the tokens `ts`, and then breaks off with `e`. -/
structure Broken (path : String) (before : Option String) (p : Position) (text : List Char)
    (e : SyntaxError) (slice : List Char) (ts : List Token) : Prop where
  exists_left : ∃ left before', text = slice ++ left ∧
    ReadsAs path before p slice left ts before' ∧ Stops before' left e.cause
  path_eq : e.path = path
  position : e.position = p.after slice

theorem Broken.after {path : String} {before before' : Option String} {p p' : Position}
    {rest slice lexeme : List Char} {e : SyntaxError} {ts tokens : List Token}
    (h : Broken path before' p' rest e slice ts) (hp : p' = p.after lexeme)
    (hlexeme : ReadsAs path before p lexeme rest tokens before') :
    Broken path before p (lexeme ++ rest) e (lexeme ++ slice) (tokens ++ ts) := by
  subst hp
  obtain ⟨left, before'', rfl, hreads, hstops⟩ := h.exists_left
  refine ⟨⟨left, before'', (List.append_assoc ..).symm, hlexeme.append hreads, hstops⟩,
    h.path_eq, ?_⟩
  rw [h.position, Position.after_append]

theorem exists_broken {path : String} {before : Option String} {p : Position} {text : List Char}
    {e : SyntaxError} (h : scanFrom path before p text = .error e) :
    ∃ slice ts, Broken path before p text e slice ts := by
  fun_induction scanFrom path before p text with
  | case1 => cases h
  | case2 before p c cs hblank ih =>
    obtain ⟨slice, ts, hbroken⟩ := ih h
    have hrest : Broken path before p ([c] ++ cs) e _ _ := hbroken.after rfl (.blank hblank)
    exact ⟨_, _, hrest⟩
  | case3 before p cs _ ih =>
    obtain ⟨slice, ts, hbroken⟩ := ih h
    have hcomment : Broken path before p
        ('#' :: cs.takeWhile (· ≠ '\n') ++ cs.dropWhile (· ≠ '\n')) e _ _ :=
      hbroken.after rfl (.comment not_mem_takeWhile_ne (head?_dropWhile_ne cs))
    rw [List.cons_append, List.takeWhile_append_dropWhile] at hcomment
    exact ⟨_, _, hcomment⟩
  | case4 before p cs hkey =>
    rename_i ih
    obtain ⟨slice, ts, hbroken⟩ := ih (map_eq_error.1 h)
    have hsign : TokenKind.sign? .colon = some ':' := rfl
    have hcolon : Broken path before p ([':'] ++ cs) e _ _ :=
      hbroken.after rfl (.sign hsign fun _ => hkey)
    exact ⟨_, _, hcolon⟩
  | case5 before p cs key hkey hsplit =>
    obtain ⟨rfl, hexpressionKey⟩ := Option.filter_eq_some_iff.1 hkey
    cases h
    exact ⟨[], [], ⟨_, _, rfl, .nil, .expression hexpressionKey hsplit⟩, rfl, rfl⟩
  | case6 before p cs key hkey body rest hsplit =>
    rename_i ih
    obtain ⟨rfl, hexpressionKey⟩ := Option.filter_eq_some_iff.1 hkey
    obtain ⟨hbody, hfirst⟩ := splitAtTerminator_eq_some_iff.1 hsplit
    obtain ⟨slice, ts, hbroken⟩ := ih (map_eq_error.1 h)
    have hexpression : Broken path (some key) p
        (':' :: (cs.takeWhile isBlank ++ (body ++ [';', ';'])) ++ rest) e _ _ :=
      hbroken.after (by rw [Position.after_cons, Position.after_append])
        (.expression hexpressionKey (fun c hc => List.mem_takeWhile_imp hc)
          (isBlank_head_expression hbody) hfirst)
    have hcs : cs.takeWhile isBlank ++ (body ++ ';' :: ';' :: rest) = cs :=
      hbody ▸ List.takeWhile_append_dropWhile
    simp only [List.cons_append, List.append_assoc, List.nil_append, hcs] at hexpression
    exact ⟨_, _, hexpression⟩
  | case7 before p cs hsplit =>
    cases h
    exact ⟨[], [], ⟨_, _, rfl, .nil, .string hsplit⟩, rfl, rfl⟩
  | case8 before p cs body written rest hsplit =>
    rename_i ih
    obtain ⟨raw, rfl, hraw⟩ := resolves_of_splitQuoted hsplit
    obtain ⟨slice, ts, hbroken⟩ := ih (map_eq_error.1 h)
    have hquoted : Broken path before p ('"' :: (raw ++ ['"']) ++ rest) e _ _ :=
      hbroken.after rfl (.quoted hraw)
    rw [append_of_splitQuoted hsplit]
    exact ⟨_, _, hquoted⟩
  | case9 before p c cs _ _ _ _ kind hkind ih =>
    obtain ⟨hsign, hcolon⟩ := punctuation?_eq_some_iff.1 hkind
    obtain ⟨slice, ts, hbroken⟩ := ih (map_eq_error.1 h)
    have hrest : Broken path before p ([c] ++ cs) e _ _ :=
      hbroken.after rfl (.sign hsign fun h => absurd h hcolon)
    exact ⟨_, _, hrest⟩
  | case10 before p c cs hblank hcomment hcolon hquote hnone =>
    rename_i ih
    have hword : IsWord (c :: cs.takeWhile (!isDelimiter ·)) :=
      isWord_takeWhile hcomment
        (isDelimiter_of_punctuation? (by simpa using hblank) hcolon hquote hnone)
    have hboundary : ∀ d, (cs.dropWhile (!isDelimiter ·)).head? = some d → isDelimiter d := by
      intro d hd
      have hnot := List.head?_dropWhile_not (!isDelimiter ·) cs
      rw [hd] at hnot
      simpa using hnot
    obtain ⟨slice, ts, hbroken⟩ := ih (map_eq_error.1 h)
    have htoken : Broken path before p ((c :: cs.takeWhile (!isDelimiter ·)) ++
        cs.dropWhile (!isDelimiter ·)) e _ _ :=
      hbroken.after rfl (.word hword hboundary)
    rw [List.cons_append, List.takeWhile_append_dropWhile] at htoken
    exact ⟨_, _, htoken⟩

/-- The text, read from `p` on, breaks off with the complaint `e`: that is where a string or
expression without an end begins. -/
def BreaksOff (path : String) (before : Option String) (p : Position) (text : List Char)
    (e : SyntaxError) : Prop :=
  ∃ slice left ended, text = slice ++ left ∧ Endless left ended e.cause ∧ e.path = path ∧
    e.position = p.after slice ∧ Begins path before p (slice ++ ended) e.position

theorem breaksOff_of_scanFrom {path : String} {before : Option String} {p : Position}
    {text : List Char} {e : SyntaxError} (h : scanFrom path before p text = .error e) :
    BreaksOff path before p text e := by
  obtain ⟨slice, ts, hbroken⟩ := exists_broken h
  obtain ⟨left, before', rfl, hreads, hstops⟩ := hbroken.exists_left
  obtain ⟨ended, hendless, hlike, hbegins⟩ := hstops.exists_ended
  refine ⟨slice, left, ended, rfl, hendless, hbroken.path_eq, hbroken.position, ?_⟩
  rw [hbroken.position]
  exact (hbegins path _).after (hreads ended hlike) fun us => List.subset_append_right ts us

end Token

end LookML
