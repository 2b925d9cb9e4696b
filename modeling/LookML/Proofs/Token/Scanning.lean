import LookML.Proofs.Text.Trim
import LookML.Proofs.Token.Lexeme
/-!
# Scanning, lexeme by lexeme

What a lexeme at the beginning of a text is read as, wherever the text stands.
-/

namespace LookML

open Text

namespace Token

/-! ## One step of the scanner -/

section Steps

variable {path : String} {before : Option String} {p : Position} {rest : List Char}

theorem scanFrom_nil : scanFrom path before p [] = .ok [⟨.endOfInput, p, p⟩] := by
  rw [scanFrom.eq_def]

theorem scanFrom_blank {c : Char} (hc : isBlank c) :
    scanFrom path before p (c :: rest) = scanFrom path before (p.next c) rest := by
  rw [scanFrom.eq_def]
  dsimp only
  rw [if_pos hc]

theorem scanFrom_comment {body : List Char} (hbody : '\n' ∉ body)
    (hrest : ∀ c, rest.head? = some c → c = '\n') :
    scanFrom path before p ('#' :: (body ++ rest)) =
      scanFrom path before ((p.next '#').after body) rest := by
  have hrun : ∀ c ∈ body, decide (c ≠ '\n') = true := by
    intro c hc
    exact decide_eq_true fun heq => hbody (heq ▸ hc)
  have hstop : ∀ c, rest.head? = some c → decide (c ≠ '\n') = false := by
    intro c hc
    exact decide_eq_false (not_not_intro (hrest c hc))
  rw [scanFrom.eq_def]
  dsimp only
  rw [if_neg (by decide), if_pos rfl, takeWhile_of_boundary hrun hstop,
    dropWhile_of_boundary hrun hstop]

theorem scanFrom_word {w : List Char} (hw : IsWord w)
    (hrest : ∀ c, rest.head? = some c → isDelimiter c) :
    scanFrom path before p (w ++ rest) = (⟨.word (String.ofList w), p, p.after w⟩ :: ·) <$>
      scanFrom path (some (String.ofList w)) (p.after w) rest := by
  obtain ⟨c, cs, rfl⟩ := List.exists_cons_of_ne_nil hw.ne_nil
  have hword : ∀ d ∈ c :: cs, isDelimiter d = false := fun d hd =>
    isDelimiter_eq_false_iff.2 (hw.clear d hd)
  obtain ⟨hblank, hclear⟩ := hw.clear c (.head _)
  have hcomment : c ≠ '#' := fun h => hw.head (congrArg some h)
  have hcolon : c ≠ ':' := by
    rintro rfl
    exact hclear (by decide)
  have hquote : c ≠ '"' := by
    rintro rfl
    exact hclear (by decide)
  have hrun : ∀ d ∈ cs, (!isDelimiter d) = true := by
    intro d hd
    rw [hword d (.tail _ hd)]
    rfl
  have hstop : ∀ d, rest.head? = some d → (!isDelimiter d) = false := by
    intro d hd
    rw [hrest d hd]
    rfl
  rw [List.cons_append, scanFrom.eq_def]
  dsimp only
  rw [if_neg (by rw [hblank]; decide), if_neg hcomment, if_neg hcolon, if_neg hquote,
    punctuation?_eq_none (hword c (.head _))]
  simp only [takeWhile_of_boundary hrun hstop, dropWhile_of_boundary hrun hstop]

theorem scanFrom_quoted {raw value : List Char} (hraw : Resolves raw value) :
    scanFrom path before p ('"' :: (raw ++ '"' :: rest)) =
      (⟨.quoted (String.ofList value), p, (p.next '"').after (raw ++ ['"'])⟩ :: ·) <$>
        scanFrom path none ((p.next '"').after (raw ++ ['"'])) rest := by
  rw [scanFrom.eq_def]
  dsimp only
  rw [if_neg (by decide), if_neg (by decide), if_neg (by decide), if_pos rfl]
  split
  · rename_i hsplit
    rw [splitQuoted_of_resolves hraw] at hsplit
    cases hsplit
  · rename_i hsplit
    rw [splitQuoted_of_resolves hraw] at hsplit
    cases hsplit
    rfl

theorem scanFrom_unendedString (hsplit : splitQuoted rest = none) :
    scanFrom path before p ('"' :: rest) = .error ⟨path, p, .unterminatedString⟩ := by
  rw [scanFrom.eq_def]
  dsimp only
  rw [if_neg (by decide), if_neg (by decide), if_neg (by decide), if_pos rfl]
  split
  · rfl
  · rename_i hsome
    rw [hsplit] at hsome
    cases hsome

theorem scanFrom_sign {kind : TokenKind} {c : Char} (hc : kind.sign? = some c)
    (hcolon : kind = .colon → before.filter isExpressionKey = none) :
    scanFrom path before p (c :: rest) =
      (⟨kind, p, p.next c⟩ :: ·) <$> scanFrom path none (p.next c) rest := by
  obtain ⟨_, hblank, hcomment, hquote⟩ := isDelimiter_of_sign? hc
  rw [scanFrom.eq_def]
  dsimp only
  rw [if_neg (by rw [hblank]; decide), if_neg hcomment]
  by_cases hkind : kind = .colon
  · subst hkind
    cases hc
    rw [if_pos rfl, hcolon rfl]
  · have hne : c ≠ ':' := by
      rintro rfl
      cases kind <;> first | exact hkind rfl | cases hc
    rw [if_neg hne, if_neg hquote, punctuation?_eq_some_iff.2 ⟨hc, hkind⟩]

theorem scanFrom_expression {key : String} {blanks body : List Char} (hkey : isExpressionKey key)
    (hblanks : ∀ c ∈ blanks, isBlank c) (hhead : ∀ c, body.head? = some c → isBlank c = false)
    (hbody : ¬ [';', ';'] <:+: body ++ [';']) :
    scanFrom path (some key) p (':' :: (blanks ++ (body ++ ';' :: ';' :: rest))) =
      (⟨.colon, p, p.next ':'⟩ ::
        ⟨.expression (String.ofList (trimEnd body)), (p.next ':').after blanks,
          ((p.next ':').after blanks).after (body ++ [';', ';'])⟩ :: ·) <$>
        scanFrom path none (((p.next ':').after blanks).after (body ++ [';', ';'])) rest := by
  have hstop : ∀ c, (body ++ ';' :: ';' :: rest).head? = some c → isBlank c = false := by
    intro c hc
    cases body with
    | nil =>
      cases hc
      decide
    | cons d body => exact hhead c hc
  have hsplit : splitAtTerminator (trimStart (blanks ++ (body ++ ';' :: ';' :: rest))) =
      some (body, rest) :=
    splitAtTerminator_eq_some_iff.2 ⟨dropWhile_of_boundary hblanks hstop, hbody⟩
  rw [scanFrom.eq_def]
  dsimp only
  rw [if_neg (by decide), if_neg (by decide), if_pos rfl,
    show (some key).filter isExpressionKey = some key from Option.filter_some_pos hkey]
  dsimp only
  split
  · rename_i hnone
    rw [hsplit] at hnone
    cases hnone
  · rename_i hsome
    rw [hsplit] at hsome
    cases hsome
    rw [takeWhile_of_boundary hblanks hstop]

theorem scanFrom_unendedExpression {key : String} (hkey : isExpressionKey key)
    (hsplit : splitAtTerminator (trimStart rest) = none) :
    scanFrom path (some key) p (':' :: rest) =
      .error ⟨path, p, .unterminatedExpression key⟩ := by
  rw [scanFrom.eq_def]
  dsimp only
  rw [if_neg (by decide), if_neg (by decide), if_pos rfl,
    show (some key).filter isExpressionKey = some key from Option.filter_some_pos hkey]
  dsimp only
  split
  · rfl
  · rename_i hsome
    rw [hsplit] at hsome
    cases hsome

end Steps

/-! ## A text, lexeme by lexeme -/

/-- The text after a last token that is the word `before`, if it is a word, is read as tokens of
these kinds. -/
def Scans (path : String) (before : Option String) (text : List Char) (kinds : List TokenKind) :
    Prop :=
  ∀ p, ∃ ts, scanFrom path before p text = .ok ts ∧ ts.map Token.kind = kinds

namespace Scans

variable {path : String} {before : Option String} {text rest : List Char} {kinds : List TokenKind}

theorem endOfInput : Scans path before [] [.endOfInput] := by
  intro p
  exact ⟨[⟨.endOfInput, p, p⟩], scanFrom_nil, rfl⟩

theorem gap (hgap : Gap text rest) (h : Scans path before rest kinds) :
    Scans path before text kinds := by
  induction hgap with
  | none => exact h
  | blank hc _ ih =>
    intro p
    rw [scanFrom_blank hc]
    exact ih h _
  | comment hbody hcs _ ih =>
    intro p
    rw [scanFrom_comment hbody hcs]
    exact ih h _

theorem word {w : String} (hw : IsWord w.toList)
    (hrest : ∀ c, rest.head? = some c → isDelimiter c) (h : Scans path (some w) rest kinds) :
    Scans path before (w.toList ++ rest) (.word w :: kinds) := by
  intro p
  obtain ⟨ts, hts, hkinds⟩ := h (p.after w.toList)
  rw [scanFrom_word hw hrest, String.ofList_toList, hts]
  exact ⟨_, rfl, by rw [List.map_cons, hkinds]⟩

theorem quoted {s : String} {raw : List Char} (hraw : Resolves raw s.toList)
    (h : Scans path none rest kinds) :
    Scans path before ('"' :: (raw ++ '"' :: rest)) (.quoted s :: kinds) := by
  intro p
  obtain ⟨ts, hts, hkinds⟩ := h ((p.next '"').after (raw ++ ['"']))
  rw [scanFrom_quoted hraw, hts, String.ofList_toList]
  exact ⟨_, rfl, by rw [List.map_cons, hkinds]⟩

theorem sign {kind : TokenKind} {c : Char} (hc : kind.sign? = some c)
    (hcolon : kind = .colon → before.filter isExpressionKey = none)
    (h : Scans path none rest kinds) : Scans path before (c :: rest) (kind :: kinds) := by
  intro p
  obtain ⟨ts, hts, hkinds⟩ := h (p.next c)
  rw [scanFrom_sign hc hcolon, hts]
  exact ⟨_, rfl, by rw [List.map_cons, hkinds]⟩

theorem expression {key : String} {blanks body : List Char} (hkey : isExpressionKey key)
    (hblanks : ∀ c ∈ blanks, isBlank c) (hhead : ∀ c, body.head? = some c → isBlank c = false)
    (hbody : ¬ [';', ';'] <:+: body ++ [';']) (h : Scans path none rest kinds) :
    Scans path (some key) (':' :: (blanks ++ (body ++ ';' :: ';' :: rest)))
      (.colon :: .expression (String.ofList (trimEnd body)) :: kinds) := by
  intro p
  obtain ⟨ts, hts, hkinds⟩ := h (((p.next ':').after blanks).after (body ++ [';', ';']))
  rw [scanFrom_expression hkey hblanks hhead hbody, hts]
  exact ⟨_, rfl, by rw [List.map_cons, List.map_cons, hkinds]⟩

end Scans

end Token

end LookML
