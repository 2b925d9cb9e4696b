import LookML.SyntaxError
import LookML.Text.Blank
/-!
# From characters to tokens

`Token.scan` splits a text into tokens. Blanks and comments separate tokens and are dropped, but
still advance the position. The colon after an expression key changes how the text goes on: what
follows is raw up to the terminator `;;`.
-/

namespace LookML

open Text

def splitAtTerminator : List Char → Option (List Char × List Char)
  | [] => none
  | ';' :: ';' :: rest => some ([], rest)
  | c :: cs => (splitAtTerminator cs).map fun (body, rest) => (c :: body, rest)

theorem append_of_splitAtTerminator {cs body rest : List Char}
    (h : splitAtTerminator cs = some (body, rest)) : cs = body ++ ';' :: ';' :: rest := by
  fun_induction splitAtTerminator cs generalizing body rest with
  | case1 => simp at h
  | case2 rest' => simp_all
  | case3 c cs _ ih =>
    obtain ⟨⟨b, r⟩, hs, he⟩ := Option.map_eq_some_iff.1 h
    simp only [Prod.mk.injEq] at he
    obtain ⟨rfl, rfl⟩ := he
    simp [ih hs]

/-- The content of a quoted string, the characters it is written with, its closing quote
included, and the text after it. A backslash stands before a quote or a backslash that is part
of the content, and for itself before anything else. -/
def splitQuoted : List Char → Option (List Char × List Char × List Char)
  | [] => none
  | '"' :: rest => some ([], ['"'], rest)
  | '\\' :: '"' :: cs =>
    (splitQuoted cs).map fun (body, raw, rest) => ('"' :: body, '\\' :: '"' :: raw, rest)
  | '\\' :: '\\' :: cs =>
    (splitQuoted cs).map fun (body, raw, rest) => ('\\' :: body, '\\' :: '\\' :: raw, rest)
  | c :: cs => (splitQuoted cs).map fun (body, raw, rest) => (c :: body, c :: raw, rest)

theorem append_of_splitQuoted {cs body raw rest : List Char}
    (h : splitQuoted cs = some (body, raw, rest)) : cs = raw ++ rest := by
  fun_induction splitQuoted cs generalizing body raw rest with
  | case1 => simp at h
  | case2 rest' =>
    obtain ⟨rfl, rfl, rfl⟩ : [] = body ∧ ['"'] = raw ∧ rest' = rest := by simpa using h
    rfl
  | case3 cs ih | case4 cs ih =>
    obtain ⟨⟨b, w, r⟩, hs, he⟩ := Option.map_eq_some_iff.1 h
    simp only [Prod.mk.injEq] at he
    obtain ⟨rfl, rfl, rfl⟩ := he
    simp [ih hs]
  | case5 c cs _ _ _ ih =>
    obtain ⟨⟨b, w, r⟩, hs, he⟩ := Option.map_eq_some_iff.1 h
    simp only [Prod.mk.injEq] at he
    obtain ⟨rfl, rfl, rfl⟩ := he
    simp [ih hs]

namespace Token

/-- The keys whose value is raw text terminated by `;;`. -/
def isExpressionKey (key : String) : Bool :=
  key = "sql" || "sql_".toList.isPrefixOf key.toList || key = "html" || key = "expression" ||
    key = "expression_custom_filter"

def isDelimiter (c : Char) : Bool :=
  isBlank c || c = ':' || c = ',' || c = '{' || c = '}' || c = '[' || c = ']' || c = '"'

def punctuation? : Char → Option TokenKind
  | ',' => some .comma
  | '{' => some .leftBrace
  | '}' => some .rightBrace
  | '[' => some .leftBracket
  | ']' => some .rightBracket
  | _ => none

/-- The tokens of `text`, which goes on at position `p` after a last token that is the word
`before`, if it is a word. -/
def scanFrom (path : String) (before : Option String) (p : Position) (text : List Char) :
    Except SyntaxError (List Token) :=
  match text with
  | [] => .ok [⟨.endOfInput, p, p⟩]
  | c :: cs =>
    if isBlank c then scanFrom path before (p.next c) cs
    else if c = '#' then
      scanFrom path before ((p.next c).after (cs.takeWhile (· ≠ '\n'))) (cs.dropWhile (· ≠ '\n'))
    else if c = ':' then
      let colon : Token := ⟨.colon, p, p.next c⟩
      match before.filter isExpressionKey with
      | none => (colon :: ·) <$> scanFrom path none (p.next c) cs
      | some key =>
        match _split : splitAtTerminator (trimStart cs) with
        | none => .error ⟨path, p, .unterminatedExpression key⟩
        | some (body, rest) =>
          let start := (p.next c).after (cs.takeWhile isBlank)
          let stop := start.after (body ++ [';', ';'])
          let expression : Token := ⟨.expression (String.ofList (trimEnd body)), start, stop⟩
          (colon :: expression :: ·) <$> scanFrom path none stop rest
    else if c = '"' then
      match _split : splitQuoted cs with
      | none => .error ⟨path, p, .unterminatedString⟩
      | some (body, raw, rest) =>
        let stop := (p.next c).after raw
        (⟨.quoted (String.ofList body), p, stop⟩ :: ·) <$> scanFrom path none stop rest
    else
      match punctuation? c with
      | some kind => (⟨kind, p, p.next c⟩ :: ·) <$> scanFrom path none (p.next c) cs
      | none =>
        let word := c :: cs.takeWhile (!isDelimiter ·)
        let text := String.ofList word
        (⟨.word text, p, p.after word⟩ :: ·) <$>
          scanFrom path (some text) (p.after word) (cs.dropWhile (!isDelimiter ·))
termination_by text.length
decreasing_by
  all_goals simp only [List.length_cons]
  · omega
  · exact Nat.lt_succ_of_le (List.dropWhile_sublist _).length_le
  · omega
  · have e := congrArg List.length (append_of_splitAtTerminator ‹_›)
    have le := length_trimStart_le cs
    simp only [List.length_append, List.length_cons] at e
    omega
  · have e := congrArg List.length (append_of_splitQuoted ‹_›)
    simp only [List.length_append] at e
    omega
  · omega
  · exact Nat.lt_succ_of_le (List.dropWhile_sublist _).length_le

/-- The tokens of a whole text; the last one is the end of input. -/
def scan (path text : String) : Except SyntaxError (List Token) :=
  scanFrom path none .start text.toList

end Token

end LookML
