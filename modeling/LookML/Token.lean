import LookML.Position
/-!
# Tokens

The tokens of a LookML text. Punctuation stands for itself; words, quoted strings and raw
expressions carry their text.
-/

namespace LookML

inductive TokenKind where
  /-- a bare key, name, value or number -/
  | word (text : String)
  /-- a quoted string, escapes resolved -/
  | quoted (text : String)
  /-- the raw text of an expression, up to its terminator -/
  | expression (text : String)
  | colon
  | comma
  | leftBrace
  | rightBrace
  | leftBracket
  | rightBracket
  | endOfInput
deriving DecidableEq

def TokenKind.describe : TokenKind → String
  | .word text => s!"'{text}'"
  | .quoted text => s!"string \"{text}\""
  | .expression _ => "expression"
  | .colon => "':'"
  | .comma => "','"
  | .leftBrace => "'\x7b'"
  | .rightBrace => "'\x7d'"
  | .leftBracket => "'['"
  | .rightBracket => "']'"
  | .endOfInput => "end of input"

/-- A token and the positions of its first character and just past its last one. -/
structure Token where
  kind : TokenKind
  start : Position
  stop : Position
deriving DecidableEq

end LookML
