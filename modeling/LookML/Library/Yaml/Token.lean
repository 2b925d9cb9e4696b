import LookML.Config.Decode
/-!
# YAML tokens

The tokens of a YAML text. Indentation has become tokens of its own, and a key is announced before
it, although only the colon after it gives it away.
-/

namespace LookML.Yaml

/-- A token of YAML. -/
inductive Token where
  | version (major minor : Nat)
  /-- a handle and what it stands for in tags -/
  | tagHandle (handle meaning : String)
  | documentStart
  | documentEnd
  | blockSequenceStart
  | blockMappingStart
  | blockEnd
  | flowSequenceStart
  | flowSequenceEnd
  | flowMappingStart
  | flowMappingEnd
  | blockEntry
  | flowEntry
  | key
  | value
  | aliased (name : String)
  | anchor (name : String)
  | tag (handle suffix : String)
  | scalar (style : Style) (text : String)
deriving DecidableEq

/-! ## Characters -/

def isBlank (c : Char) : Bool :=
  c = ' ' || c = '\t'

def isBreak (c : Char) : Bool :=
  c = '\n' || c = '\r' || c = '\u0085' || c = '\u2028' || c = '\u2029'

def endsWord (cs : List Char) : Bool :=
  cs.head?.all fun c => isBlank c || isBreak c

def endsLine (cs : List Char) : Bool :=
  cs.head?.all isBreak

def isNameChar (c : Char) : Bool :=
  c.isAlphanum || c = '_' || c = '-'

/-- The characters that a text may consist of: no control characters but tabs and line breaks. -/
def isAllowed (c : Char) : Bool :=
  c = '\t' || c = '\n' || c = '\r' || (' ' ≤ c && c ≤ '~') || c = '\u0085' ||
    ('\u00a0' ≤ c && c.toNat ≠ 0xfffe && c.toNat ≠ 0xffff)

def isDocumentMark (cs : List Char) : Bool :=
  (['-', '-', '-'].isPrefixOf cs || ['.', '.', '.'].isPrefixOf cs) && endsWord (cs.drop 3)

/-! ## Reading with a position -/

/-- A place in a text, and what follows it. -/
structure Cursor where
  rest : List Char
  index : Nat
  line : Nat
  column : Nat

namespace Cursor

def start (text : List Char) : Cursor := ⟨text, 0, 0, 0⟩

def skip (c : Cursor) (n : Nat) : Cursor :=
  ⟨c.rest.drop n, c.index + n, c.line, c.column + n⟩

def ahead (c : Cursor) (p : Char → Bool) : List Char :=
  c.rest.takeWhile fun d => p d && !isBreak d

def skipWhile (c : Cursor) (p : Char → Bool) : Cursor :=
  c.skip (c.ahead p).length

/-- The place after the line break ahead, and the break as it is part of a text: all but the
separators of lines and paragraphs become line feeds. -/
def readBreak (c : Cursor) : List Char × Cursor :=
  match c.rest with
  | '\r' :: '\n' :: rest => (['\n'], ⟨rest, c.index + 2, c.line + 1, 0⟩)
  | d :: rest =>
    ([if d = '\u2028' || d = '\u2029' then d else '\n'], ⟨rest, c.index + 1, c.line + 1, 0⟩)
  | [] => ([], c)

def atWordEnd (c : Cursor) : Bool := endsWord c.rest

def atLineEnd (c : Cursor) : Bool := endsLine c.rest

def atDocumentMark (c : Cursor) : Bool :=
  c.column = 0 && isDocumentMark c.rest

def skipLine? (c : Cursor) : Option Cursor :=
  let c := c.skipWhile isBlank
  let c := if c.rest.head? = some '#' then c.skipWhile fun _ => true else c
  if !c.atLineEnd then none else some c.readBreak.2

end Cursor

end LookML.Yaml
