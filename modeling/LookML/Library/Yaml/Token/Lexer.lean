import LookML.Library.Yaml.Scalar
/-!
# From YAML text to tokens

`Token.scan` splits a text into tokens. In block context indentation opens and closes collections.
A scalar, an alias or a collection may turn out to be a key: the place is remembered until a colon
is seen on the same line, and then the tokens that announce the key are put there.
-/

namespace LookML.Yaml

structure KeyPlace where
  /-- the number of tokens before it -/
  position : Nat
  /-- whether nothing but a key can stand there -/
  required : Bool
  index : Nat
  line : Nat
  column : Nat

/-- How far a text has been read. -/
structure Lexer where
  cursor : Cursor
  tokens : Array Token
  /-- the indentation of the block collection around, -1 outside of all -/
  indent : Int
  /-- the indentations further out, the innermost first -/
  outer : List Int
  /-- the places where keys may have begun, by flow context, the innermost first -/
  keys : List (Option KeyPlace)
  /-- whether a key may begin here -/
  keyAllowed : Bool

namespace Lexer

def start (text : List Char) : Lexer := ⟨.start text, #[], -1, [], [none], true⟩

def inFlow (l : Lexer) : Bool := l.keys.length > 1

def push (l : Lexer) (t : Token) (c : Cursor) : Lexer :=
  { l with tokens := l.tokens.push t, cursor := c }

/-- A collection is opened before the token at `position` if the column lies deeper than the
collection around. -/
def roll (l : Lexer) (column : Nat) (position : Nat) (t : Token) : Lexer :=
  if !l.inFlow && l.indent < column then
    { l with
      outer := l.indent :: l.outer
      indent := column
      tokens := l.tokens.toList.insertIdx position t |>.toArray }
  else l

def unroll (l : Lexer) (column : Int) : Lexer :=
  if l.inFlow then l
  else
    let closed := (l.indent :: l.outer).takeWhile (column < ·)
    match (l.indent :: l.outer).drop closed.length with
    | indent :: outer =>
      { l with
        indent := indent
        outer := outer
        tokens := l.tokens ++ Array.replicate closed.length Token.blockEnd }
    | [] => l

def dropKey? (l : Lexer) : Option Lexer :=
  match l.keys with
  | some place :: keys => if place.required then none else some { l with keys := none :: keys }
  | _ => some l

def saveKey? (l : Lexer) : Option Lexer :=
  if !l.keyAllowed then some l
  else do
    let l ← l.dropKey?
    let c := l.cursor
    let required := !l.inFlow && l.indent = c.column
    return { l with
      keys := some ⟨l.tokens.size, required, c.index, c.line, c.column⟩ :: l.keys.drop 1 }

def maxKeyLength : Nat := 1024

/-- Places on earlier lines, or too far back, are given up. -/
def dropStaleKeys? (l : Lexer) : Option Lexer := do
  let c := l.cursor
  let keys ← l.keys.mapM fun
    | some place =>
      if place.line < c.line || place.index + maxKeyLength < c.index then
        if place.required then none else some none
      else some (some place)
    | none => some none
  return { l with keys := keys }

/-- Skips blanks, comments and line breaks. A tab must not stand where a key may begin in block
context. A byte order mark may stand at the very beginning. -/
def skipBlanks : Nat → Lexer → Lexer
  | 0, l => l
  | fuel + 1, l =>
    let c := l.cursor
    let c := if c.index = 0 && c.rest.head? = some '\ufeff' then c.skip 1 else c
    let c := c.skipWhile fun d => d = ' ' || (d = '\t' && (l.inFlow || !l.keyAllowed))
    let c := if c.rest.head? = some '#' then c.skipWhile fun _ => true else c
    if c.rest.head?.any isBreak then
      skipBlanks fuel { l with cursor := c.readBreak.2, keyAllowed := l.keyAllowed || !l.inFlow }
    else { l with cursor := c }

/-! ## Indicators -/

def openFlow? (l : Lexer) (t : Token) : Option Lexer := do
  let l ← l.saveKey?
  return { l.push t (l.cursor.skip 1) with keys := none :: l.keys, keyAllowed := true }

def closeFlow? (l : Lexer) (t : Token) : Option Lexer := do
  let l ← l.dropKey?
  let keys := if l.inFlow then l.keys.drop 1 else l.keys
  return { l.push t (l.cursor.skip 1) with keys := keys, keyAllowed := false }

def flowEntry? (l : Lexer) : Option Lexer := do
  let l ← l.dropKey?
  return { l.push .flowEntry (l.cursor.skip 1) with keyAllowed := true }

def blockEntry? (l : Lexer) : Option Lexer := do
  if !l.inFlow && !l.keyAllowed then none
  let l := l.roll l.cursor.column l.tokens.size .blockSequenceStart
  let l ← l.dropKey?
  return { l.push .blockEntry (l.cursor.skip 1) with keyAllowed := true }

def key? (l : Lexer) : Option Lexer := do
  if !l.inFlow && !l.keyAllowed then none
  let l := l.roll l.cursor.column l.tokens.size .blockMappingStart
  let l ← l.dropKey?
  return { l.push .key (l.cursor.skip 1) with keyAllowed := !l.inFlow }

/-- A colon before a value, which makes what stands at the remembered place a key. -/
def value? (l : Lexer) : Option Lexer :=
  match l.keys with
  | some place :: keys =>
    let l := { l with tokens := l.tokens.toList.insertIdx place.position Token.key |>.toArray }
    let l := l.roll place.column place.position .blockMappingStart
    some { l.push .value (l.cursor.skip 1) with keys := none :: keys, keyAllowed := false }
  | _ =>
    if !l.inFlow && !l.keyAllowed then none
    else
      let l := l.roll l.cursor.column l.tokens.size .blockMappingStart
      some { l.push .value (l.cursor.skip 1) with keyAllowed := !l.inFlow }

def closeAll? (l : Lexer) : Option Lexer := do
  let l ← (l.unroll (-1)).dropKey?
  return { l with keyAllowed := false }

/-! ## Directives, anchors and tags -/

def readNumber? (c : Cursor) : Option (Nat × Cursor) :=
  let ds := c.ahead Char.isDigit
  if ds.isEmpty || 9 < ds.length then none
  else some (ds.foldl (fun n d => 10 * n + (d.toNat - '0'.toNat)) 0, c.skip ds.length)

def isTagChar (verbatim : Bool) (c : Char) : Bool :=
  isNameChar c || ";/?:@&=+$.!~*'()%".toList.contains c || (verbatim && ",[]".toList.contains c)

/-- Text with percent escapes, which spell the bytes of characters. -/
def unescape? (cs : List Char) : Option (List Char) :=
  (bytes? cs.length cs).bind fun bytes =>
    (String.fromUTF8? (ByteArray.mk bytes.toArray)).map String.toList
where
  /-- The bytes that a text with escapes stands for. -/
  bytes? : Nat → List Char → Option (List UInt8)
    | 0, _ => some []
    | _, [] => some []
    | fuel + 1, '%' :: cs => do
      let n ← hexNumber? 2 cs
      return UInt8.ofNat n :: (← bytes? fuel (cs.drop 2))
    | fuel + 1, c :: cs => (bytes? fuel cs).map ((String.singleton c).toUTF8.toList ++ ·)

def readTagText? (verbatim : Bool) (c : Cursor) : Option (List Char × Cursor) :=
  let raw := c.ahead (isTagChar verbatim)
  (unescape? raw).map fun text => (text, c.skip raw.length)

/-- The handle of a tag: an exclamation mark, or a name between two of them. What follows the first
mark of a tag without a handle belongs to its text. -/
def readHandle (c : Cursor) : List Char × Cursor :=
  let name := (c.skip 1).ahead isNameChar
  let c := c.skip (1 + name.length)
  if c.rest.head? = some '!' then ('!' :: name ++ ['!'], c.skip 1) else ('!' :: name, c)

def readTag? (c : Cursor) : Option (Token × Cursor) :=
  if c.rest.drop 1 |>.head? |> (· = some '<') then do
    let (text, c) ← readTagText? true (c.skip 2)
    if text.isEmpty || c.rest.head? ≠ some '>' then none
    return (.tag "" (String.ofList text), c.skip 1)
  else do
    let (handle, c) := readHandle c
    let (text, c) ← readTagText? false c
    if handle.length > 1 && handle.getLast? = some '!' then
      if text.isEmpty then none
      return (.tag (String.ofList handle) (String.ofList text), c)
    else
      let suffix := handle.drop 1 ++ text
      if suffix.isEmpty then return (.tag "" "!", c)
      return (.tag "!" (String.ofList suffix), c)

/-- What a percent sign at the start of a line says about the documents to come. -/
def readDirective? (c : Cursor) : Option (Token × Cursor) := do
  let name := (c.skip 1).ahead isNameChar
  let c := c.skip (1 + name.length)
  if !c.atWordEnd then none
  let (t, c) ← match String.ofList name with
    | "YAML" => do
      let (major, c) ← readNumber? (c.skipWhile isBlank)
      if c.rest.head? ≠ some '.' then none
      let (minor, c) ← readNumber? (c.skip 1)
      some (Token.version major minor, c)
    | "TAG" => do
      let c := c.skipWhile isBlank
      if c.rest.head? ≠ some '!' then none
      let (handle, c) := readHandle c
      if handle.length > 1 && handle.getLast? ≠ some '!' then none
      if !c.rest.head?.any isBlank then none
      let (meaning, c) ← readTagText? true (c.skipWhile isBlank)
      if meaning.isEmpty || !c.atWordEnd then none
      some (Token.tagHandle (String.ofList handle) (String.ofList meaning), c)
    | _ => none
  return (t, ← c.skipLine?)

def readAnchorName? (c : Cursor) : Option (String × Cursor) :=
  let name := c.ahead isNameChar
  let c := c.skip name.length
  let ended := c.atWordEnd || c.rest.head?.any ("?:,]\x7d%@\x60".toList.contains ·)
  if name.isEmpty || !ended then none else some (String.ofList name, c)

def beginsPlain (flow : Bool) (cs : List Char) : Bool :=
  match cs with
  | [] => false
  | c :: after =>
    !(isBlank c || isBreak c || "-?:,[]\x7b\x7d#&*!|>'\"%@\x60".toList.contains c) ||
      (c = '-' && !after.head?.any isBlank) || (!flow && (c = '?' || c = ':') && !endsWord after)

def keyed? (l : Lexer) (read : Cursor → Option (Token × Cursor)) : Option Lexer := do
  let l ← l.saveKey?
  let (t, c) ← read l.cursor
  return { l.push t c with keyAllowed := false }

/-- A plain scalar. A key may begin after it if it ends in a line break. -/
def plain? (l : Lexer) : Option Lexer := do
  let l ← l.saveKey?
  let (text, broken, c) ← readPlain l.inFlow (l.indent + 1) l.cursor
  return { l.push (.scalar .plain (String.ofList text)) c with keyAllowed := broken }

def block? (l : Lexer) (folded : Bool) : Option Lexer := do
  let l ← l.dropKey?
  let (text, c) ← readBlock folded l.indent (l.cursor.skip 1)
  let t := Token.scalar (if folded then .folded else .literal) (String.ofList text)
  return { l.push t c with keyAllowed := true }

def token? (l : Lexer) (d : Char) (after : List Char) : Option Lexer :=
  let c := l.cursor
  let quoted (single : Bool) := l.keyed? fun c =>
    (readQuoted single (c.rest.length + 1) (c.skip 1)).map fun (text, c) =>
      (.scalar .quoted (String.ofList text), c)
  if c.column = 0 && d = '%' then do
    let l ← l.closeAll?
    let (t, c) ← readDirective? c
    return l.push t c
  else if c.atDocumentMark then do
    let l ← l.closeAll?
    return l.push (if d = '-' then .documentStart else .documentEnd) (c.skip 3)
  else match d with
  | '[' => l.openFlow? .flowSequenceStart
  | '{' => l.openFlow? .flowMappingStart
  | ']' => l.closeFlow? .flowSequenceEnd
  | '}' => l.closeFlow? .flowMappingEnd
  | ',' => l.flowEntry?
  | '*' => l.keyed? fun c => (readAnchorName? (c.skip 1)).map fun (name, c) => (.aliased name, c)
  | '&' => l.keyed? fun c => (readAnchorName? (c.skip 1)).map fun (name, c) => (.anchor name, c)
  | '!' => l.keyed? fun c => do
    let (t, c) ← readTag? c
    if c.atWordEnd || (l.inFlow && c.rest.head? = some ',') then some (t, c) else none
  | '\'' => quoted true
  | '"' => quoted false
  | d =>
    if d = '-' && endsWord after then l.blockEntry?
    else if d = '?' && (l.inFlow || endsWord after) then l.key?
    else if d = ':' && (l.inFlow || endsWord after) then l.value?
    else if (d = '|' || d = '>') && !l.inFlow then l.block? (d = '>')
    else if beginsPlain l.inFlow (d :: after) then l.plain?
    else none

def run : Nat → Lexer → Option (Array Token)
  | 0, _ => none
  | fuel + 1, l => do
    let l := skipBlanks (l.cursor.rest.length + 1) l
    let l ← l.dropStaleKeys?
    let l := l.unroll l.cursor.column
    match l.cursor.rest with
    | [] =>
      let l ← l.closeAll?
      return l.tokens
    | d :: after =>
      let l ← l.token? d after
      run fuel l

end Lexer

def Token.scan (text : List Char) : Option (List Token) :=
  if text.all isAllowed then (Lexer.run (text.length + 2) (.start text)).map Array.toList else none

end LookML.Yaml
