import LookML.Text.Alphabetic
import LookML.Text.Blank
/-!
# SQL tokens

A tolerant reading of SQL, which takes the quoting and the operators of many databases. Only what
the grammar looks at is kept: the text of words and symbols, and the kind of everything else.
-/

namespace LookML.Sql

/-- A token of SQL. -/
inductive Token where
  /-- an identifier or keyword, in upper case -/
  | word (upper : String)
  /-- an identifier in double quotes or grave accents -/
  | quotedName
  /-- a string in single quotes, which may also serve as a name -/
  | string
  /-- a string of another form -/
  | literal
  | number
  | placeholder
  | symbol (text : String)
deriving DecidableEq

def isNameStart (c : Char) : Bool :=
  Text.isAlphabetic c || c = '_' || c = '#' || c = '@'

def isNamePart (c : Char) : Bool :=
  isNameStart c || c.isDigit || c = '$'

def afterQuote (quote : Char) : List Char → Option (List Char)
  | [] => none
  | [c] => if c = quote then some [] else none
  | c :: d :: cs =>
    if c ≠ quote then afterQuote quote (d :: cs)
    else if d = quote then afterQuote quote cs
    else some (d :: cs)

/-- The text after the closing quote, where a backslash takes the next character with it. -/
def afterEscaped : List Char → Option (List Char)
  | [] => none
  | '\\' :: _ :: cs => afterEscaped cs
  | '\'' :: '\'' :: cs => afterEscaped cs
  | '\'' :: cs => some cs
  | _ :: cs => afterEscaped cs

/-- The text after a comment that `depth` closing marks end. -/
def afterComment : Nat → List Char → Option (List Char)
  | 0, cs => some cs
  | _ + 1, [] => none
  | depth + 1, '*' :: '/' :: cs => afterComment depth cs
  | depth + 1, '/' :: '*' :: cs => afterComment (depth + 2) cs
  | depth + 1, _ :: cs => afterComment (depth + 1) cs

def afterMark (mark : List Char) : List Char → Option (List Char)
  | [] => none
  | c :: cs =>
    if mark.isPrefixOf (c :: cs) then some ((c :: cs).drop mark.length) else afterMark mark cs

def afterExponent (cs : List Char) : List Char :=
  let digits := match cs with
    | 'e' :: '+' :: rest | 'e' :: '-' :: rest | 'E' :: '+' :: rest | 'E' :: '-' :: rest => rest
    | 'e' :: rest | 'E' :: rest => rest
    | _ => []
  match digits with
  | d :: _ => if d.isDigit then digits.dropWhile Char.isDigit else cs
  | [] => cs

/-- What stands at the start of a text that begins with a digit or a point. -/
def scanNumber (cs : List Char) : Token × List Char :=
  let isHex (c : Char) : Bool :=
    c.isDigit || ('a' ≤ c && c ≤ 'f') || ('A' ≤ c && c ≤ 'F')
  match cs.takeWhile Char.isDigit, cs.dropWhile Char.isDigit with
  | ['0'], 'x' :: rest => (.literal, rest.dropWhile isHex)
  | whole, '.' :: rest =>
    if whole.isEmpty && !(rest.head?.any Char.isDigit) then (.symbol ".", rest)
    else (.number, afterLong (afterExponent (rest.dropWhile Char.isDigit)))
  | _, rest => (.number, afterLong (afterExponent rest))
where
  /-- A long number may end in a capital L. -/
  afterLong : List Char → List Char
    | 'L' :: rest => rest
    | rest => rest

/-- What stands after a dollar sign: a string between marks `$$` or `$tag$`, or a placeholder. -/
def scanDollar (cs : List Char) : Option (Token × List Char) :=
  let isTag (c : Char) : Bool := Text.isAlphanumeric c || c = '_'
  let tag := cs.takeWhile isTag
  match cs.dropWhile isTag with
  | '$' :: rest => (afterMark ('$' :: tag ++ ['$']) rest).map fun rest => (.literal, rest)
  | rest => some (.placeholder, rest)

def operators : List String :=
  ["<=>", "->>", "#>>", "||/", "!~~*", "!~~", "!~*", "~~*", "|/", "<=", "<>", "<<", "<@", ">=",
    ">>", "!=", "!!", "!~", "||", "|>", "->", "#>", "#-", "::", ":=", "==", "=>", "&&", "//",
    "~~", "~*", "^@", "@>", "@@", "@?"]

def isSymbol (c : Char) : Bool :=
  c ∈ "()[]\x7b\x7d,;:+-*/%=<>!|&^~#@\\".toList

def scanSymbol (cs : List Char) : Option (Token × List Char) :=
  match operators.find? fun o => o.toList.isPrefixOf cs with
  | some o => some (.symbol o, cs.drop o.length)
  | none =>
    match cs with
    | c :: rest => if isSymbol c then some (.symbol (String.ofList [c]), rest) else none
    | [] => none

def scanWord (cs : List Char) : Token × List Char :=
  (.word (String.ofList ((cs.takeWhile isNamePart).map Char.toUpper)), cs.dropWhile isNamePart)

def scanLettered (letter : Char) (cs : List Char) : Option (Token × List Char) :=
  let literal (rest : Option (List Char)) := rest.map fun rest => (Token.literal, rest)
  match cs with
  | '\'' :: rest =>
    if letter ∈ ['e', 'E'] then literal (afterEscaped rest)
    else if letter ∈ ['b', 'B', 'r', 'R', 'n', 'N', 'x', 'X'] then literal (afterQuote '\'' rest)
    else some (scanWord (letter :: cs))
  | '"' :: rest =>
    if letter ∈ ['b', 'B', 'r', 'R'] then literal (afterQuote '"' rest)
    else some (scanWord (letter :: cs))
  | '&' :: '\'' :: rest =>
    if letter ∈ ['u', 'U'] then literal (afterQuote '\'' rest)
    else some (scanWord (letter :: cs))
  | cs => some (scanWord (letter :: cs))

/-- The next token, absent if only a blank or a comment was read, and the text after it. -/
def scanToken (c : Char) (cs : List Char) : Option (Option Token × List Char) :=
  let token (t : Token × List Char) : Option Token × List Char := (some t.1, t.2)
  let quoted (t : Token) (quote : Char) := (afterQuote quote cs).map fun rest => token (t, rest)
  if Text.isBlank c then some (none, cs)
  else match c, cs with
  | '-', '-' :: rest => some (none, rest.dropWhile (· ≠ '\n'))
  | '/', '*' :: rest => (afterComment 1 rest).map fun rest => (none, rest)
  | '\'', _ => quoted .string '\''
  | '"', _ => quoted .quotedName '"'
  | '\x60', _ => quoted .quotedName '\x60'
  | '$', _ => (scanDollar cs).map token
  | '?', _ => some (token (.placeholder, cs.dropWhile Char.isDigit))
  | '.', _ => some (token (scanNumber ('.' :: cs)))
  | c, cs =>
    if c.isDigit then some (token (scanNumber (c :: cs)))
    else if c = '#' || c = '@' then
      if cs.head?.any isNameStart then some (token (scanWord (c :: cs)))
      else (scanSymbol (c :: cs)).map token
    else if isNameStart c then (scanLettered c cs).map token
    else (scanSymbol (c :: cs)).map token

def scan : Nat → List Char → Option (List Token)
  | _, [] => some []
  | 0, _ :: _ => none
  | fuel + 1, c :: cs => do
    let (token, rest) ← scanToken c cs
    return token.toList ++ (← scan fuel rest)

def tokenize (text : String) : Option (List Token) :=
  scan text.length text.toList

end LookML.Sql
