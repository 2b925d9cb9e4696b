import LookML.Library.Pattern.Property
/-!
# Settings and escapes in patterns

The settings that change how a pattern is read, and what a backslash introduces.
-/

namespace LookML.Pattern

structure Mode where
  /-- upper and lower case match each other -/
  anyCase : Bool
  /-- `^` and `$` match at every line -/
  multiline : Bool
  /-- a dot matches line breaks too -/
  dotAll : Bool
  /-- carriage returns break lines -/
  returns : Bool
  /-- blanks and comments are skipped -/
  spaced : Bool
  /-- classes range over all of Unicode, not over bytes -/
  unicode : Bool
deriving DecidableEq

namespace Mode

/-- How a pattern is read unless it says otherwise. -/
def standard : Mode := ⟨false, false, false, false, false, true⟩

/-- The mode with the setting of a letter switched on or off. The letter `U`, which prefers
shorter matches, makes no difference to whether there is one. -/
def set? (m : Mode) (on : Bool) : Char → Option Mode
  | 'i' => some { m with anyCase := on }
  | 'm' => some { m with multiline := on }
  | 's' => some { m with dotAll := on }
  | 'R' => some { m with returns := on }
  | 'x' => some { m with spaced := on }
  | 'u' => some { m with unicode := on }
  | 'U' => some m
  | _ => none

/-- The text after blanks and comments. A comment reaches from a hash sign to the end of the
line. -/
def skipFrom (comment : Bool) : List Char → List Char
  | [] => []
  | c :: cs =>
    if comment then skipFrom (c ≠ '\n') cs
    else if Text.isBlank c then skipFrom false cs
    else if c = '#' then skipFrom true cs
    else c :: cs

def skip (m : Mode) (cs : List Char) : List Char :=
  if m.spaced then skipFrom false cs else cs

def fold (m : Mode) (a : CharClass) : CharClass :=
  if m.anyCase then .anyCase m.unicode a else a

/-- A class of bytes may only hold ASCII, since a match must not end inside a character. -/
def check? (m : Mode) (a : CharClass) : Option CharClass :=
  if m.unicode || a.isAscii then some a else none

def negate? (m : Mode) (negated : Bool) (a : CharClass) : Option CharClass :=
  m.check? (if negated then .complement a else a)

def word (m : Mode) : CharClass :=
  if m.unicode then .set Text.wordCharacters else .asciiWord

def letterClass? (m : Mode) : Char → Option CharClass
  | 'd' => some (if m.unicode then .set Text.Category.decimalNumber else .range '0' '9')
  | 's' => some (if m.unicode then .blank else .asciiBlank)
  | 'w' => some m.word
  | _ => none

end Mode

/-- Reads settings up to a colon or a closing parenthesis: letters that are switched on and, after
a minus sign, letters that are switched off. Nothing may be repeated, and a minus sign needs a
letter after it. Gives the mode, whether there was any setting, the character that ended them and
the rest. -/
def readSettings (m : Mode) (seen : List Char) :
    List Char → Option (Mode × Bool × Char × List Char)
  | [] => none
  | c :: cs =>
    if c = ':' || c = ')' then
      if seen.head? = some '-' then none else some (m, !seen.isEmpty, c, cs)
    else if c ∈ seen then none
    else if c = '-' then readSettings m ('-' :: seen) cs
    else match m.set? ('-' ∉ seen) c with
      | some m => readSettings m (c :: seen) cs
      | none => none

inductive Escape where
  | char (c : Char)
  /-- a class, complete with what the mode does to it -/
  | members (a : CharClass)
  | boundary (b : Boundary)

def hexDigit? (c : Char) : Option Nat :=
  if c.isDigit then some (c.toNat - '0'.toNat)
  else if 'a' ≤ c && c ≤ 'f' then some (c.toNat - 'a'.toNat + 10)
  else if 'A' ≤ c && c ≤ 'F' then some (c.toNat - 'A'.toNat + 10)
  else none

def hexChar? (digits : List Char) : Option Char := do
  let values ← digits.mapM hexDigit?
  let n := values.foldl (fun n d => 16 * n + d) 0
  if n.isValidChar then some (Char.ofNat n) else none

def readDigits (m : Mode) : Nat → List Char → Option (List Char × List Char)
  | 0, cs => some ([], cs)
  | count + 1, cs =>
    match m.skip cs with
    | [] => none
    | c :: cs => (readDigits m count cs).map fun (ds, rest) => (c :: ds, rest)

def readBraced (m : Mode) (comment : Bool) : List Char → Option (List Char × List Char)
  | [] => none
  | c :: cs =>
    if m.spaced && comment then readBraced m (c ≠ '\n') cs
    else if m.spaced && Text.isBlank c then readBraced m false cs
    else if m.spaced && c = '#' then readBraced m true cs
    else if c = '}' then some ([], cs)
    else (readBraced m false cs).map fun (inside, rest) => (c :: inside, rest)

/-- A code point in hexadecimal: as many digits as the letter asks for, or any number of them in
braces. In a class of bytes two digits are a byte, which must be ASCII. -/
def readHex (m : Mode) (letter : Char) (cs : List Char) : Option (Char × List Char) := do
  match m.skip cs with
  | '{' :: cs =>
    let (digits, rest) ← readBraced m false cs
    if digits.isEmpty then none
    return (← hexChar? digits, m.skip rest)
  | cs =>
    let count := if letter = 'x' then 2 else if letter = 'u' then 4 else 8
    let (digits, rest) ← readDigits m count cs
    let c ← hexChar? digits
    if !m.unicode && letter = 'x' && 127 < c.toNat then none
    return (c, m.skip rest)

def readProperty (m : Mode) (negated : Bool) (cs : List Char) :
    Option (CharClass × List Char) := do
  if !m.unicode then none
  match m.skip cs with
  | [] => none
  | '{' :: cs =>
    let (query, rest) ← readBraced m false cs
    return (← m.negate? negated (m.fold (← CharClass.ofQuery? query)), rest)
  | c :: cs =>
    if c = '\\' then none
    return (← m.negate? negated (m.fold (← CharClass.ofName? [c])), m.skip cs)

def isBoundaryLetter (c : Char) : Bool :=
  c.isAlpha || c = '-'

/-- The boundary after `\b`, which a name in braces may restrict. A brace before anything but a
name begins a repetition. -/
def readWordBoundary (m : Mode) (cs : List Char) : Option (Boundary × List Char) :=
  match cs with
  | '{' :: inside =>
    match m.skip inside with
    | [] => none
    | c :: _ =>
      if !isBoundaryLetter c then some (.word m.word, cs)
      else do
        let (name, rest) ← readBraced m false inside
        match String.ofList name with
        | "start" => some (.wordStart m.word, rest)
        | "end" => some (.wordEnd m.word, rest)
        | "start-half" => some (.wordStartHalf m.word, rest)
        | "end-half" => some (.wordEndHalf m.word, rest)
        | _ => none
  | _ => some (.word m.word, cs)

/-- Reads what stands after a backslash. Letters and digits without a meaning are refused, as are
the angle brackets inside classes and everything beyond ASCII; other characters stand for
themselves. -/
def readEscape (m : Mode) : List Char → Option (Escape × List Char)
  | [] => none
  | c :: cs =>
    match c with
    | 'x' | 'u' | 'U' => (readHex m c cs).map fun (c, rest) => (.char c, rest)
    | 'p' | 'P' => (readProperty m (c = 'P') cs).map fun (a, rest) => (.members a, rest)
    | 'd' | 's' | 'w' | 'D' | 'S' | 'W' => do
      return (.members (← m.negate? c.isUpper (← m.letterClass? c.toLower)), cs)
    | 'a' => some (.char '\x07', cs)
    | 'f' => some (.char '\x0c', cs)
    | 't' => some (.char '\t', cs)
    | 'n' => some (.char '\n', cs)
    | 'r' => some (.char '\r', cs)
    | 'v' => some (.char '\x0b', cs)
    | 'A' => some (.boundary .textStart, cs)
    | 'z' => some (.boundary .textEnd, cs)
    | 'b' => (readWordBoundary m cs).map fun (b, rest) => (.boundary b, rest)
    | 'B' => some (.boundary (.notWord m.word), cs)
    | '<' => some (.boundary (.wordStart m.word), cs)
    | '>' => some (.boundary (.wordEnd m.word), cs)
    | c => if c.isAlphanum || 127 < c.toNat then none else some (.char c, cs)

end LookML.Pattern
