import LookML.Library.Pattern
import LookML.Text.Alphabetic
import LookML.Text.Lowercase
import LookML.Text.Script
import LookML.Text.Uppercase
/-!
# Named classes

The classes of characters that a pattern can name: ASCII classes, and the categories, scripts and
binary properties of Unicode.
-/

namespace LookML.CharClass

open Text

def ofAsciiName? : String → Option CharClass
  | "alnum" => some (union (range '0' '9') letters)
  | "alpha" => some letters
  | "ascii" => some (range '\x00' '\x7f')
  | "blank" => some (ofChars ['\t', ' '])
  | "cntrl" => some (union (range '\x00' '\x1f') (single '\x7f'))
  | "digit" => some (range '0' '9')
  | "graph" => some (range '!' '~')
  | "lower" => some (range 'a' 'z')
  | "print" => some (range ' ' '~')
  | "punct" => some
    (union (range '!' '/') (union (range ':' '@') (union (range '[' '\x60') (range '\x7b' '~'))))
  | "space" => some asciiBlank
  | "upper" => some (range 'A' 'Z')
  | "word" => some asciiWord
  | "xdigit" => some (union (range '0' '9') (union (range 'A' 'F') (range 'a' 'f')))
  | _ => none
where
  letters : CharClass := union (range 'A' 'Z') (range 'a' 'z')

def categoryNames : List (List String × CharSet) :=
  [(["l", "letter"], Category.letter),
    (["lc", "casedletter"], Category.casedLetter),
    (["lu", "uppercaseletter"], Category.uppercaseLetter),
    (["ll", "lowercaseletter"], Category.lowercaseLetter),
    (["lt", "titlecaseletter"], Category.titlecaseLetter),
    (["lm", "modifierletter"], Category.modifierLetter),
    (["lo", "otherletter"], Category.otherLetter),
    (["m", "mark", "combiningmark"], Category.mark),
    (["mn", "nonspacingmark"], Category.nonspacingMark),
    (["mc", "spacingmark"], Category.spacingMark),
    (["me", "enclosingmark"], Category.enclosingMark),
    (["n", "number"], Category.number),
    (["nd", "decimalnumber", "digit"], Category.decimalNumber),
    (["nl", "letternumber"], Category.letterNumber),
    (["no", "othernumber"], Category.otherNumber),
    (["p", "punctuation", "punct"], Category.punctuation),
    (["pc", "connectorpunctuation"], Category.connectorPunctuation),
    (["pd", "dashpunctuation"], Category.dashPunctuation),
    (["ps", "openpunctuation"], Category.openPunctuation),
    (["pe", "closepunctuation"], Category.closePunctuation),
    (["pi", "initialpunctuation"], Category.initialPunctuation),
    (["pf", "finalpunctuation"], Category.finalPunctuation),
    (["po", "otherpunctuation"], Category.otherPunctuation),
    (["s", "symbol"], Category.symbol),
    (["sm", "mathsymbol"], Category.mathSymbol),
    (["sc", "currencysymbol"], Category.currencySymbol),
    (["sk", "modifiersymbol"], Category.modifierSymbol),
    (["so", "othersymbol"], Category.otherSymbol),
    (["z", "separator"], Category.separator),
    (["zs", "spaceseparator"], Category.spaceSeparator),
    (["zl", "lineseparator"], Category.lineSeparator),
    (["zp", "paragraphseparator"], Category.paragraphSeparator),
    (["cc", "control", "cntrl"], Category.control),
    (["cf", "format"], Category.format),
    (["cs", "surrogate"], []),
    (["co", "privateuse"], Category.privateUse)]

def ofCategoryName? : String → Option CharClass
  | "any" => some any
  | "ascii" => some (range '\x00' '\x7f')
  | "assigned" => some (set Category.assigned)
  | "cn" | "unassigned" => some (complement (set Category.assigned))
  | "c" | "other" => some (union (set (Category.control ++ Category.format ++ Category.privateUse))
      (complement (set Category.assigned)))
  | name => (categoryNames.find? (·.1.contains name)).map fun c => set c.2

def ofScriptName? (name : String) : Option CharClass :=
  (scripts.lookup name).map set

def ofPropertyName? : String → Option CharClass
  | "alphabetic" | "alpha" => some (set alphabetic)
  | "lowercase" | "lower" => some (set lowercase)
  | "uppercase" | "upper" => some (set uppercase)
  | "whitespace" | "wspace" | "space" => some blank
  | _ => none

def plainLetters (cs : List Char) : List Char :=
  (cs.filter fun c => c.toNat < 128 && c ≠ ' ' && c ≠ '_' && c ≠ '-').map Char.toLower

/-- A name in the form that names are compared in: spaces, underscores, hyphens and case make no
difference, nor does a leading `is`. -/
def plainName (cs : List Char) : String :=
  if (cs.take 2).map Char.toLower = ['i', 's'] then
    match plainLetters (cs.drop 2) with
    | ['c'] => "isc"
    | rest => String.ofList rest
  else String.ofList (plainLetters cs)

/-- The class that a single name stands for: a binary property, a category or a script. -/
def ofName? (name : List Char) : Option CharClass :=
  let plain := plainName name
  (ofPropertyName? plain).or <| (ofCategoryName? plain).or <| ofScriptName? plain

def ofPropertyValue? (property value : List Char) : Option CharClass :=
  match plainName property with
  | "gc" | "generalcategory" => ofCategoryName? (plainName value)
  | "sc" | "script" => ofScriptName? (plainName value)
  | _ => none

/-- The class that the text between the braces of `\p` stands for: `name`, `property=value`,
`property:value` or `property!=value`. -/
def ofQuery? (query : List Char) : Option CharClass :=
  let notEqual := query.zip (query.drop 1) |>.idxOf? ('!', '=')
  match notEqual with
  | some i => (ofPropertyValue? (query.take i) (query.drop (i + 2))).map complement
  | none =>
    let split (c : Char) := (query.idxOf? c).map fun i => (query.take i, query.drop (i + 1))
    match (split ':').or (split '=') with
    | some (property, value) => ofPropertyValue? property value
    | none => ofName? query

end LookML.CharClass
