import LookML.Config
import LookML.Text.Blank
/-!
# Reading configurations

A configuration is a YAML mapping whose keys are all known. What is left out, or left empty, keeps
its standard value.
-/

namespace LookML

namespace Yaml

/-- How a scalar is written. -/
inductive Style where
  | plain
  | quoted
  | literal
  | folded
deriving DecidableEq

/-- A node of a document. -/
inductive Node where
  | scalar (style : Style) (tag : Option String) (text : String)
  | sequence (tag : Option String) (items : List Node)
  | mapping (tag : Option String) (entries : List (Node × Node))

def hexDigit? (c : Char) : Option Nat :=
  if c.isDigit then some (c.toNat - '0'.toNat)
  else if 'a' ≤ c && c ≤ 'f' then some (c.toNat - 'a'.toNat + 10)
  else if 'A' ≤ c && c ≤ 'F' then some (c.toNat - 'A'.toNat + 10)
  else none

end Yaml

/-- The library that reads YAML: what `decode` makes of the one document of a text, or the complaint
about the text. -/
class YamlReader where
  read {α : Type} (decode : Yaml.Node → Option α) (text : String) : Except String α

namespace Config

open Yaml (Node)

def isEmpty : Node → Bool
  | .scalar .plain _ text => text = ""
  | _ => false

def entries? (n : Node) : Option (List (Node × Node)) :=
  match n with
  | .mapping _ entries => some entries
  | n => if isEmpty n then some [] else none

def items? (n : Node) : Option (List Node) :=
  match n with
  | .sequence _ items => some items
  | n => if isEmpty n then some [] else none

/-- The text of a scalar, whatever it could be read as. -/
def text? : Node → Option String
  | .scalar _ _ text => some text
  | _ => none

def texts? (n : Node) : Option (List String) := do
  (← items? n).mapM text?

def isNull (text : String) : Bool :=
  text ∈ ["null", "Null", "NULL", "~"]

def digitsIn? (base : Nat) (ds : List Char) : Option Nat :=
  if ds.isEmpty then none
  else (ds.mapM Yaml.hexDigit?).bind fun vs =>
    if vs.all (· < base) then some (vs.foldl (fun n d => base * n + d) 0) else none

def maxNumber : Nat := Nat.pow 2 64 - 1

/-- The number that a text spells: decimal without leading zeros, or in base 16, 8 or 2 after
`0x`, `0o` or `0b`, with a plus sign at most. -/
def number? (text : String) : Option Nat :=
  let unsigned := match text.toList with
    | '+' :: cs => cs
    | cs => cs
  let n := match unsigned with
    | '0' :: 'x' :: ds => digitsIn? 16 ds
    | '0' :: 'o' :: ds => digitsIn? 8 ds
    | '0' :: 'b' :: ds => digitsIn? 2 ds
    | '0' :: _ :: _ => none
    | ds => digitsIn? 10 ds
  n.filter (· ≤ maxNumber)

def integerTag : String := "tag:yaml.org,2002:int"

def nullTag : String := "tag:yaml.org,2002:null"

/-- The number that a scalar spells. It must not look like a text. -/
def toNumber? : Node → Option Nat
  | .scalar .plain _ text => number? text
  | .scalar .literal tag text => if tag = some integerTag then number? text else none
  | _ => none

/-- The number that a scalar spells, if it spells one and not the null value. -/
def toOptionalNumber? (n : Node) : Option (Option Nat) :=
  match n with
  | .scalar .plain tag text =>
    if tag = some nullTag then (if isNull text then some none else none)
    else if tag.isNone && (text = "" || isNull text) then some none
    else (toNumber? n).map some
  | n => (toNumber? n).map some

/-- The level that a scalar names, by its text or by its tag. -/
def toLevel? : Node → Option Level
  | .scalar style (some tag) text =>
    match tag.toList with
    | '!' :: name =>
      if style = .plain && (text = "" || isNull text) then Level.ofWord? (String.ofList name)
      else none
    | _ => Level.ofWord? text
  | .scalar _ none text => Level.ofWord? text
  | _ => none

/-- The fields of a mapping whose keys must be among the given ones, each at most once. -/
def fields? (known : List String) (n : Node) : Option (List (String × Node)) := do
  let fields ← (← entries? n).mapM fun (k, v) => (text? k).map fun k => (k, v)
  let names := fields.map Prod.fst
  if names.all known.contains && decide names.Nodup then some fields else none

def field? {α : Type} (fields : List (String × Node)) (name : String) (standard : α)
    (read : Node → Option α) : Option α :=
  match fields.lookup name with
  | some n => read n
  | none => some standard

/-- The levels of rules. A rule that is named twice has the level that comes last. -/
def toLevels? (n : Node) : Option Levels := do
  let pairs ← (← entries? n).mapM fun (k, v) => do return (← text? k, ← toLevel? v)
  return Levels.ofList pairs

def toOptions? (n : Node) : Option RuleOptions := do
  let standard := RuleOptions.standard
  let fields ← fields? ["field_naming", "yesno_name", "lexicon"] n
  let within {α : Type} (rule name : String) (value : α) (read : Node → Option α) : Option α :=
    field? fields rule value fun n => do field? (← fields? [name] n) name value read
  return {
    pattern := ← within "field_naming" "pattern" standard.pattern text?
    questionStarts := ← within "yesno_name" "prefixes" standard.questionStarts texts?
    forbidden := ← within "lexicon" "forbidden" standard.forbidden texts? }

def toLimits? (n : Node) : Option Limits := do
  let standard := Config.standard.limits
  let fields ← fields? ["timeout_secs", "threads"] n
  return {
    timeoutSeconds := ← field? fields "timeout_secs" standard.timeoutSeconds toNumber?
    threads := ← field? fields "threads" standard.threads toOptionalNumber? }

def ofNode? (n : Node) : Option Config := do
  let standard := Config.standard
  let fields ← fields? ["rules", "options", "engine", "exclude"] n
  return {
    levels := ← field? fields "rules" standard.levels toLevels?
    options := ← field? fields "options" standard.options toOptions?
    limits := ← field? fields "engine" standard.limits toLimits?
    exclude := ← field? fields "exclude" standard.exclude texts? }

/-- The configuration of a text. An empty text sets nothing. -/
def ofYaml [YamlReader] (text : String) : Except Error Config :=
  if (Text.trim text.toList).isEmpty then .ok standard
  else match YamlReader.read ofNode? text with
    | .error complaint => .error (@Error.malformed complaint)
    | .ok config =>
      match config.problem? with
      | some problem => .error (.invalid problem)
      | none => .ok config

end Config

end LookML
