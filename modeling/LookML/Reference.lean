import LookML.Text.Blank
/-!
# References

Expressions name fields by `${name}` and `${scope.name}`. `split` cuts a text into the characters
it keeps and the substitutions `${…}` in it, from left to right. `extract` reads the references
among the substitutions, `substitute` replaces all of them by a template.
-/

namespace LookML

/-- A field, by its bare name or within a view or alias. -/
structure Reference where
  scope : Option String
  name : String
deriving DecidableEq

namespace Reference

def splitAtBrace : List Char → Option (List Char × List Char)
  | [] => none
  | '}' :: rest => some ([], rest)
  | c :: cs => (splitAtBrace cs).map fun (inside, rest) => (c :: inside, rest)

theorem append_of_splitAtBrace {cs inside rest : List Char}
    (h : splitAtBrace cs = some (inside, rest)) : cs = inside ++ '}' :: rest := by
  fun_induction splitAtBrace cs generalizing inside rest with
  | case1 => simp at h
  | case2 rest' => simp_all
  | case3 c cs _ ih =>
    obtain ⟨⟨b, r⟩, hs, he⟩ := Option.map_eq_some_iff.1 h
    simp only [Prod.mk.injEq] at he
    obtain ⟨rfl, rfl⟩ := he
    simp [ih hs]

/-- A part of a text: one character that stays, or a substitution with what its braces hold. -/
inductive Piece where
  | kept (c : Char)
  | substitution (inside : List Char)
deriving DecidableEq

def Piece.inside? : Piece → Option (List Char)
  | .kept _ => none
  | .substitution inside => some inside

/-- The pieces of a text. A substitution reaches from an opener to the first closing brace after
it, whatever stands between; an opener that nothing closes is kept. -/
def split (text : List Char) : List Piece :=
  match text with
  | [] => []
  | '$' :: '{' :: cs =>
    match _close : splitAtBrace cs with
    | some (inside, rest) => .substitution inside :: split rest
    | none => .kept '$' :: split ('{' :: cs)
  | c :: cs => .kept c :: split cs
termination_by text.length
decreasing_by
  · have e := congrArg List.length (append_of_splitAtBrace ‹_›)
    simp only [List.length_append, List.length_cons] at e ⊢
    omega
  · simp
  · simp

def splitAtDots : List Char → List (List Char)
  | [] => [[]]
  | c :: cs =>
    if c = '.' then [] :: splitAtDots cs
    else match splitAtDots cs with
      | part :: parts => (c :: part) :: parts
      | [] => [[c]]

/-- A non-empty text of ASCII letters, digits and underscores. -/
def isIdentifier (cs : List Char) : Bool :=
  !cs.isEmpty && cs.all fun c => c.isAlphanum || c = '_'

/-- Names such as `TABLE` and `SQL_TABLE_NAME` stand for something other than a field: they have
an upper-case letter and no lower-case one. -/
def isPseudoField (cs : List Char) : Bool :=
  cs.any Char.isUpper && !cs.any Char.isLower

/-- The reference that `name` or `scope.name` spells, if it names a field. -/
def ofText? (cs : List Char) : Option Reference :=
  match splitAtDots cs with
  | [name] =>
    if isIdentifier name && !isPseudoField name then some ⟨none, String.ofList name⟩ else none
  | [scope, name] =>
    if isIdentifier scope && isIdentifier name && !isPseudoField name then
      some ⟨some (String.ofList scope), String.ofList name⟩
    else none
  | _ => none

def extract (text : String) : List Reference :=
  ((split text.toList).filterMap Piece.inside?).filterMap fun inside => ofText? (Text.trim inside)

def render (r : Reference) : String :=
  match r.scope with
  | some scope => "$\x7b" ++ scope ++ "." ++ r.name ++ "\x7d"
  | none => "$\x7b" ++ r.name ++ "\x7d"

/-- A part of a template: a character, or a group of the substitution that it replaces. -/
inductive Slot where
  | char (c : Char)
  | group (name : List Char)
deriving DecidableEq

def isGroupChar (c : Char) : Bool :=
  c.isAlphanum || c = '_'

/-- The slots of a template: `$name` and `${name}` are groups, `$$` is a dollar sign. A dollar
sign before anything else stands for itself. -/
def slots (template : List Char) : List Slot :=
  match template with
  | [] => []
  | '$' :: '$' :: cs => .char '$' :: slots cs
  | '$' :: '{' :: cs =>
    match _close : splitAtBrace cs with
    | some (name, rest) => .group name :: slots rest
    | none => .char '$' :: slots ('{' :: cs)
  | '$' :: cs =>
    if (cs.takeWhile isGroupChar).isEmpty then .char '$' :: slots cs
    else .group (cs.takeWhile isGroupChar) :: slots (cs.dropWhile isGroupChar)
  | c :: cs => .char c :: slots cs
termination_by template.length
decreasing_by
  all_goals simp only [List.length_cons]
  · omega
  · have e := congrArg List.length (append_of_splitAtBrace ‹_›)
    simp only [List.length_append, List.length_cons] at e
    omega
  · omega
  · omega
  · exact Nat.lt_succ_of_le (List.dropWhile_sublist _).length_le
  · omega

def groupNumber? : List Char → Option Nat
  | '+' :: ds => if !ds.isEmpty && ds.all Char.isDigit then (String.ofList ds).toNat? else none
  | ds => if !ds.isEmpty && ds.all Char.isDigit then (String.ofList ds).toNat? else none

/-- What a slot becomes when it replaces a substitution: group 0 is all of it, group 1 is what
its braces hold, and every other group is empty. -/
def Slot.fill (inside : List Char) : Slot → List Char
  | .char c => [c]
  | .group name =>
    match groupNumber? name with
    | some 0 => '$' :: '{' :: (inside ++ ['}'])
    | some 1 => inside
    | _ => []

def substitute (text template : String) : String :=
  let filling := slots template.toList
  String.ofList <| (split text.toList).flatMap fun
    | .kept c => [c]
    | .substitution inside => filling.flatMap (Slot.fill inside)

end Reference

end LookML
