import LookML.Library.Pattern.Escape
/-!
# Classes in brackets

`[a-z_]`, `[^…]`, nested classes, ASCII classes such as `[:alpha:]`, and the set operations `&&`,
`--` and `~~`, which associate to the left.
-/

namespace LookML.Pattern

structure ClassNode where
  members : CharClass
  depth : Nat

inductive SetOperation where
  | intersection
  | difference
  | symmetricDifference

def SetOperation.apply : SetOperation → CharClass → CharClass → CharClass
  | intersection => .intersection
  | difference => .difference
  | symmetricDifference => .symmetricDifference

namespace ClassNode

def leaf (a : CharClass) : ClassNode := ⟨a, 0⟩

/-- The union of some items. Several items form a level of their own. -/
def unionOf : List ClassNode → ClassNode
  | [] => leaf .empty
  | [item] => item
  | items => ⟨(items.map members).foldr .union .empty, (items.map depth).foldl max 0 + 1⟩

/-- The items that were read last, joined to what stands left of them. Case is folded on both
sides of an operation before it applies. -/
def joined (m : Mode) (left : Option (SetOperation × ClassNode)) (items : List ClassNode) :
    ClassNode :=
  let right := unionOf items
  match left with
  | none => right
  | some (op, left) =>
    ⟨op.apply (m.fold left.members) (m.fold right.members), max left.depth right.depth + 1⟩

end ClassNode

def readMember (m : Mode) : List Char → Option (Escape × List Char)
  | [] => none
  | '\\' :: cs => readEscape m cs
  | c :: cs => some (.char c, cs)

/-- A character that may belong to a class: classes of bytes only hold ASCII. -/
def allowed? (m : Mode) (c : Char) : Option Char :=
  if m.unicode || c.toNat < 128 then some c else none

/-- A member, or a range between two characters. A hyphen before a closing bracket or before
another hyphen makes no range. -/
def readRange (m : Mode) (cs : List Char) : Option (ClassNode × List Char) := do
  let (first, rest) ← readMember m cs
  let alone (rest : List Char) : Option (ClassNode × List Char) := match first with
    | .char c => do return (.leaf (.single (← allowed? m c)), rest)
    | .members a => some (.leaf a, rest)
    | .boundary _ => none
  match m.skip rest with
  | [] => none
  | '-' :: afterHyphen =>
    match m.skip afterHyphen with
    | [] => none
    | ']' :: _ | '-' :: _ => alone ('-' :: afterHyphen)
    | afterHyphen =>
      let (last, rest) ← readMember m afterHyphen
      match first, last with
      | .char a, .char b =>
        let (a, b) := (← allowed? m a, ← allowed? m b)
        if a ≤ b then some (.leaf (.range a b), rest) else none
      | _, _ => none
  | rest => alone rest

def readAsciiClass (m : Mode) : List Char → Option (ClassNode × List Char)
  | ':' :: cs =>
    let (negated, cs) := match cs with
      | '^' :: rest => (true, rest)
      | cs => (false, cs)
    match cs.dropWhile (· ≠ ':') with
    | ':' :: ']' :: rest => do
      let a ← CharClass.ofAsciiName? (String.ofList (cs.takeWhile (· ≠ ':')))
      return (.leaf (if negated then .complement (m.fold a) else m.fold a), rest)
    | _ => none
  | _ => none

def leadingHyphens (m : Mode) : Nat → List Char → List ClassNode × List Char
  | 0, cs => ([], cs)
  | fuel + 1, cs =>
    match m.skip cs with
    | '-' :: rest =>
      let (hyphens, rest) := leadingHyphens m fuel rest
      (.leaf (.single '-') :: hyphens, rest)
    | cs => ([], cs)

/-- Whether a class is negated, the characters at its start that would mean something else further
on, and the text after them: hyphens, or a closing bracket. -/
def readClassStart (m : Mode) (cs : List Char) : Bool × List ClassNode × List Char :=
  let (negated, cs) := match m.skip cs with
    | '^' :: rest => (true, rest)
    | cs => (false, cs)
  match leadingHyphens m cs.length cs with
  | ([], cs) =>
    match m.skip cs with
    | ']' :: rest => (negated, [.leaf (.single ']')], rest)
    | cs => (negated, [], cs)
  | (hyphens, cs) => (negated, hyphens, cs)

/-- The rest of a class: `left` is the operand and operation before the items that are being read,
`items` are those read so far, the last one first. -/
def readClassItems (m : Mode) :
    Nat → Bool → Option (SetOperation × ClassNode) → List ClassNode → List Char →
      Option (ClassNode × List Char)
  | 0, _, _, _, _ => none
  | fuel + 1, negated, left, items, cs =>
    let operate (op : SetOperation) (rest : List Char) :=
      readClassItems m fuel negated (some (op, .joined m left items.reverse)) [] rest
    match m.skip cs with
    | [] => none
    | ']' :: rest => do
      let node := ClassNode.joined m left items.reverse
      return (⟨← m.negate? negated (m.fold node.members), node.depth + 1⟩, rest)
    | '&' :: '&' :: rest => operate .intersection rest
    | '-' :: '-' :: rest => operate .difference rest
    | '~' :: '~' :: rest => operate .symmetricDifference rest
    | '[' :: rest =>
      match readAsciiClass m rest with
      | some (item, rest) =>
        if (m.check? item.members).isSome then
          readClassItems m fuel negated left (item :: items) rest
        else none
      | none => do
        let (nested, first, rest) := readClassStart m rest
        let (item, rest) ← readClassItems m fuel nested none first.reverse rest
        readClassItems m fuel negated left (item :: items) rest
    | cs => do
      let (item, rest) ← readRange m cs
      readClassItems m fuel negated left (item :: items) rest

def readClass (m : Mode) (cs : List Char) : Option (ClassNode × List Char) :=
  let (negated, first, rest) := readClassStart m cs
  readClassItems m (cs.length + 1) negated none first.reverse rest

end LookML.Pattern
