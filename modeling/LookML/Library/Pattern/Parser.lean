import LookML.Library.Pattern.Bracket
/-!
# Reading patterns

`Pattern.parse?` reads a regular expression. It refuses what is not well formed, what is nested
too deeply and what would unfold to too large an automaton.
-/

namespace LookML.Pattern

/-- A part of a pattern and how deeply it is nested. -/
structure Node where
  pattern : Pattern
  depth : Nat

namespace Node

def leaf (p : Pattern) : Node := ⟨p, 0⟩

def deeper (n : Node) : Node := { n with depth := n.depth + 1 }

/-- Parts in a row; a setting is a part that matches the empty text. -/
def inSequence : List (Option Node) → Node
  | [] => leaf .empty
  | [item] => item.getD (leaf .empty)
  | items =>
    let nodes := items.map (·.getD (leaf .empty))
    ⟨(nodes.map pattern).foldr .sequence .empty, (nodes.map depth).foldl max 0 + 1⟩

def anyOf : List Node → Node
  | [] => leaf .empty
  | [n] => n
  | n :: ns =>
    ⟨(ns.map pattern).foldl .either n.pattern, (ns.map depth).foldl max n.depth + 1⟩

def repeated (least : Nat) (most : Option Nat) (n : Node) : Node :=
  ⟨.repeated least most n.pattern, n.depth + 1⟩

end Node

def literal (m : Mode) (c : Char) : Pattern :=
  .char (if m.unicode || c.toNat < 128 then m.fold (.single c) else .single c)

def dot (m : Mode) : CharClass :=
  if m.dotAll then .any
  else .complement (.ofChars (if m.returns then ['\r', '\n'] else ['\n']))

def maxCount : Nat := Nat.pow 2 32 - 1

def readCount (m : Mode) (cs : List Char) : Option Nat × List Char :=
  let cs := cs.dropWhile Text.isBlank
  let (digits, rest) := digitsOf cs.length cs
  let rest := m.skip (rest.dropWhile Text.isBlank)
  let n := digits.foldl (fun n d => 10 * n + (d.toNat - '0'.toNat)) 0
  (if digits.isEmpty || maxCount < n then none else some n, rest)
where
  /-- The digits ahead, between which the mode may skip. -/
  digitsOf : Nat → List Char → List Char × List Char
    | 0, cs => ([], cs)
    | fuel + 1, cs =>
      match cs with
      | [] => ([], [])
      | c :: rest =>
        if c.isDigit then
          let (ds, rest) := digitsOf fuel (m.skip rest)
          (c :: ds, rest)
        else ([], c :: rest)

def readBounds (m : Mode) (cs : List Char) : Option ((Nat × Option Nat) × List Char) :=
  match readCount m (m.skip cs) with
  | (some n, '}' :: rest) => some ((n, some n), rest)
  | (some n, ',' :: rest) =>
    match m.skip rest with
    | '}' :: rest => some ((n, none), rest)
    | rest =>
      match readCount m rest with
      | (some most, '}' :: rest) => if n ≤ most then some ((n, some most), rest) else none
      | _ => none
  | _ => none

/-- What follows a repetition operator: a question mark asks for the shortest match. -/
def afterOperator : List Char → List Char
  | '?' :: rest => rest
  | rest => rest

/-- The name of a group, up to a closing angle bracket. It begins with a letter or an
underscore. -/
def readGroupName (cs : List Char) : Option (List Char × List Char) :=
  match cs.takeWhile (· ≠ '>'), cs.dropWhile (· ≠ '>') with
  | first :: others, _ :: rest =>
    if (first = '_' || Text.isAlphabetic first) &&
        others.all fun c => c ∈ ['_', '.', '[', ']'] || Text.isAlphanumeric c then
      some (first :: others, rest)
    else none
  | _, _ => none

inductive Opening where
  /-- settings that hold up to the end of the group around them -/
  | setting (m : Mode)
  /-- a group, with the mode inside it and its name -/
  | group (m : Mode) (name : Option (List Char))

/-- Reads what follows an opening parenthesis. Assertions about the text around are refused. -/
def readOpening (m : Mode) (cs : List Char) : Option (Opening × List Char) :=
  let named (cs : List Char) :=
    (readGroupName cs).map fun (name, rest) => (.group m (some name), rest)
  match m.skip cs with
  | '?' :: '=' :: _ | '?' :: '!' :: _ | '?' :: '<' :: '=' :: _ | '?' :: '<' :: '!' :: _ => none
  | '?' :: 'P' :: '<' :: rest => named rest
  | '?' :: '<' :: rest => named rest
  | '?' :: rest =>
    match readSettings m [] rest with
    | some (m', _, ':', rest) => some (.group m' none, rest)
    | some (m', true, _, rest) => some (.setting m', rest)
    | _ => none
  | rest => some (.group m none, rest)

/-- What is neither a group, a class nor an operator. -/
def readAtom (m : Mode) : List Char → Option (Pattern × List Char)
  | [] => none
  | '\\' :: cs => do
    let (escape, rest) ← readEscape m cs
    match escape with
    | .char c => return (literal m c, rest)
    | .members a => return (.char a, rest)
    | .boundary b => return (.boundary b, rest)
  | '.' :: cs => do return (.char (← m.check? (dot m)), cs)
  | '^' :: cs => some (.boundary (if m.multiline then .lineStart m.returns else .textStart), cs)
  | '$' :: cs => some (.boundary (if m.multiline then .lineEnd m.returns else .textEnd), cs)
  | c :: cs => some (literal m c, cs)

mutual

/-- Alternatives, up to a closing parenthesis or the end. Settings made in one of them hold in the
next ones. -/
def readAlternatives : Nat → Mode → List (List Char) → List Char →
    Option (List Node × List (List Char) × List Char)
  | 0, _, _, _ => none
  | fuel + 1, m, names, cs => do
    let (node, m, names, rest) ← readItems fuel m names [] cs
    match rest with
    | '|' :: rest =>
      let (nodes, names, rest) ← readAlternatives fuel m names rest
      return (node :: nodes, names, rest)
    | rest => return ([node], names, rest)

/-- Items in a row, up to a bar, a closing parenthesis or the end; `items` are those read so far,
the last one first. -/
def readItems : Nat → Mode → List (List Char) → List (Option Node) → List Char →
    Option (Node × Mode × List (List Char) × List Char)
  | 0, _, _, _, _ => none
  | fuel + 1, m, names, items, cs =>
    let repeatLast (least : Nat) (most : Option Nat) (rest : List Char) :=
      match items with
      | some last :: items =>
        readItems fuel m names (some (last.repeated least most) :: items) (afterOperator rest)
      | _ => none
    match m.skip cs with
    | [] => some (.inSequence items.reverse, m, names, [])
    | '|' :: rest => some (.inSequence items.reverse, m, names, '|' :: rest)
    | ')' :: rest => some (.inSequence items.reverse, m, names, ')' :: rest)
    | '?' :: rest => repeatLast 0 (some 1) rest
    | '*' :: rest => repeatLast 0 none rest
    | '+' :: rest => repeatLast 1 none rest
    | '{' :: rest => do
      let ((least, most), rest) ← readBounds m rest
      repeatLast least most (m.skip rest)
    | '(' :: rest => do
      match ← readOpening m rest with
      | (.setting m, rest) => readItems fuel m names (none :: items) rest
      | (.group inner name, rest) =>
        if name.any names.contains then none
        match ← readAlternatives fuel inner (name.toList ++ names) rest with
        | (nodes, names, ')' :: rest) =>
          readItems fuel m names (some (Node.anyOf nodes).deeper :: items) rest
        | _ => none
    | '[' :: rest => do
      let (node, rest) ← readClass m rest
      readItems fuel m names (some ⟨.char node.members, node.depth⟩ :: items) rest
    | cs => do
      let (atom, rest) ← readAtom m cs
      readItems fuel m names (some (.leaf atom) :: items) rest

end

def maxDepth : Nat := 250

def maxWeight : Nat := 10 * Nat.pow 2 20

def parse? (text : String) : Option Pattern := do
  let cs := text.toList
  match ← readAlternatives (2 * cs.length + 2) .standard [] cs with
  | (nodes, _, []) =>
    let node := Node.anyOf nodes
    if node.depth ≤ maxDepth && node.pattern.weight ≤ maxWeight then some node.pattern else none
  | _ => none

end LookML.Pattern
