import LookML.Library.Yaml.Token.Lexer
/-!
# YAML nodes

The documents of a YAML text as trees. Aliases stand for the nodes that were anchored before them.
-/

namespace LookML.Yaml

namespace Node

def empty : Node := .scalar .plain none ""

abbrev Anchors := List (String × Node)

abbrev Handles := List (String × String)

def standardHandles : Handles := [("!", "!"), ("!!", "tag:yaml.org,2002:"), ("", "")]

def resolveTag? (handles : Handles) (handle suffix : String) : Option String :=
  (handles.lookup handle).map (· ++ suffix)

/-- The tag and the anchor of a node, in either order. -/
structure Properties where
  tag : Option String
  anchor : Option String

def readProperties (handles : Handles) : List Token → Option (Properties × List Token)
  | .anchor a :: .tag h s :: ts => do return (⟨← resolveTag? handles h s, some a⟩, ts)
  | .tag h s :: .anchor a :: ts => do return (⟨← resolveTag? handles h s, some a⟩, ts)
  | .anchor a :: ts => some (⟨none, some a⟩, ts)
  | .tag h s :: ts => do return (⟨← resolveTag? handles h s, none⟩, ts)
  | ts => some (⟨none, none⟩, ts)

def remember (anchor : Option String) (n : Node) (anchors : Anchors) : Anchors :=
  match anchor with
  | some name => (name, n) :: anchors
  | none => anchors

def forget (anchor : Option String) (anchors : Anchors) : Anchors :=
  match anchor with
  | some name => anchors.filter (·.1 ≠ name)
  | none => anchors

abbrev Reader (α : Type) := Anchors → List Token → Option (α × Anchors × List Token)

def unlessBefore (ends : List Token) (read : Reader Node) : Reader Node := fun anchors ts =>
  if ts.head?.any ends.contains then some (empty, anchors, ts) else read anchors ts

def readValue (ends : List Token) (read : Reader Node) : Reader Node := fun anchors ts =>
  match ts with
  | .value :: ts => unlessBefore ends read anchors ts
  | ts => some (empty, anchors, ts)

def blockItems (read : Reader Node) : Nat → Reader (List Node)
  | 0, _, _ => none
  | fuel + 1, anchors, ts =>
    match ts with
    | .blockEntry :: ts => do
      let (item, anchors, ts) ← unlessBefore [.blockEntry, .blockEnd] read anchors ts
      let (items, anchors, ts) ← blockItems read fuel anchors ts
      return (item :: items, anchors, ts)
    | .blockEnd :: ts => some ([], anchors, ts)
    | _ => none

def flatItems (read : Reader Node) : Nat → Reader (List Node)
  | 0, _, _ => none
  | fuel + 1, anchors, ts =>
    match ts with
    | .blockEntry :: ts => do
      let (item, anchors, ts) ← unlessBefore [.blockEntry, .key, .value, .blockEnd] read anchors ts
      let (items, anchors, ts) ← flatItems read fuel anchors ts
      return (item :: items, anchors, ts)
    | ts => some ([], anchors, ts)

def blockEntries (read : Reader Node) : Nat → Reader (List (Node × Node))
  | 0, _, _ => none
  | fuel + 1, anchors, ts =>
    match ts with
    | .key :: ts => do
      let ends := [.key, .value, .blockEnd]
      let (k, anchors, ts) ← unlessBefore ends read anchors ts
      let (v, anchors, ts) ← readValue ends read anchors ts
      let (entries, anchors, ts) ← blockEntries read fuel anchors ts
      return ((k, v) :: entries, anchors, ts)
    | .blockEnd :: ts => some ([], anchors, ts)
    | _ => none

/-- What must stand between two items in brackets or braces, unless `first`. -/
def afterComma (first : Bool) : List Token → Option (List Token)
  | .flowEntry :: ts => if first then some (.flowEntry :: ts) else some ts
  | ts => if first then some ts else none

def flowItem (read : Reader Node) : Reader Node := fun anchors ts =>
  match ts with
  | .key :: ts => do
    let (k, anchors, ts) ←
      if ts.head?.any [Token.value, .flowEntry, .flowSequenceEnd].contains then
        some (empty, anchors, ts.drop 1)
      else read anchors ts
    let (v, anchors, ts) ← readValue [.flowEntry, .flowSequenceEnd] read anchors ts
    return (.mapping none [(k, v)], anchors, ts)
  | ts => read anchors ts

def flowItems (read : Reader Node) : Nat → Bool → Reader (List Node)
  | 0, _, _, _ => none
  | fuel + 1, first, anchors, ts =>
    match ts with
    | .flowSequenceEnd :: ts => some ([], anchors, ts)
    | ts => do
      match ← afterComma first ts with
      | .flowSequenceEnd :: ts => return ([], anchors, ts)
      | ts =>
        let (item, anchors, ts) ← flowItem read anchors ts
        let (items, anchors, ts) ← flowItems read fuel false anchors ts
        return (item :: items, anchors, ts)

def flowPair (read : Reader Node) : Reader (Node × Node) := fun anchors ts =>
  match ts with
  | .key :: ts => do
    let (k, anchors, ts) ← unlessBefore [.value, .flowEntry, .flowMappingEnd] read anchors ts
    let (v, anchors, ts) ← readValue [.flowEntry, .flowMappingEnd] read anchors ts
    return ((k, v), anchors, ts)
  | ts => do
    let (k, anchors, ts) ← read anchors ts
    return ((k, empty), anchors, ts)

def flowEntries (read : Reader Node) : Nat → Bool → Reader (List (Node × Node))
  | 0, _, _, _ => none
  | fuel + 1, first, anchors, ts =>
    match ts with
    | .flowMappingEnd :: ts => some ([], anchors, ts)
    | ts => do
      match ← afterComma first ts with
      | .flowMappingEnd :: ts => return ([], anchors, ts)
      | ts =>
        let (entry, anchors, ts) ← flowPair read anchors ts
        let (entries, anchors, ts) ← flowEntries read fuel false anchors ts
        return (entry :: entries, anchors, ts)

inductive Context where
  | flow
  | block
  /-- after a key, where the items of a sequence need no indentation -/
  | blockValue
deriving DecidableEq

def read (handles : Handles) : Nat → Context → Reader Node
  | 0, _, _, _ => none
  | fuel + 1, context, anchors, ts =>
    match ts with
    | .aliased name :: ts => (anchors.lookup name).map fun n => (n, anchors, ts)
    | ts => do
      let ({ tag, anchor }, ts) ← readProperties handles ts
      let keep {α : Type} (make : α → Node) (r : Option (α × Anchors × List Token)) :=
        r.map fun (a, anchors, ts) => (make a, remember anchor (make a) anchors, ts)
      let inside := forget anchor anchors
      let n := ts.length + 1
      match ts with
      | .scalar style text :: ts =>
        let node := .scalar style tag text
        return (node, remember anchor node anchors, ts)
      | .flowSequenceStart :: ts =>
        keep (.sequence tag) (flowItems (read handles fuel .flow) n true inside ts)
      | .flowMappingStart :: ts =>
        keep (.mapping tag) (flowEntries (read handles fuel .flow) n true inside ts)
      | .blockSequenceStart :: ts =>
        if context = .flow then none
        keep (.sequence tag) (blockItems (read handles fuel .block) n inside ts)
      | .blockMappingStart :: ts =>
        if context = .flow then none
        keep (.mapping tag) (blockEntries (read handles fuel .blockValue) n inside ts)
      | ts =>
        if context = .blockValue && ts.head? = some .blockEntry then
          keep (.sequence tag) (flatItems (read handles fuel .block) n inside ts)
        else if tag.isSome || anchor.isSome then
          let node := .scalar .plain tag ""
          return (node, remember anchor node anchors, ts)
        else none

def isKnownVersion (major minor : Nat) : Bool :=
  major = 1 && (minor = 1 || minor = 2)

def readDirectives (versioned : Bool) (handles : Handles) :
    List Token → Option (Handles × List Token)
  | .version major minor :: ts =>
    if versioned || !isKnownVersion major minor then none else readDirectives true handles ts
  | .tagHandle handle meaning :: ts =>
    if (handles.lookup handle).isSome then none
    else readDirectives versioned ((handle, meaning) :: handles) ts
  | ts => some (handles ++ standardHandles, ts)

def isDirective : Token → Bool
  | .version .. | .tagHandle .. => true
  | _ => false

def readContent (handles : Handles) (ts : List Token) : Option (Node × Anchors × List Token) :=
  if ts.head?.all fun t => isDirective t || t = .documentStart || t = .documentEnd then
    some (empty, [], ts)
  else read handles (ts.length + 1) .block [] ts

/-- Reads the document ahead. Only the first one of a text may do without a mark. -/
def readDocument (first : Bool) (ts : List Token) : Option (Node × List Token) := do
  let (node, _, ts) ←
    if first && ts.head?.all fun t => !isDirective t && t ≠ .documentStart then
      read standardHandles (ts.length + 1) .block [] ts
    else
      match ← readDirectives false [] ts with
      | (handles, .documentStart :: ts) => readContent handles ts
      | _ => none
  match ts with
  | .documentEnd :: ts => return (node, ts)
  | ts => return (node, ts)

def documents : Nat → Bool → List Token → Option (List Node)
  | 0, _, _ => none
  | fuel + 1, first, ts =>
    match if first then ts else ts.dropWhile (· = .documentEnd) with
    | [] => some []
    | ts => do
      let (node, ts) ← readDocument first ts
      return node :: (← documents fuel false ts)

def parse? (text : String) : Option (List Node) := do
  let ts ← Token.scan text.toList
  documents (ts.length + 1) true ts

end Node

end LookML.Yaml
