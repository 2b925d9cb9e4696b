import LookML.BlockKind
import LookML.Location
import LookML.Number
/-!
# Documents

A document is one parsed file: top-level properties and top-level blocks. Property lists keep
every occurrence in source order. A lookup yields the last one, so that earlier ones stay visible
to whoever asks for duplicates.
-/

namespace LookML

mutual

/-- What a property is set to. -/
inductive Value where
  /-- a bare word, a quoted string or an expression -/
  | text (text : String)
  /-- `yes` or `no` -/
  | flag (yes : Bool)
  | number (value : Number)
  | list (items : List Value)
  /-- an item `key: value` of a list -/
  | pair (key : String) (value : Value)
  /-- a block without a name -/
  | block (block : Block)

/-- An entry `name: value`. -/
inductive Property where
  | mk (name : String) (value : Value) (location : Location)

/-- A block `kind: name { … }`. The name is absent for a block that is a property's value. -/
inductive Block where
  | mk (kind : BlockKind) (name : Option String) (properties : List Property)
    (children : List Block) (location : Location)

end

namespace Value

def text? : Value → Option String
  | text s => some s
  | _ => none

def flag? : Value → Option Bool
  | flag b => some b
  | _ => none

def number? : Value → Option Number
  | number n => some n
  | _ => none

def list? : Value → Option (List Value)
  | list items => some items
  | _ => none

def block? : Value → Option Block
  | block b => some b
  | _ => none

/-- The text itself, or the texts among the items of a list: `a` and `[a, b]` name things in the
same way. -/
def texts : Value → List String
  | text s => [s]
  | list items => items.filterMap text?
  | _ => []

/-- `yes`, or the text `yes` or `true` in any case. -/
def isTruthy : Value → Bool
  | flag b => b
  | text s => s.toLower = "yes" || s.toLower = "true"
  | _ => false

end Value

namespace Property

def name : Property → String
  | mk name _ _ => name

def value : Property → Value
  | mk _ value _ => value

def location : Property → Location
  | mk _ _ location => location

def last? (properties : List Property) (name : String) : Option Property :=
  properties.reverse.find? (·.name = name)

def occurrences (properties : List Property) (name : String) : List Property :=
  properties.filter (·.name = name)

/-- The names that one block may declare more than once. -/
def repeatable : List String :=
  ["include", "link", "action", "always_join", "access_filter", "required_access_grants",
    "aggregate_table", "datagroup_trigger"]

/-- The names of the properties, each once, in order of first appearance. -/
def names : List Property → List String
  | [] => []
  | p :: ps => p.name :: (names ps).filter (· ≠ p.name)

/-- The names declared more than once although they are not repeatable, with their
occurrences. -/
def duplicates (properties : List Property) : List (String × List Property) :=
  (names properties).filterMap fun name =>
    let all := occurrences properties name
    if name ∈ repeatable || all.length ≤ 1 then none else some (name, all)

end Property

namespace Block

def kind : Block → BlockKind
  | mk kind _ _ _ _ => kind

def name : Block → Option String
  | mk _ name _ _ _ => name

def properties : Block → List Property
  | mk _ _ properties _ _ => properties

def children : Block → List Block
  | mk _ _ _ children _ => children

def location : Block → Location
  | mk _ _ _ _ location => location

def nameOrEmpty (b : Block) : String :=
  b.name.getD ""

def property? (b : Block) (name : String) : Option Property :=
  Property.last? b.properties name

def get? (b : Block) (name : String) : Option Value :=
  (b.property? name).map Property.value

def text? (b : Block) (name : String) : Option String :=
  (b.get? name).bind Value.text?

def has (b : Block) (name : String) : Bool :=
  (b.property? name).isSome

def fieldType? (b : Block) : Option String :=
  b.text? "type"

def isHidden (b : Block) : Bool :=
  (b.get? "hidden").any Value.isTruthy

def childrenOf (b : Block) (kind : BlockKind) : List Block :=
  b.children.filter (·.kind = kind)

def child? (b : Block) (kind : BlockKind) (name : String) : Option Block :=
  b.children.find? fun c => c.kind = kind && c.name = some name

def fields (b : Block) : List Block :=
  b.children.filter (·.kind.isField)

end Block

mutual

def Value.blocks : Value → List Block
  | .block b => b.descendants
  | .list items => Value.blocksOf items
  | .pair _ value => value.blocks
  | .text _ | .flag _ | .number _ => []

def Value.blocksOf : List Value → List Block
  | [] => []
  | v :: vs => v.blocks ++ Value.blocksOf vs

def Property.blocksOf : List Property → List Block
  | [] => []
  | .mk _ value _ :: ps => value.blocks ++ Property.blocksOf ps

/-- The block and every block inside it, each before those inside it, the values of properties
before the children. -/
def Block.descendants : Block → List Block
  | .mk kind name properties children location =>
    .mk kind name properties children location ::
      (Property.blocksOf properties ++ Block.descendantsOf children)

def Block.descendantsOf : List Block → List Block
  | [] => []
  | b :: bs => b.descendants ++ Block.descendantsOf bs

end

/-- One parsed file. -/
structure Document where
  path : String
  properties : List Property
  blocks : List Block

namespace Document

/-- The top-level value of the given name that takes effect. -/
def get? (d : Document) (name : String) : Option Value :=
  (Property.last? d.properties name).map Property.value

/-- The top-level views, refinements included. -/
def views (d : Document) : List Block :=
  d.blocks.filter (·.kind = .view)

/-- The top-level explores, refinements included. -/
def explores (d : Document) : List Block :=
  d.blocks.filter (·.kind = .explore)

/-- The patterns of all `include` properties, in source order. -/
def includes (d : Document) : List String :=
  (Property.occurrences d.properties "include").flatMap (·.value.texts)

def allBlocks (d : Document) : List Block :=
  Block.descendantsOf d.blocks

/-- The part of a path after its last slash or backslash. -/
def fileNameOf (path : String) : String :=
  String.ofList (path.toList.reverse.takeWhile fun c => c ≠ '/' && c ≠ '\\').reverse

def fileName (d : Document) : String :=
  fileNameOf d.path

/-- The endings of LookML file names, the longer ones first. -/
def suffixes : List String :=
  [".view.lkml", ".model.lkml", ".explore.lkml", ".lkml", ".lookml"]

def stripEnding? (text ending : String) : Option String :=
  let t := text.toList
  let e := ending.toList
  if e.isSuffixOf t then some (String.ofList (t.take (t.length - e.length))) else none

/-- The file name without its LookML ending. -/
def stem (d : Document) : String :=
  (suffixes.findSome? (stripEnding? d.fileName)).getD d.fileName

def isModelName (fileName : String) : Bool :=
  ".model.lkml".toList.isSuffixOf fileName.toList

def isModelFile (d : Document) : Bool :=
  isModelName d.fileName

def isViewFile (d : Document) : Bool :=
  ".view.lkml".toList.isSuffixOf d.fileName.toList

end Document

end LookML
