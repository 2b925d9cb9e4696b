import LookML.Document
import LookML.Token.Lexer
/-!
# From tokens to documents

The grammar depends on the shape of the text alone: `key: name { … }` is a block whatever the key
is. Blocks without a name are the values of properties.

Every parser takes the tokens it may read, which end with the end of input, and yields those it
leaves. `depth` counts the blocks and lists that are open.
-/

namespace LookML

/-- The value of a bare word: `yes` and `no`, numbers, and text for all else. -/
def Value.ofWord (word : String) : Value :=
  if word = "yes" then .flag true
  else if word = "no" then .flag false
  else match Number.ofWord? word.toList with
    | some n => .number n
    | none => .text word

namespace Document

/-- An entry of a block or of a file. -/
inductive Item where
  | property (property : Property)
  | block (block : Block)

def Item.property? : Item → Option Property
  | .property p => some p
  | .block _ => none

def Item.block? : Item → Option Block
  | .block b => some b
  | .property _ => none

def current : List Token → Token
  | t :: _ => t
  | [] => ⟨.endOfInput, .start, .start⟩

abbrev Rest (ts : List Token) := { rest : List Token // rest.length < ts.length }

/-- A single word or quoted string as a value, and where it ends. -/
def scalar (path : String) (ts : List Token) :
    Except SyntaxError (Value × Position × Rest ts) :=
  match ts with
  | ⟨.word w, _, stop⟩ :: rest => .ok (.ofWord w, stop, ⟨rest, by simp⟩)
  | ⟨.quoted s, _, stop⟩ :: rest => .ok (.text s, stop, ⟨rest, by simp⟩)
  | ts => .error (.unexpected path (current ts) .value)

mutual

def items (path : String) (depth : Nat) (ts : List Token) :
    Except SyntaxError (List Item × { rest : List Token // rest.length ≤ ts.length }) :=
  match ts with
  | ⟨.word key, start, stop⟩ :: after => do
    let (first, ⟨rest, shorter⟩) ← item path depth key start after
    let (others, ⟨rest', shorter'⟩) ← items path depth rest
    return (first :: others, ⟨rest', by simp only [List.length_cons]; omega⟩)
  | ts => .ok ([], ⟨ts, Nat.le_refl _⟩)
termination_by (ts.length, 0)

def item (path : String) (depth : Nat) (key : String) (start : Position) (ts : List Token) :
    Except SyntaxError (Item × Rest ts) :=
  match ts with
  | ⟨.colon, _, _⟩ :: ts =>
    match ts with
    | ⟨.leftBrace, p, _⟩ :: body => do
      let (b, ⟨rest, shorter⟩) ← block path depth key none start p body
      return (.property (.mk key (.block b) b.location),
        ⟨rest, by simp only [List.length_cons]; omega⟩)
    | ⟨.leftBracket, p, _⟩ :: body => do
      let (v, stop, ⟨rest, shorter⟩) ← list path depth p body
      return (.property (.mk key v (.between path start stop)),
        ⟨rest, by simp only [List.length_cons]; omega⟩)
    | ⟨.expression text, _, stop⟩ :: rest =>
      .ok (.property (.mk key (.text text) (.between path start stop)),
        ⟨rest, by simp only [List.length_cons]; omega⟩)
    | ⟨.word name, _, _⟩ :: ⟨.leftBrace, p, _⟩ :: body
    | ⟨.quoted name, _, _⟩ :: ⟨.leftBrace, p, _⟩ :: body => do
      let (b, ⟨rest, shorter⟩) ← block path depth key (some name) start p body
      return (.block b, ⟨rest, by simp only [List.length_cons]; omega⟩)
    | ⟨.word w, _, stop⟩ :: rest =>
      .ok (.property (.mk key (.ofWord w) (.between path start stop)),
        ⟨rest, by simp only [List.length_cons]; omega⟩)
    | ⟨.quoted s, _, stop⟩ :: rest =>
      .ok (.property (.mk key (.text s) (.between path start stop)),
        ⟨rest, by simp only [List.length_cons]; omega⟩)
    | ts => .error (.unexpected path (current ts) (.valueOf key))
  | ts => .error (.unexpected path (current ts) .colon)
termination_by (ts.length, 1)

/-- The items of a block whose brace was opened at `brace`, up to its closing brace. -/
def block (path : String) (depth : Nat) (keyword : String) (name : Option String)
    (start brace : Position) (ts : List Token) : Except SyntaxError (Block × Rest ts) :=
  if maxNesting ≤ depth then .error ⟨path, brace, .nestingTooDeep⟩
  else do
    let (inner, ⟨rest, shorter⟩) ← items path (depth + 1) ts
    match rest, shorter with
    | ⟨.rightBrace, _, stop⟩ :: rest, shorter =>
      return (.mk (.ofKeyword keyword) name (inner.filterMap Item.property?)
          (inner.filterMap Item.block?) (.between path start stop),
        ⟨rest, by simp only [List.length_cons] at shorter; omega⟩)
    | rest, _ =>
      let expected := if (current rest).kind = .endOfInput then .blockEnd keyword start.line
        else .propertyName
      .error (.unexpected path (current rest) expected)
termination_by (ts.length, 1)

/-- The items of a list whose bracket was opened at `bracket`, up to its closing bracket. -/
def list (path : String) (depth : Nat) (bracket : Position) (ts : List Token) :
    Except SyntaxError (Value × Position × Rest ts) :=
  if maxNesting ≤ depth then .error ⟨path, bracket, .nestingTooDeep⟩
  else do
    let (values, stop, rest) ← elements path (depth + 1) bracket.line ts
    return (.list values, stop, rest)
termination_by (ts.length, 2)

/-- The elements of a list, separated by commas, up to its closing bracket. A comma may stand
after the last one. -/
def elements (path : String) (depth line : Nat) (ts : List Token) :
    Except SyntaxError (List Value × Position × Rest ts) :=
  match ts with
  | ⟨.rightBracket, _, stop⟩ :: rest => .ok ([], stop, ⟨rest, by simp⟩)
  | ⟨.endOfInput, p, q⟩ :: _ =>
    .error (.unexpected path ⟨.endOfInput, p, q⟩ (.listEnd line))
  | ts => do
    let (v, _, ⟨rest, shorter⟩) ← element path depth ts
    match rest, shorter with
    | ⟨.comma, _, _⟩ :: rest, shorter => do
      have fewer : rest.length < ts.length := by simp only [List.length_cons] at shorter; omega
      let (vs, stop, ⟨rest', shorter'⟩) ← elements path depth line rest
      return (v :: vs, stop, ⟨rest', by omega⟩)
    | ⟨.rightBracket, _, stop⟩ :: rest, shorter =>
      return ([v], stop, ⟨rest, by simp only [List.length_cons] at shorter; omega⟩)
    | rest, _ => .error (.unexpected path (current rest) .listSeparator)
termination_by (ts.length, 1)

/-- One element of a list: a list, a pair, or a single word or quoted string. -/
def element (path : String) (depth : Nat) (ts : List Token) :
    Except SyntaxError (Value × Position × Rest ts) :=
  match ts with
  | ⟨.leftBracket, p, _⟩ :: body => do
    let (v, stop, ⟨rest, shorter⟩) ← list path depth p body
    return (v, stop, ⟨rest, by simp only [List.length_cons]; omega⟩)
  | ⟨.word key, _, _⟩ :: ⟨.colon, _, _⟩ :: ts
  | ⟨.quoted key, _, _⟩ :: ⟨.colon, _, _⟩ :: ts =>
    match ts with
    | ⟨.leftBracket, p, _⟩ :: body => do
      let (v, stop, ⟨rest, shorter⟩) ← list path depth p body
      return (.pair key v, stop, ⟨rest, by simp only [List.length_cons]; omega⟩)
    | ts => do
      let (v, stop, ⟨rest, shorter⟩) ← scalar path ts
      return (.pair key v, stop, ⟨rest, by simp only [List.length_cons]; omega⟩)
  | ts => scalar path ts
termination_by (ts.length, 0)

end

def ofTokens (path : String) (tokens : List Token) : Except SyntaxError Document := do
  let (all, ⟨rest, _⟩) ← items path 0 tokens
  if (current rest).kind = .endOfInput then
    return ⟨path, all.filterMap Item.property?, all.filterMap Item.block?⟩
  else .error (.unexpected path (current rest) .propertyName)

def parse (path text : String) : Except SyntaxError Document := do
  ofTokens path (← Token.scan path text)

end Document

end LookML
