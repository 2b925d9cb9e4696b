/-!
# JSON texts

The values that reports are made of, and how they are laid out: one item a line, indented by two
blanks for every level.
-/

namespace LookML.Json

/-- A JSON value. The fields of an object keep their order. -/
inductive Value where
  | null
  | number (n : Nat)
  | text (s : String)
  | list (items : List Value)
  | object (fields : List (String × Value))

/-- A character inside a JSON string. Only quotes, backslashes and control characters are escaped,
the latter by their code unless they have a letter. -/
def escape (c : Char) : List Char :=
  if c = '"' || c = '\\' then ['\\', c]
  else if c = '\n' then ['\\', 'n']
  else if c = '\r' then ['\\', 'r']
  else if c = '\t' then ['\\', 't']
  else if c = '\x08' then ['\\', 'b']
  else if c = '\x0c' then ['\\', 'f']
  else if c < ' ' then
    ['\\', 'u', '0', '0', Nat.digitChar (c.toNat / 16), Nat.digitChar (c.toNat % 16)]
  else [c]

def quoted (s : String) : String :=
  String.ofList ('"' :: s.toList.flatMap escape ++ ['"'])

def bracketed (opening closing indent : String) (items : List String) : String :=
  if items.isEmpty then opening ++ closing
  else
    let lines := ",".intercalate (items.map fun item => s!"\n{indent}  {item}")
    s!"{opening}{lines}\n{indent}{closing}"

mutual

def Value.layout (indent : String) : Value → String
  | .null => "null"
  | .number n => s!"{n}"
  | .text s => quoted s
  | .list items => bracketed "[" "]" indent (layoutItems (indent ++ "  ") items)
  | .object fields => bracketed "\x7b" "\x7d" indent (layoutFields (indent ++ "  ") fields)

def layoutItems (indent : String) : List Value → List String
  | [] => []
  | v :: vs => v.layout indent :: layoutItems indent vs

def layoutFields (indent : String) : List (String × Value) → List String
  | [] => []
  | (name, v) :: fields => s!"{quoted name}: {v.layout indent}" :: layoutFields indent fields

end

def Value.render (v : Value) : String :=
  v.layout ""

def ofText? (s : Option String) : Value :=
  (s.map Value.text).getD .null

def ofNumber? (n : Option Nat) : Value :=
  (n.map Value.number).getD .null

end LookML.Json
