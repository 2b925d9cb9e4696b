import LookML.Library.Sql.Token
/-!
# Readers of SQL tokens

A reader takes the tokens ahead to those that remain once it has read its part, or refuses. Only
acceptance matters, so a reader gives nothing but what remains.
-/

namespace LookML.Sql

abbrev Reader := List Token → Option (List Token)

namespace Reader

def nothing : Reader := some

def refuse : Reader := fun _ => none

def seq (readers : List Reader) : Reader := fun ts =>
  readers.foldlM (fun ts r => r ts) ts

def oneOf (readers : List Reader) : Reader := fun ts =>
  readers.findSome? fun r => r ts

def optional (r : Reader) : Reader := fun ts =>
  some ((r ts).getD ts)

/-- Once `head` accepts, `body` must follow; otherwise nothing is read. -/
def after (head body : Reader) : Reader := fun ts =>
  match head ts with
  | some rest => body rest
  | none => some ts

def ifElse (head body other : Reader) : Reader := fun ts =>
  match head ts with
  | some rest => body rest
  | none => other ts

def ahead (r : Reader) : Reader := fun ts =>
  if (r ts).isSome then some ts else none

def notAhead (r : Reader) : Reader := fun ts =>
  if (r ts).isSome then none else some ts

/-- `r` a number of times, bounded by the tokens there are: as long as `head` accepts, `body` must
follow. -/
def repeatAfter (head body : Reader) : Reader := fun ts =>
  go ts.length ts
where
  go : Nat → List Token → Option (List Token)
    | 0, ts => some ts
    | n + 1, ts =>
      match head ts with
      | some rest => (body rest).bind (go n)
      | none => some ts

def many (r : Reader) : Reader :=
  repeatAfter r nothing

def token (p : Token → Bool) : Reader
  | [] => none
  | t :: ts => if p t then some ts else none

def symbol (s : String) : Reader :=
  token (· = .symbol s)

def keyword (k : String) : Reader :=
  token (· = .word k)

def keywordIn (ks : List String) : Reader :=
  token fun
    | .word k => ks.contains k
    | _ => false

def keywords (ks : List String) : Reader :=
  seq (ks.map keyword)

def atEnd : Reader
  | [] => some []
  | _ :: _ => none

def parens (r : Reader) : Reader :=
  seq [symbol "(", r, symbol ")"]

def commaSeparated (r : Reader) : Reader :=
  seq [r, repeatAfter (symbol ",") r]

def tuple (r : Reader) : Reader :=
  parens (commaSeparated r)

def name : Reader :=
  token fun
    | .word _ | .quotedName | .string => true
    | _ => false

def qualifiedName : Reader :=
  seq [name, repeatAfter (symbol ".") name]

def nameList : Reader :=
  tuple qualifiedName

end Reader

end LookML.Sql
