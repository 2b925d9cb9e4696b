import LookML.Library.Yaml.Token
/-!
# YAML scalars

The three ways in which a text is written: plain, quoted and as a block of lines. Where a line ends
inside a plain or quoted scalar, a single break becomes a space and further ones stay.
-/

namespace LookML.Yaml

/-- The blanks and line breaks between two words. -/
structure Gap where
  /-- whether there is a line break -/
  broken : Bool
  /-- the blanks, if there is no line break -/
  blanks : List Char
  /-- the first line break -/
  first : List Char
  /-- the further line breaks -/
  further : List Char

namespace Gap

def text (g : Gap) : List Char :=
  if !g.broken then g.blanks
  else if g.first = ['\n'] then (if g.further.isEmpty then [' '] else g.further)
  else g.first ++ g.further

def none : Gap := ⟨false, [], [], []⟩

def escaped : Gap := ⟨true, [], [], []⟩

/-- Reads the blanks and breaks ahead. A tab must not stand left of `indent` on a new line. -/
def read (indent : Int) : Nat → Gap → Cursor → Option (Gap × Cursor)
  | 0, g, c => some (g, c)
  | fuel + 1, g, c =>
    match c.rest with
    | d :: _ =>
      if isBlank d then
        if g.broken && d = '\t' && (c.column : Int) < indent then .none
        else read indent fuel (if g.broken then g else { g with blanks := g.blanks ++ [d] })
          (c.skip 1)
      else if isBreak d then
        let (b, c) := c.readBreak
        read indent fuel (if g.broken then { g with further := g.further ++ b }
          else ⟨true, [], b, []⟩) c
      else some (g, c)
    | [] => some (g, c)

def readAfter (indent : Int) (g : Gap) (c : Cursor) : Option (Gap × Cursor) :=
  read indent (c.rest.length + 1) g c

end Gap

/-! ## Plain scalars -/

/-- A word of a plain scalar: up to a blank, a colon before one, or a flow indicator in flow
context. -/
def plainWord (flow : Bool) : Nat → Cursor → Option (List Char × Cursor)
  | 0, c => some ([], c)
  | fuel + 1, c =>
    match c.rest with
    | [] => some ([], c)
    | d :: after =>
      if isBlank d || isBreak d then some ([], c)
      else if flow && d = ':' && after.head?.any (",?[]\x7b\x7d".toList.contains ·) then none
      else if (d = ':' && endsWord after) || (flow && ",[]\x7b\x7d".toList.contains d) then
        some ([], c)
      else (plainWord flow fuel (c.skip 1)).map fun (w, c) => (d :: w, c)

/-- The rest of a plain scalar after a gap, whether it ends in a line break, and what follows. In
block context a line that is indented less ends it. -/
def plainWords (flow : Bool) (indent : Int) : Nat → Gap → Cursor →
    Option (List Char × Bool × Cursor)
  | 0, g, c => some ([], g.broken, c)
  | fuel + 1, g, c =>
    if c.atDocumentMark || c.rest.head? = some '#' then some ([], g.broken, c)
    else do
      let (w, c) ← plainWord flow (c.rest.length + 1) c
      if w.isEmpty then return ([], g.broken, c)
      let text := g.text ++ w
      if c.rest.isEmpty || !c.atWordEnd then return (text, false, c)
      let (g, c) ← Gap.readAfter indent .none c
      if !flow && (c.column : Int) < indent then return (text, g.broken, c)
      let (more, broken, c) ← plainWords flow indent fuel g c
      return (text ++ more, broken, c)

/-- A plain scalar, whether it ends in a line break, and what follows. -/
def readPlain (flow : Bool) (indent : Int) (c : Cursor) :
    Option (List Char × Bool × Cursor) :=
  plainWords flow indent (c.rest.length + 1) .none c

/-! ## Quoted scalars -/

/-- The number that exactly `count` hexadecimal digits ahead spell. -/
def hexNumber? (count : Nat) (cs : List Char) : Option Nat :=
  if cs.length < count then none
  else ((cs.take count).mapM hexDigit?).map (·.foldl (fun n d => 16 * n + d) 0)

def readEscape : List Char → Option (Char × Nat)
  | [] => none
  | c :: cs =>
    let code (count : Nat) : Option (Char × Nat) := do
      let n ← hexNumber? count cs
      if n.isValidChar then some (Char.ofNat n, count + 1) else none
    match c with
    | '0' => some ('\x00', 1)
    | 'a' => some ('\x07', 1)
    | 'b' => some ('\x08', 1)
    | 't' | '\t' => some ('\t', 1)
    | 'n' => some ('\n', 1)
    | 'v' => some ('\x0b', 1)
    | 'f' => some ('\x0c', 1)
    | 'r' => some ('\r', 1)
    | 'e' => some ('\x1b', 1)
    | ' ' | '"' | '/' | '\\' => some (c, 1)
    | 'N' => some ('\u0085', 1)
    | '_' => some ('\u00a0', 1)
    | 'L' => some ('\u2028', 1)
    | 'P' => some ('\u2029', 1)
    | 'x' => code 2
    | 'u' => code 4
    | 'U' => code 8
    | _ => none

/-- The text of a scalar up to its closing quote, and what follows. In single quotes only a doubled
quote is special, in double quotes a backslash is. -/
def readQuoted (single : Bool) : Nat → Cursor → Option (List Char × Cursor)
  | 0, _ => none
  | fuel + 1, c =>
    let add (text : List Char) (c : Cursor) :=
      (readQuoted single fuel c).map fun (more, c) => (text ++ more, c)
    let afterGap (g : Gap) (c : Cursor) := (Gap.readAfter 0 g c).bind fun (g, c) => add g.text c
    if c.atDocumentMark then none
    else match c.rest with
    | [] => none
    | d :: after =>
      if isBlank d || isBreak d then afterGap .none c
      else if single then
        if d = '\'' then
          if after.head? = some '\'' then add ['\''] (c.skip 2) else some ([], c.skip 1)
        else add [d] (c.skip 1)
      else if d = '"' then some ([], c.skip 1)
      else if d = '\\' then
        if after.head?.any isBreak then afterGap .escaped (c.skip 1).readBreak.2
        else (readEscape after).bind fun (e, n) => add [e] (c.skip (n + 1))
      else add [d] (c.skip 1)

/-! ## Block scalars -/

/-- What becomes of the line breaks at the end of a block. -/
inductive Chomping where
  | strip
  | clip
  | keep

/-- The header of a block: what becomes of its end, and how much deeper it is indented if that is
said. -/
def readHeader (c : Cursor) : Option (Chomping × Option Nat × Cursor) :=
  let chomping? : Option Char → Option Chomping
    | some '+' => some .keep
    | some '-' => some .strip
    | _ => none
  let digit? : Option Char → Option Nat
    | some d => if d.isDigit then some (d.toNat - '0'.toNat) else none
    | none => none
  match chomping? c.rest.head? with
  | some chomping =>
    let c := c.skip 1
    match digit? c.rest.head? with
    | some 0 => none
    | some n => some (chomping, some n, c.skip 1)
    | none => some (chomping, none, c)
  | none =>
    match digit? c.rest.head? with
    | some 0 => none
    | some n =>
      let c := c.skip 1
      match chomping? c.rest.head? with
      | some chomping => some (chomping, some n, c.skip 1)
      | none => some (.clip, some n, c)
    | none => some (.clip, none, c)

/-- Skips empty lines and the indentation of the next line. Gives the breaks, the deepest
indentation seen and what follows. A tab must not stand where indentation is expected. -/
def skipIndentation (indent : Option Nat) : Nat → Nat → Cursor →
    Option (List Char × Nat × Cursor)
  | 0, deepest, c => some ([], deepest, c)
  | fuel + 1, deepest, c =>
    let spaces := c.ahead (· = ' ')
    let c := c.skip (match indent with
      | some n => min spaces.length (n - c.column)
      | none => spaces.length)
    let deepest := max deepest c.column
    let inside := match indent with
      | some n => c.column < n
      | none => true
    if inside && c.rest.head? = some '\t' then none
    else if c.rest.head?.any isBreak then
      let (b, c) := c.readBreak
      (skipIndentation indent fuel deepest c).map fun (bs, deepest, c) => (b ++ bs, deepest, c)
    else some ([], deepest, c)

/-- The lines of a block indented by `indent`: `pending` is the break before the line ahead,
`further` are the empty lines after that break, `blankBefore` says whether the line before began
with a blank. Gives the text, the breaks left over and what follows. -/
def blockLines (folded : Bool) (indent : Nat) : Nat → List Char → List Char → Bool → Cursor →
    Option (List Char × List Char × List Char × Cursor)
  | 0, pending, further, _, c => some ([], pending, further, c)
  | fuel + 1, pending, further, blankBefore, c =>
    if c.column ≠ indent || c.rest.isEmpty then some ([], pending, further, c)
    else do
      let blank := c.rest.head?.any isBlank
      let start :=
        if folded && pending = ['\n'] && !blankBefore && !blank then
          if further.isEmpty then [' '] else further
        else pending ++ further
      let line := c.ahead fun _ => true
      let (pending, c) := (c.skip line.length).readBreak
      let (further, _, c) ← skipIndentation (some indent) (c.rest.length + 1) 0 c
      let (more, pending, further, c) ← blockLines folded indent fuel pending further blank c
      return (start ++ line ++ more, pending, further, c)

def readBlock (folded : Bool) (outer : Int) (c : Cursor) : Option (List Char × Cursor) := do
  let (chomping, deeper, c) ← readHeader c
  let c ← c.skipLine?
  let given := deeper.map fun n => if 0 ≤ outer then outer.toNat + n else n
  let (further, deepest, c) ← skipIndentation given (c.rest.length + 1) 0 c
  let indent := given.getD (max (max deepest (outer + 1).toNat) 1)
  let (text, pending, further, c) ←
    blockLines folded indent (c.rest.length + 1) [] further false c
  let ending := match chomping with
    | .strip => []
    | .clip => pending
    | .keep => pending ++ further
  return (text ++ ending, c)

end LookML.Yaml
