import LookML.Text.Blank
import LookML.Text.CaseFolding
/-!
# Patterns

Regular expressions over characters, and what they match. Only whether a pattern matches somewhere
in a text is asked, so a pattern is read as a relation between positions of the text: `ends` takes
the positions where a match may begin to those where it may end.
-/

namespace LookML

inductive CharClass where
  | empty
  | range (first last : Char)
  | set (members : Text.CharSet)
  /-- the blank characters -/
  | blank
  | union (a b : CharClass)
  | intersection (a b : CharClass)
  | difference (a b : CharClass)
  | symmetricDifference (a b : CharClass)
  | complement (a : CharClass)
  /-- the characters that differ at most in case from one of `a`, of the ASCII letters only unless
  `unicode` is set -/
  | anyCase (unicode : Bool) (a : CharClass)
deriving DecidableEq

namespace CharClass

def swapCase (c : Char) : Char :=
  if c.isUpper then c.toLower else c.toUpper

def has : CharClass → Char → Bool
  | empty, _ => false
  | range first last, c => first ≤ c && c ≤ last
  | set members, c => members.has c
  | blank, c => Text.isBlank c
  | union a b, c => a.has c || b.has c
  | intersection a b, c => a.has c && b.has c
  | difference a b, c => a.has c && !b.has c
  | symmetricDifference a b, c => a.has c ^^ b.has c
  | complement a, c => !a.has c
  | anyCase true a, c => a.has c || (Text.caseVariants c).any a.has
  | anyCase false a, c => a.has c || a.has (swapCase c)

def single (c : Char) : CharClass :=
  range c c

def ofChars (cs : List Char) : CharClass :=
  (cs.map single).foldr union empty

def any : CharClass :=
  complement empty

def asciiWord : CharClass :=
  union (range 'a' 'z') (union (range 'A' 'Z') (union (range '0' '9') (single '_')))

def asciiBlank : CharClass :=
  union (range '\t' '\r') (single ' ')

def runs : CharClass → Nat
  | empty => 0
  | range _ _ => 1
  | set members => members.length
  | blank => 10
  | union a b | intersection a b | difference a b | symmetricDifference a b => a.runs + b.runs
  | complement a => a.runs + 1
  | anyCase _ a => 2 * a.runs

def isAscii (a : CharClass) : Bool :=
  (List.range 128).all fun n => !a.has (Char.ofNat (128 + n))

end CharClass

/-- A condition on the place between two characters. -/
inductive Boundary where
  | textStart
  | textEnd
  /-- after a line break or at the start; a line may also break at carriage returns -/
  | lineStart (returns : Bool)
  | lineEnd (returns : Bool)
  /-- a word begins or ends -/
  | word (members : CharClass)
  | notWord (members : CharClass)
  | wordStart (members : CharClass)
  | wordEnd (members : CharClass)
  /-- no word reaches the place from before -/
  | wordStartHalf (members : CharClass)
  /-- no word goes on after the place -/
  | wordEndHalf (members : CharClass)
deriving DecidableEq

/-- Whether the condition holds between the characters `before` and `after`, which are absent at
the ends of the text. -/
def Boundary.holds (before after : Option Char) : Boundary → Bool
  | textStart => before.isNone
  | textEnd => after.isNone
  | lineStart false => before.isNone || before = some '\n'
  | lineStart true =>
    before.isNone || before = some '\n' || (before = some '\r' && after ≠ some '\n')
  | lineEnd false => after.isNone || after = some '\n'
  | lineEnd true =>
    after.isNone || after = some '\r' || (after = some '\n' && before ≠ some '\r')
  | word w => before.any w.has != after.any w.has
  | notWord w => before.any w.has == after.any w.has
  | wordStart w => !before.any w.has && after.any w.has
  | wordEnd w => before.any w.has && !after.any w.has
  | wordStartHalf w => !before.any w.has
  | wordEndHalf w => !after.any w.has

inductive Pattern where
  /-- the empty text -/
  | empty
  /-- one character of a class -/
  | char (members : CharClass)
  | boundary (condition : Boundary)
  | sequence (p q : Pattern)
  | either (p q : Pattern)
  /-- at least `least` times, and at most `most` times if that is given -/
  | repeated (least : Nat) (most : Option Nat) (p : Pattern)
deriving DecidableEq

namespace Pattern

def steps (f : List Nat → List Nat) : Nat → List Nat → List Nat
  | 0, s => s
  | n + 1, s => steps f n (f s)

def stepsUpTo (f : List Nat → List Nat) : Nat → List Nat → List Nat
  | 0, s => s
  | n + 1, s => if (f s).all (· ∈ s) then s else stepsUpTo f n (s ++ f s).eraseDups

/-- The positions where a match that begins at one of the given positions may end. A step never
goes back, so more steps than there are positions lead nowhere new. -/
def ends (text : Array Char) : Pattern → List Nat → List Nat
  | empty, s => s
  | char members, s => (s.filter fun i => text[i]?.any members.has).map (· + 1)
  | boundary condition, s =>
    s.filter fun i => condition.holds (if i = 0 then none else text[i - 1]?) text[i]?
  | sequence p q, s => ends text q (ends text p s)
  | either p q, s => (ends text p s ++ ends text q s).eraseDups
  | repeated least most p, s =>
    let bound := text.size + 1
    let extra := match most with
      | some most => most - least
      | none => bound
    stepsUpTo (ends text p) (min extra bound) (steps (ends text p) (min least bound) s)

/-- Roughly the bytes that an automaton for the pattern takes, with every counted repetition written
out. -/
def weight : Pattern → Nat
  | empty => 32
  | char (.range first last) => if first = last && first.toNat < 128 then 32 else 64
  | char members => 32 + 24 * members.runs
  | boundary _ => 32
  | sequence p q => p.weight + q.weight
  | either p q => p.weight + q.weight + 48
  | repeated least none p => (least + 1) * p.weight + 48
  | repeated least (some most) p => least * p.weight + (most - least) * (p.weight + 48)

def isFoundIn (p : Pattern) (text : String) : Bool :=
  let cs := text.toList.toArray
  !(p.ends cs (List.range (cs.size + 1))).isEmpty

end Pattern

end LookML
