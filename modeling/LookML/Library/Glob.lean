/-!
# Glob patterns

Patterns of file paths. A question mark stands for one character and a star for any number of them,
slashes included; two stars stand for any number of directories.
-/

namespace LookML

/-- A piece of a pattern. -/
inductive GlobToken where
  | literal (c : Char)
  /-- any one character -/
  | any
  /-- any characters -/
  | sequence
  /-- any directories, or everything that is left -/
  | directories
  /-- a character in one of the ranges, or in none of them -/
  | oneOf (negated : Bool) (ranges : List (Char × Char))
deriving DecidableEq

/-- A pattern. -/
structure Glob where
  tokens : List GlobToken
deriving DecidableEq

namespace Glob

/-- The text and all texts that are left of it when its start is taken off. -/
def suffixes : List Char → List (List Char)
  | [] => [[]]
  | c :: cs => (c :: cs) :: suffixes cs

def afterSlashes : List Char → List (List Char)
  | [] => [[]]
  | c :: cs => if c = '/' then cs :: afterSlashes cs else afterSlashes cs

def inRanges (ranges : List (Char × Char)) (c : Char) : Bool :=
  ranges.any fun (first, last) => first ≤ c && c ≤ last

end Glob

namespace GlobToken

/-- What can be left of a text whose start the token matches. -/
def rests (t : GlobToken) (cs : List Char) : List (List Char) :=
  match t, cs with
  | sequence, cs => Glob.suffixes cs
  | directories, cs => cs :: Glob.afterSlashes cs
  | _, [] => []
  | any, _ :: cs => [cs]
  | literal l, c :: cs => if c = l then [cs] else []
  | oneOf negated ranges, c :: cs => if Glob.inRanges ranges c ≠ negated then [cs] else []

def literal? : GlobToken → Option Char
  | literal c => some c
  | _ => none

end GlobToken

namespace Glob

def rests (tokens : List GlobToken) (cs : List Char) : List (List Char) :=
  tokens.foldl (fun left t => (left.flatMap t.rests).eraseDups) [cs]

def isMatch (g : Glob) (text : String) : Bool :=
  (rests g.tokens text.toList).contains []

def literal? (g : Glob) : Option String :=
  (g.tokens.mapM GlobToken.literal?).map String.ofList

end Glob

end LookML
