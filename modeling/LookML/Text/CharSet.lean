/-!
# Sets of characters

A set of characters is a list of runs: code points that follow one another in steps of one or, where
the two cases of an alphabet alternate, of two. A case mapping is a list of runs that each move by
a fixed distance.
-/

namespace LookML.Text

/-- Every `step`-th code point from `first` to `last`. -/
structure Run where
  first : Nat
  last : Nat
  step : Nat
deriving DecidableEq

def Run.has (r : Run) (n : Nat) : Bool :=
  r.first ≤ n && n ≤ r.last && (n - r.first) % r.step = 0

abbrev CharSet := List Run

def CharSet.has (s : CharSet) (c : Char) : Bool :=
  s.any (·.has c.toNat)

/-- The code points of a run, and how far each of them moves. -/
structure Shift where
  run : Run
  distance : Int
deriving DecidableEq

namespace Shift

/-- The code point that `n` moves to, if it belongs to the run. -/
def image? (s : Shift) (n : Nat) : Option Nat :=
  if s.run.has n then some (n + s.distance).toNat else none

/-- The code point of the run that moves to `n`, if there is one. -/
def preimage? (s : Shift) (n : Nat) : Option Nat :=
  let source := (n - s.distance).toNat
  if s.image? source = some n then some source else none

end Shift

/-- A mapping that moves some code points and keeps all others. -/
abbrev CharMap := List Shift

namespace CharMap

def image (m : CharMap) (c : Char) : Char :=
  (m.findSome? (·.image? c.toNat)).elim c Char.ofNat

def preimages (m : CharMap) (c : Char) : List Char :=
  (m.filterMap (·.preimage? c.toNat)).map Char.ofNat

end CharMap

end LookML.Text
