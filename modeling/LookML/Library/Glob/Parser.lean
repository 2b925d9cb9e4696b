import LookML.Library.Glob
/-!
# Reading glob patterns
-/

namespace LookML.Glob

/-- What is wrong with a pattern. -/
inductive Fault where
  | stars
  | directories
  | range
deriving DecidableEq

def Fault.describe : Fault → String
  | stars => "wildcards are either regular \x60*\x60 or recursive \x60**\x60"
  | directories => "recursive wildcards must form a single path component"
  | range => "invalid range pattern"

/-- A pattern that cannot be read, and where the fault was found, counted in characters. -/
structure Error where
  position : Nat
  fault : Fault
deriving DecidableEq

def Error.message (e : Error) : String :=
  s!"Pattern syntax error near position {e.position}: {e.fault.describe}"

/-- The ranges between brackets. A dash between two characters makes a range. -/
def ranges : List Char → List (Char × Char)
  | first :: '-' :: last :: cs => (first, last) :: ranges cs
  | c :: cs => (c, c) :: ranges cs
  | [] => []

/-- The characters up to the bracket that closes a set, and what follows it. The first character
never closes the set. -/
def bracketed? : List Char → Option (List Char × List Char)
  | [] => none
  | c :: cs =>
    match cs.dropWhile (· ≠ ']') with
    | [] => none
    | _ :: rest => some (c :: cs.takeWhile (· ≠ ']'), rest)

def set? : List Char → Option (GlobToken × List Char)
  | '!' :: cs => (bracketed? cs).map fun (inside, rest) => (.oneOf true (ranges inside), rest)
  | cs => (bracketed? cs).map fun (inside, rest) => (.oneOf false (ranges inside), rest)

theorem length_bracketed? {cs inside rest : List Char}
    (h : bracketed? cs = some (inside, rest)) : rest.length < cs.length := by
  unfold bracketed? at h
  split at h
  · simp at h
  · rename_i c cs
    split at h
    · simp at h
    · rename_i d tail e
      have sub := (List.dropWhile_sublist (· ≠ ']') (l := cs)).length_le
      simp only [e, List.length_cons] at sub
      simp only [Option.some.injEq, Prod.mk.injEq] at h
      rw [← h.2, List.length_cons]
      omega

theorem length_set? {cs rest : List Char} {t : GlobToken} (h : set? cs = some (t, rest)) :
    rest.length < cs.length := by
  unfold set? at h
  split at h
  · obtain ⟨⟨inside, r⟩, hb, e⟩ := Option.map_eq_some_iff.1 h
    simp only [Prod.mk.injEq] at e
    have := length_bracketed? hb
    rw [← e.2, List.length_cons]
    omega
  · obtain ⟨⟨inside, r⟩, hb, e⟩ := Option.map_eq_some_iff.1 h
    simp only [Prod.mk.injEq] at e
    exact e.2 ▸ length_bracketed? hb

/-- The tokens of a pattern from a position on. Two stars must be all there is between two slashes,
or between a slash and either end. -/
def readTokens (previous : Option Char) (position : Nat) (cs : List Char) :
    Except Error (List GlobToken) :=
  match cs with
  | [] => .ok []
  | '*' :: '*' :: '*' :: _ => .error ⟨position + 2, .stars⟩
  | '*' :: '*' :: rest =>
    if previous.any (· ≠ '/') then .error ⟨position - 1, .directories⟩
    else match rest with
      | [] => .ok [.directories]
      | '/' :: rest => (.directories :: ·) <$> readTokens (some '/') (position + 3) rest
      | _ => .error ⟨position + 2, .directories⟩
  | '*' :: rest => (.sequence :: ·) <$> readTokens (some '*') (position + 1) rest
  | '?' :: rest => (.any :: ·) <$> readTokens (some '?') (position + 1) rest
  | '[' :: inner =>
    match h : set? inner with
    | none => .error ⟨position, .range⟩
    | some (t, rest) =>
      have : rest.length < inner.length := length_set? h
      (t :: ·) <$> readTokens (some ']') (position + 1 + (inner.length - rest.length)) rest
  | c :: rest => (.literal c :: ·) <$> readTokens (some c) (position + 1) rest
termination_by cs.length
decreasing_by
  all_goals simp_wf
  all_goals omega

def parse (text : String) : Except Error Glob :=
  Glob.mk <$> readTokens none 0 text.toList

end LookML.Glob
