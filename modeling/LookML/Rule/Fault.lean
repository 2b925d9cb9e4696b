import LookML.Number.Shortest
import LookML.Violation
/-!
# Faults

A rule that panics or runs too long on one subject is reported there and keeps no other check from
being made.
-/

namespace LookML

/-- Why a check gave no findings. -/
inductive FaultCause where
  | panicked (message : String)
  | timedOut (milliseconds : Nat)
deriving DecidableEq

/-- A rule that did not finish on a subject. -/
structure Fault where
  rule : RuleId
  subject : String
  cause : FaultCause
deriving DecidableEq

namespace Fault

def unknownPanic : String := "unknown panic payload"

/-- A time in seconds, as whole seconds and a fraction that are rounded one by one. -/
def seconds (milliseconds : Nat) : Magnitude :=
  (Magnitude.ofRatio (milliseconds / 1000) 1).add (Magnitude.ofRatio (milliseconds % 1000) 1000)

/-- The fault in words, after its stable code. -/
def message (f : Fault) : String :=
  match f.cause with
  | .panicked message => s!"[F001] rule '{f.rule.text}' panicked on {f.subject}: {message}"
  | .timedOut ms => s!"[F002] rule '{f.rule.text}' timed out after {(seconds ms).render}s on {f.subject}"

def toViolation (f : Fault) (location : Location) : Violation :=
  { Violation.finding f.rule .error f.message location with origin := .ruleFault }

end Fault

end LookML
