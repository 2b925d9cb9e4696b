import LookML.Token
import LookML.Violation
/-!
# Syntax errors

The first place where a text stops being LookML, and why. Nothing after it is read.
-/

namespace LookML

/-- What could have stood where an unexpected token stands. -/
inductive Expectation where
  | colon
  | propertyName
  | value
  | valueOf (key : String)
  | listSeparator
  | blockEnd (keyword : String) (line : Nat)
  | listEnd (line : Nat)
deriving DecidableEq

def Expectation.describe : Expectation → String
  | .colon => "':'"
  | .propertyName => "a property name"
  | .value => "a value"
  | .valueOf key => s!"a value for '{key}'"
  | .listSeparator => "',' or ']'"
  | .blockEnd keyword line => s!"'\x7d' closing {keyword} opened at line {line}"
  | .listEnd line => s!"']' closing list opened at line {line}"

/-- Blocks and lists may stand inside one another this many levels deep. -/
def maxNesting : Nat := 64

namespace SyntaxError

/-- Why a text is not LookML. -/
inductive Cause where
  | unexpected (expected : Expectation) (found : TokenKind)
  | unterminatedString
  | unterminatedExpression (key : String)
  | nestingTooDeep
deriving DecidableEq

def Cause.code : Cause → String
  | .unexpected .. => "P001"
  | .unterminatedString => "P002"
  | .unterminatedExpression _ => "P003"
  | .nestingTooDeep => "P004"

def Cause.describe : Cause → String
  | .unexpected expected found => s!"expected {expected.describe}, found {found.describe}"
  | .unterminatedString => "unterminated string literal"
  | .unterminatedExpression key => s!"value of '{key}' is not terminated by ';;'"
  | .nestingTooDeep => s!"nesting exceeds {maxNesting} levels"

end SyntaxError

/-- A cause and the place it was found at. -/
structure SyntaxError where
  path : String
  position : Position
  cause : SyntaxError.Cause
deriving DecidableEq

namespace SyntaxError

def ruleId : RuleId := ⟨"parse_error", by decide⟩

def unexpected (path : String) (token : Token) (expected : Expectation) : SyntaxError :=
  ⟨path, token.start, .unexpected expected token.kind⟩

/-- `[code] path:line:column: cause`. -/
def message (e : SyntaxError) : String :=
  s!"[{e.cause.code}] {e.path}:{e.position.line}:{e.position.column}: {e.cause.describe}"

/-- The diagnostic that stands for the file in a report. -/
def toViolation (e : SyntaxError) : Violation :=
  { Violation.finding ruleId .error e.message
      (.point e.path e.position.line e.position.column) with origin := .parse }

end SyntaxError

end LookML
