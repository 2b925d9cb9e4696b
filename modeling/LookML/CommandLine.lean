import LookML.Violation
/-!
# Command lines

What can be asked for on the command line: a command, and the settings that it allows.
-/

namespace LookML.CommandLine

/-- How a result is written. -/
inductive Format where
  | text
  | json
deriving DecidableEq

def Format.ofWord? : String → Option Format
  | "text" => some .text
  | "json" => some .json
  | _ => none

structure LintRequest where
  path : String
  format : Format
  /-- the rules to apply, all of them if none is named -/
  rules : List String
  /-- the least severity that is shown -/
  least : Severity
  /-- how many seconds one application of a rule may take, if it is not left to the configuration -/
  timeout : Option Nat
  /-- how many rules are applied at once, if it is not left to the configuration -/
  threads : Option Nat
deriving DecidableEq

inductive Request where
  | lint (request : LintRequest)
  | rules (format : Format)
deriving DecidableEq

/-- A command line that makes sense. -/
structure Invocation where
  verbose : Bool
  /-- the configuration file, if it is not looked for in the project -/
  config : Option String
  request : Request
deriving DecidableEq

/-- Why a command line is not carried out: it makes no sense, or asks for nothing but a text about
the program. -/
inductive Refusal where
  | help
  | version
  | nothingAsked
  | missingCommand
  | unknownCommand
  | unknownArgument
  | repeatedSetting
  | needlessValue
  /-- no value, or none of those that there are -/
  | invalidValue
  /-- a value that is no number -/
  | noNumber
deriving DecidableEq

/-- Only the texts that are asked for leave a program content. -/
def Refusal.exitCode : Refusal → Nat
  | help | version => 0
  | _ => 2

inductive Command where
  | lint
  | rules
deriving DecidableEq

def Command.ofWord? : String → Option Command
  | "lint" => some .lint
  | "rules" => some .rules
  | _ => none

/-- What an argument is about. -/
inductive Setting where
  | help
  | version
  | verbose
  | config
  | path
  | format
  | rule
  | least
  | timeout
  | threads
deriving DecidableEq

namespace Setting

/-- The name after two dashes. The path is given without any. -/
def long? : Setting → Option String
  | help => some "help"
  | version => some "version"
  | verbose => some "verbose"
  | config => some "config"
  | path => none
  | format => some "format"
  | rule => some "rule"
  | least => some "min-severity"
  | timeout => some "timeout"
  | threads => some "threads"

def short? : Setting → Option Char
  | help => some 'h'
  | version => some 'V'
  | verbose => some 'v'
  | config => some 'c'
  | format => some 'f'
  | rule => some 'r'
  | threads => some 'j'
  | path | least | timeout => none

def takesValue : Setting → Bool
  | help | version | verbose => false
  | _ => true

def repeatable (s : Setting) : Bool :=
  s = rule

def allowed : Option Command → List Setting
  | none => [help, version, verbose, config]
  | some .lint => [help, verbose, config, path, format, rule, least, timeout, threads]
  | some .rules => [help, verbose, config, format]

end Setting

/-- A setting with its value. -/
inductive Given where
  | verbose
  | config (path : String)
  | path (path : String)
  | format (format : Format)
  | rule (id : String)
  | least (severity : Severity)
  | timeout (seconds : Nat)
  | threads (count : Nat)
deriving DecidableEq

def Given.setting : Given → Setting
  | verbose => .verbose
  | config _ => .config
  | path _ => .path
  | format _ => .format
  | rule _ => .rule
  | least _ => .least
  | timeout _ => .timeout
  | threads _ => .threads

def maxNumber : Nat := Nat.pow 2 64 - 1

/-- The number that a text spells: decimal digits, with a plus sign at most. -/
def number? (text : String) : Option Nat :=
  let digits := match text.toList with
    | '+' :: ds => ds
    | ds => ds
  if digits.isEmpty || !digits.all Char.isDigit then none
  else
    let n := digits.foldl (fun n d => 10 * n + (d.toNat - '0'.toNat)) 0
    if n ≤ maxNumber then some n else none

def Given.read (s : Setting) (text : String) : Except Refusal Given :=
  match s with
  | .help => .error .help
  | .version => .error .version
  | .verbose => .ok .verbose
  | .config => .ok (.config text)
  | .path => .ok (.path text)
  | .rule => .ok (.rule text)
  | .format => ((Format.ofWord? text).map Given.format).elim (.error .invalidValue) .ok
  | .least => ((Severity.ofWord? text).map Given.least).elim (.error .invalidValue) .ok
  | .timeout => ((number? text).map Given.timeout).elim (.error .noNumber) .ok
  | .threads => ((number? text).map Given.threads).elim (.error .noNumber) .ok

end LookML.CommandLine
