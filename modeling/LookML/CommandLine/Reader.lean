import LookML.CommandLine
/-!
# Reading command lines

Arguments are read one by one. A setting whose value is an argument of its own is settled when the
next one begins, and only then is its value looked at.
-/

namespace LookML.CommandLine

/-- How far the arguments before or after the command have been read. -/
structure Reader where
  command : Option Command
  settled : List Given
  /-- a setting that is not settled, and its value if there is one yet -/
  pending : Option (Setting × Option String)

namespace Reader

def start (command : Option Command) : Reader :=
  ⟨command, [], none⟩

def awaits (r : Reader) : Bool :=
  r.pending.any (·.2.isNone)

def take (r : Reader) (s : Setting) (value : String) : Except Refusal Reader := do
  if !s.repeatable && r.settled.any (·.setting = s) then .error .repeatedSetting
  else return { r with settled := r.settled ++ [← Given.read s value] }

/-- Takes the pending setting in. It must have a value. -/
def settle (r : Reader) : Except Refusal Reader :=
  match r.pending with
  | none => .ok r
  | some (_, none) => .error .invalidValue
  | some (s, some value) => take { r with pending := none } s value

def attached (r : Reader) (s : Setting) (value : String) : Except Refusal Reader := do
  take (← r.settle) s value

/-- A setting whose value comes later, if it has one. -/
def bare (r : Reader) (s : Setting) : Except Refusal Reader := do
  if s.takesValue then return { ← r.settle with pending := some (s, none) }
  else r.attached s ""

/-- The argument after two dashes: a name, perhaps with a value after an equals sign. -/
def long (r : Reader) (argument : List Char) : Except Refusal Reader :=
  let name := String.ofList (argument.takeWhile (· ≠ '='))
  match (Setting.allowed r.command).find? (·.long? = some name) with
  | none => .error .unknownArgument
  | some s =>
    match argument.dropWhile (· ≠ '=') with
    | [] => r.bare s
    | _ :: value =>
      if s.takesValue then r.attached s (String.ofList value) else .error .needlessValue

/-- The argument after one dash: letters, the last one perhaps with a value behind it. -/
def short (r : Reader) : List Char → Except Refusal Reader
  | [] => .ok r
  | c :: cs =>
    match (Setting.allowed r.command).find? (·.short? = some c) with
    | none => .error .unknownArgument
    | some s =>
      if s.takesValue then
        match cs with
        | [] => r.bare s
        | '=' :: value => r.attached s (String.ofList value)
        | value => r.attached s (String.ofList value)
      else do short (← r.bare s) cs

/-- An argument that stands for itself: the path, if there is none yet. After two bare dashes even
the name of a command does. -/
def positional (r : Reader) (afterDashes : Bool) (argument : String) : Except Refusal Reader := do
  let known := r.settled.any (·.setting = .path) || r.pending.any (·.1 = .path)
  if (Setting.allowed r.command).contains .path && !known then
    return { ← r.settle with pending := some (.path, some argument) }
  else if r.command.isSome ||
      afterDashes && ((Command.ofWord? argument).isSome || argument = "help") then
    .error .unknownArgument
  else .error .unknownCommand

end Reader

/-- What stops the reading of arguments. -/
inductive Stop where
  | finished
  | command (c : Command) (rest : List String)
  | help (rest : List String)

/-- Reads arguments up to the end or to a command. -/
def scan (r : Reader) : List String → Except Refusal (Reader × Stop)
  | [] => .ok (r, .finished)
  | a :: rest => do
    let named := if r.awaits || r.command.isSome then none else Command.ofWord? a
    match named, a.toList with
    | some c, _ => return (r, .command c rest)
    | none, ['-', '-'] => return (← rest.foldlM (·.positional true) r, .finished)
    | none, '-' :: '-' :: cs => scan (← r.long cs) rest
    | none, '-' :: c :: cs => scan (← r.short (c :: cs)) rest
    | none, _ =>
      match r.pending with
      | some (s, none) => scan { r with pending := some (s, some a) } rest
      | _ =>
        if r.command.isNone && a = "help" then return (r, .help rest)
        else scan (← r.positional false a) rest

def helpAbout : List String → Refusal
  | [] => .help
  | [word] => if (Command.ofWord? word).isSome || word = "help" then .help else .unknownCommand
  | _ => .unknownCommand

def Request.ofGiven (given : List Given) : Command → Request
  | .lint => .lint {
      path := (given.findSome? fun | .path p => some p | _ => none).getD "."
      format := (given.findSome? fun | .format f => some f | _ => none).getD .text
      rules := given.filterMap fun | .rule id => some id | _ => none
      least := (given.findSome? fun | .least s => some s | _ => none).getD .info
      timeout := given.findSome? fun | .timeout n => some n | _ => none
      threads := given.findSome? fun | .threads n => some n | _ => none }
  | .rules => .rules ((given.findSome? fun | .format f => some f | _ => none).getD .text)

/-- What a command line asks for, where `environment` is the configuration file that the environment
names. A file named after the command counts more than one before it. -/
def parse (environment : Option String) (arguments : List String) :
    Except Refusal Invocation := do
  let (top, stop) ← scan (.start none) arguments
  match stop with
  | .help rest => .error (helpAbout rest)
  | .finished =>
    let top ← top.settle
    .error (if top.settled.isEmpty && environment.isNone then .nothingAsked else .missingCommand)
  | .command c rest =>
    let (inner, _) ← scan (.start (some c)) rest
    let inner ← inner.settle
    let top ← top.settle
    let given := inner.settled ++ top.settled
    return {
      verbose := given.contains .verbose
      config := (given.findSome? fun | .config p => some p | _ => none).or environment
      request := Request.ofGiven given c }

end LookML.CommandLine
