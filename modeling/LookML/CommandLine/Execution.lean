import LookML.CommandLine.Reader
import LookML.Config.Lookup
import LookML.Discovery
import LookML.Library
import LookML.Report.Json
import LookML.Table
/-!
# Carrying command lines out

What a command writes, and the exit code that it ends with: 0 if all is well, 1 if there are
violations of severity `error`, 2 if the command could not be carried out.
-/

namespace LookML.CommandLine

open FileTree (Place)

/-- What a command leaves behind. -/
structure Output where
  exitCode : Nat
  /-- the result -/
  result : String
  /-- remarks about the run, a line each -/
  remarks : List String
deriving DecidableEq

/-- Why a command cannot be carried out. -/
inductive Failure where
  /-- a configuration file that was asked for -/
  | config (path : String) (error : Config.Error)
  /-- the configuration of the project in a directory -/
  | projectConfig (directory : String) (error : Config.Error)
  | rules (error : RegistryError)
  | selection (error : RegistryError)
  | noTimeout
  | discovery (error : Discovery.Error)
  | tooManyThreads
deriving DecidableEq

def Failure.message : Failure → String
  | config path e => s!"Failed to load config {path}: {e.chain}"
  | projectConfig directory e => s!"Failed to load config from {directory}: {e.chain}"
  | rules e => s!"Invalid rule configuration: {e.message}"
  | selection e => s!"Invalid --rule selection: {e.message}"
  | noTimeout => "--timeout must be greater than zero"
  | discovery e => e.message
  | tooManyThreads => Limits.tooManyThreads

def Failure.output (f : Failure) : Output :=
  ⟨2, "", [s!"Error: {f.message}"]⟩

def jsonText (v : Json.Value) : String :=
  v.render ++ "\n"

def Format.report : Format → Report → String
  | text, r => r.text
  | json, r => jsonText r.toJson

def ruleTable (rules : List Rule) : Table where
  headers := ["RULE", "SCOPE", "SEVERITY", "DESCRIPTION"]
  rows := rules.map fun r => [r.id.text, r.scope.word, r.severity.word, r.description]

def Format.rules : Format → List Rule → String
  | text, rs => (ruleTable rs).render
  | json, rs => jsonText (.list (rs.map Rule.toJson))

def loadConfig (base : Place) (file : Option String) (path : Path) : Except Failure Config :=
  match file with
  | some name => (Config.read base ⟨name⟩).mapError (.config name)
  | none =>
    let directory := Discovery.projectDirectory base path
    (Config.ofProject base directory).mapError (.projectConfig directory.text)

def chooseRules (config : Config) (named : List String) : Except Failure Registry := do
  let all ← (Registry.configured config.options config.levels).mapError .rules
  if named.isEmpty then return all else (all.select named).mapError .selection

def chooseLimits (config : Config) (request : LintRequest) : Except Failure Limits :=
  if request.timeout = some 0 then .error .noTimeout
  else .ok {
    timeoutSeconds := request.timeout.getD config.limits.timeoutSeconds
    threads := (request.threads.map (max 1)).or config.limits.threads }

/-- Lints a project. As many rules are applied at once as there are `processors`, unless the number
is given. -/
def lintPath (base : Place) (processors : Nat) (file : Option String) (verbose : Bool)
    (request : LintRequest) : Except Failure Output := do
  let path : Path := ⟨request.path⟩
  let config ← loadConfig base file path
  let registry ← chooseRules config request.rules
  let limits ← chooseLimits config request
  let discovery ← (Discovery.run base path config.exclude).mapError .discovery
  let sources := discovery.sources base
  let threads := limits.threads.getD processors
  if threads > Limits.maxThreads then .error .tooManyThreads
  else
    let report := lint sources registry config.levels (Task.outcome limits.timeout)
    let unmatched := discovery.unmatched.map fun (file, pattern) =>
      s!"[warn] {file}: include \"{pattern}\" matches no files"
    let skipped := (discovery.unreadable base).map fun (file, e) =>
      s!"[warn] Skipping unreadable file {file.text}: {e.message}"
    let counts := s!"{sources.length} files with {registry.rules.length} rules"
    let progress :=
      s!"[verbose] Linting {counts} (timeout {limits.timeoutSeconds}s, {threads} threads)"
    return {
      exitCode := if report.hasErrors then 1 else 0
      result := request.format.report (report.atLeast request.least)
      remarks := unmatched ++ skipped ++ if verbose then [progress] else [] }

def listRules (verbose : Bool) (format : Format) : Output where
  exitCode := 0
  result := format.rules Registry.standard.rules
  remarks :=
    if verbose then [s!"[verbose] {Registry.standard.rules.length} rules registered"] else []

def Invocation.run (base : Place) (processors : Nat) (i : Invocation) : Except Failure Output :=
  match i.request with
  | .lint request => lintPath base processors i.config i.verbose request
  | .rules format => .ok (listRules i.verbose format)

end LookML.CommandLine
