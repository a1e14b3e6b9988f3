import InterfaceLint.ExitStatus
import InterfaceLint.ModelFile
import InterfaceLint.Scan
import InterfaceLint.Settings.Lookup
import InterfaceLint.Text.Word

/-!
# Running a check

A check looks up the settings for its root, finds the model files, loads and
analyzes them, and puts all findings in order.  A model file that cannot be
loaded is a finding of its own.
-/

set_option autoImplicit false

namespace InterfaceLint

open Text (Word)

inductive OutputFormat where
  | text
  | json
  deriving DecidableEq

def OutputFormat.name : OutputFormat → String
  | .text => "text"
  | .json => "json"

/-- What a check is asked for. -/
structure CheckRequest where
  paths : List Word := []
  root : Option Word := none
  verbose : Bool := false
  rules : List Rule := []
  format : OutputFormat := .text
  deriving DecidableEq

/-- Why a command fails as a whole. -/
inductive RunError where
  | invalidRoot (root : Word)
  | settings (error : LookupError)
  | unwritable (path : String) (fault : DiskFault)
  deriving DecidableEq

def RunError.message : RunError → String
  | .invalidRoot root => "Invalid path: " ++ root.quoted
  | .settings error => error.message
  | .unwritable path fault => "Failed to write " ++ path ++ ": " ++ fault.message

/-! ## Preparation -/

structure CheckContext where
  settings : Settings
  root : String
  files : List String

namespace CheckContext

/-- The path of a file as shown: relative to the root if it is below it. -/
def displayPath (context : CheckContext) (path : String) : String :=
  (Path.strip? path context.root).getD path

/-- The root of a request; the working directory when none is given. -/
def rootOf (request : CheckRequest) : Except RunError String :=
  match request.root with
  | none => .ok "."
  | some word =>
    match word.text? with
    | some text => .ok text
    | none => .error (.invalidRoot word)

/-- Paths of the request take the place of the configured includes. -/
def withPaths (settings : Settings) (paths : List Word) : Settings :=
  if paths.isEmpty then settings else { settings with includes := paths.map Word.lossy }

def notices (request : CheckRequest) (root : String) (fromFile : Bool) (result : ScanResult) :
    List Notice :=
  (if request.verbose && !fromFile then [.noSettingsFile] else []) ++
    (if request.verbose then result.notices else []) ++
    (if 0 < result.skipped then [.skipped result.skipped request.verbose] else []) ++
    (if request.verbose then [.found result.files.length root] else [])

def prepare (disk : Disk) (request : CheckRequest) :
    Except RunError (CheckContext × List Notice) := do
  let root ← rootOf request
  let (configured, fromFile) ← (Settings.load disk root).mapError .settings
  let settings := withPaths configured request.paths
  let result := scan disk root settings.includes settings.ignores
  return ({ settings, root, files := result.files }, notices request root fromFile result)

end CheckContext

/-! ## The check itself -/

structure CheckResult where
  findings : List Finding
  modelCount : Nat

namespace CheckResult

def ofFindings (modelCount : Nat) (findings : List Finding) : CheckResult :=
  { findings := Finding.sorted findings, modelCount }

def errorCount (result : CheckResult) : Nat := Finding.countOf .error result.findings

def warningCount (result : CheckResult) : Nat := Finding.countOf .warning result.findings

def unreadableCount (result : CheckResult) : Nat := result.findings.countP Finding.isUnreadable

/-- A check fails when there is an error among its findings. -/
def exitStatus (result : CheckResult) : ExitStatus :=
  if 0 < result.errorCount then .failure else .success

end CheckResult

namespace CheckContext

def unreadable (context : CheckContext) (failure : UnreadableModel) : Finding :=
  .unreadable { failure with path := context.displayPath failure.path }

def checkedNotice (context : CheckContext) (options : AnalysisOptions) (loaded : LoadedModel) :
    Notice :=
  .checked (context.displayPath loaded.path) loaded.model.assembly loaded.model.symbolCount
    loaded.model.calls.length (loaded.model.analyze options).length

def loadNotices (loaded : LoadedModels) : List Notice :=
  loaded.failures.map fun failure => .loadFailed failure.path failure.error

def result (context : CheckContext) (options : AnalysisOptions) (loaded : LoadedModels) :
    CheckResult :=
  .ofFindings context.files.length
    (loaded.models.flatMap (fun loaded => loaded.model.analyze options) ++
      loaded.failures.map context.unreadable)

end CheckContext

def check (disk : Disk) (request : CheckRequest) : Except RunError (CheckResult × List Notice) := do
  let (context, notices) ← CheckContext.prepare disk request
  let options := context.settings.options request.rules
  let loaded := loadModels disk context.files
  let details := CheckContext.loadNotices loaded ++
    loaded.models.map (context.checkedNotice options)
  return (context.result options loaded, notices ++ if request.verbose then details else [])

end InterfaceLint
