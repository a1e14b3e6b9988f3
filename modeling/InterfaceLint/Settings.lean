import InterfaceLint.Analysis
import InterfaceLint.Glob
import InterfaceLint.Settings.Levels

/-!
# Settings of a project

Which paths are scanned, which are left out, and how the rules are reported.
-/

set_option autoImplicit false

namespace InterfaceLint

structure Settings where
  /-- Directories or single files to scan. -/
  includes : List String := ["."]
  /-- Glob patterns and literal paths to leave out. -/
  ignores : List String := []
  analyzeGenerated : Bool := false
  levels : Levels := .empty
  deriving DecidableEq

inductive SettingsError where
  | invalidIgnore (pattern : String) (error : Glob.Error)
  | unknownRule (id : String)
  deriving DecidableEq

def SettingsError.message : SettingsError → String
  | .invalidIgnore pattern error =>
    "Invalid glob pattern in 'ignores': \"" ++ pattern ++ "\": " ++ error.message
  | .unknownRule id => "Unknown rule in 'rules': \"" ++ id ++ "\""

namespace Settings

/-- A pattern among the ignored paths has to compile. -/
def validateIgnore (entry : String) : Except SettingsError Unit :=
  if Glob.isPattern entry then
    match Glob.compile entry with
    | .ok _ => .ok ()
    | .error error => .error (.invalidIgnore entry error)
  else .ok ()

def validateId (id : String) : Except SettingsError Unit :=
  match Rule.ofId? id with
  | some _ => .ok ()
  | none => .error (.unknownRule id)

/-- The first fault among the ignored paths, or else among the rule ids. -/
def validate (settings : Settings) : Except SettingsError Unit := do
  settings.ignores.forM validateIgnore
  settings.levels.entries.forM fun (id, _) => validateId id

end Settings

namespace AnalysisOptions

def disable (options : AnalysisOptions) (rule : Rule) : AnalysisOptions :=
  { options with enabled := fun other => other ≠ rule && options.enabled other }

def override (options : AnalysisOptions) (rule : Rule) (severity : Severity) : AnalysisOptions :=
  { options with
    severity? := fun other => if other = rule then some severity else options.severity? other }

/-- Run only the selected rules; an empty selection changes nothing. -/
def restrict (options : AnalysisOptions) (selected : List Rule) : AnalysisOptions :=
  if selected.isEmpty then options
  else { options with enabled := fun rule => options.enabled rule && selected.contains rule }

/-- Apply a configured level; an id that names no rule has no effect. -/
def applyLevel (options : AnalysisOptions) (id : String) (level : Level) : AnalysisOptions :=
  match Rule.ofId? id with
  | none => options
  | some rule =>
    match level.severity? with
    | some severity => options.override rule severity
    | none => options.disable rule

end AnalysisOptions

/-- The options for an analysis under these settings, with only the selected
rules if any are.  Levels are applied in ascending order of their ids. -/
def Settings.options (settings : Settings) (selected : List Rule) : AnalysisOptions :=
  let start := { AnalysisOptions.default with analyzeGenerated := settings.analyzeGenerated }
  settings.levels.entries.foldl (fun options (id, level) => options.applyLevel id level)
    (start.restrict selected)

end InterfaceLint
