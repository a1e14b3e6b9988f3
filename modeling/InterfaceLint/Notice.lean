import InterfaceLint.Disk
import InterfaceLint.Glob
import InterfaceLint.Report.Text

/-!
# Notices

What a run tells about its own progress, apart from the findings.
-/

set_option autoImplicit false

namespace InterfaceLint

def settingsFileName : String := ".icgrc.json"

inductive Notice where
  | invalidIgnore (pattern : String) (error : Glob.Error)
  | missingInclude (path : String)
  | inaccessible (path : String) (fault : DiskFault)
  | noSettingsFile
  /-- The number of paths passed over, and whether each was told before. -/
  | skipped (count : Nat) (detailed : Bool)
  | found (count : Nat) (root : String)
  | loadFailed (path error : String)
  | checked (path : String) (assembly : Option String) (symbols calls findings : Nat)
  deriving DecidableEq

namespace Notice

/-- Whether the notice is a warning; any other is a note. -/
def isWarning : Notice → Bool
  | .noSettingsFile | .found .. | .checked .. => false
  | _ => true

def text : Notice → String
  | .invalidIgnore pattern error => "Invalid ignore pattern '" ++ pattern ++ "': " ++ error.message
  | .missingInclude path => "Include path does not exist: " ++ path
  | .inaccessible path fault =>
    "Cannot access path: IO error for operation on " ++ path ++ ": " ++ fault.message
  | .noSettingsFile => "No " ++ settingsFileName ++ " found, using default configuration"
  | .skipped count detailed =>
    toString count ++ " path(s) skipped due to access errors" ++
      (if detailed then "" else " (use -v for details)")
  | .found count root => "Found " ++ toString count ++ " model file(s) under " ++ root
  | .loadFailed path error => "Failed to load " ++ path ++ ": " ++ error
  | .checked path assembly symbols calls findings =>
    let name := match assembly with
      | some assembly => path ++ " (" ++ assembly ++ ")"
      | none => path
    "Checked " ++ name ++ ": " ++ toString symbols ++ " symbol(s), " ++ toString calls ++
      " call(s), " ++ toString findings ++ " issue(s)"

def markup (notice : Notice) : Markup :=
  [if notice.isWarning then Report.warningLabel else Report.noteLabel,
    .plain (" " ++ notice.text), Markup.lineEnd]

end Notice

end InterfaceLint
