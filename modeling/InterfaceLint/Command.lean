import InterfaceLint.Report.Json
import InterfaceLint.Setup

/-!
# Commands

A command turns the files on disk into new files and a transcript: what is
written to the two output channels and the exit status.
-/

set_option autoImplicit false

namespace InterfaceLint

inductive Command where
  | overview
  | check (request : CheckRequest)
  | rules
  /-- Write the default settings into the working directory. -/
  | init
  deriving DecidableEq

structure Transcript where
  stdout : Markup := []
  stderr : Markup := []
  status : ExitStatus := .success
  deriving DecidableEq

def overviewText : String := "\n".intercalate [
  "A fast checker for interface-constrained generic method calls over a compiler's exported " ++
    "semantic model",
  "",
  "Usage: icg [COMMAND]",
  "",
  "Commands:",
  "  check  Check semantic models for misuse of interface-constrained generic methods",
  "  rules  List supported diagnostics",
  "  init   Initialize a new .icgrc.json configuration file",
  "  help   Print this message or the help of the given subcommand(s)",
  "",
  "Options:",
  "  -h, --help     Print help",
  "  -V, --version  Print version",
  ""]

def RunError.transcript (error : RunError) : Transcript :=
  { stderr := [.plain ("Error: " ++ error.message), Markup.lineEnd], status := .error }

def CheckResult.report (result : CheckResult) : OutputFormat → Markup
  | .json => [.plain (Report.json result.findings)]
  | .text =>
    Report.text result.findings ++
      if result.findings.isEmpty then Report.success result.modelCount else []

def CheckResult.transcript (result : CheckResult) (request : CheckRequest)
    (notices : List Notice) : Transcript :=
  { stdout := result.report request.format
    stderr := notices.flatMap Notice.markup ++
      Report.unreadableWarning result.unreadableCount request.verbose
    status := result.exitStatus }

def SetupResult.transcript (result : SetupResult) : Transcript :=
  match result with
  | .created =>
    { stdout := [.coloured .green "✓", .plain " ",
        .coloured .green ("Created " ++ settingsFileName), Markup.lineEnd]
      status := result.exitStatus }
  | .alreadyThere =>
    { stderr := [.plain ("Error: " ++ settingsFileName ++ " already exists"), Markup.lineEnd]
      status := result.exitStatus }

def runCheck (disk : Disk) (request : CheckRequest) : Transcript :=
  match check disk request with
  | .ok (result, notices) => result.transcript request notices
  | .error error => error.transcript

def runSetup (disk : Disk) : Disk × Transcript :=
  match setup disk "." with
  | .ok (changed, result) => (changed, result.transcript)
  | .error error => (disk, error.transcript)

/-- Whether the report of a command can be laid out. -/
def Command.fits (disk : Disk) : Command → Bool
  | .check request =>
    match InterfaceLint.check disk request with
    | .ok (result, _) => request.format = .json || result.findings.all Report.fits
    | .error _ => true
  | .overview | .rules | .init => true

/-- Carry out a command.  Only setting up changes the disk. -/
def Command.run (disk : Disk) : Command → Disk × Transcript
  | .overview => (disk, { stdout := [.plain overviewText] })
  | .check request => (disk, runCheck disk request)
  | .rules => (disk, { stdout := Report.rulesTable })
  | .init => runSetup disk

end InterfaceLint
