import InterfaceLint.Invocation
import Std.Data.HashMap

/-!
# The program

What a command looks at is read from the files in place, the command is
carried out on that snapshot, and what it changed is written back.
-/

set_option autoImplicit false

namespace InterfaceLint.Program

abbrev Snapshot := Std.HashMap (List String) Entry

/-- The place a path text leads to when every directory on the way exists. -/
def placeOf (cwd : List String) (path : String) : List String :=
  (Path.segments path.toList).foldl
    (fun place segment =>
      if Path.isBlank segment then place
      else if segment = ['.', '.'] then place.dropLast
      else place ++ [String.ofList segment])
    (if Path.isAbsolute path then [] else cwd)

def beginnings (path : String) : List String :=
  let body := Path.segments path.toList
  (List.range (body.length + 1)).map fun count =>
    String.ofList (Path.joinSegments (body.take count))

/-- What is at a path; the content of a file only if it is asked for. -/
def entryAt (path : String) (withContent : Bool) : IO (Option Entry) := do
  let file := (← IO.currentDir) / path
  try
    match (← file.metadata).type with
    | .dir => return some .directory
    | _ =>
      let content ← if withContent then IO.FS.readBinFile file else pure .empty
      return some (.file content)
  catch _ => return none

def leadsToFile (path : String) : IO Bool := do
  let file := (← IO.currentDir) / path
  try return (← file.metadata).type == .file
  catch _ => return false

/-- Read what is at a path, with its content, and at each of its beginnings. -/
def observe (cwd : List String) (snapshot : Snapshot) (path : String) : IO Snapshot := do
  let way ← (beginnings path).foldlM (fun snapshot beginning => do
    match ← entryAt beginning false with
    | some entry => return snapshot.insertIfNew (placeOf cwd beginning) entry
    | none => return snapshot) snapshot
  match ← entryAt path true with
  | some entry => return way.insert (placeOf cwd path) entry
  | none => return way

/-- Read everything below a directory that was not read before, with the
content of model files.  A link is taken for the file it leads to; one that
leads elsewhere or nowhere is passed over. -/
partial def observeTree (cwd : List String) (snapshot : Snapshot) (path : String) :
    IO Snapshot := do
  let directory := (← IO.currentDir) / path
  unless ← directory.isDir do return snapshot
  (← directory.readDir).foldlM (fun snapshot found => do
    let below := Path.join path found.fileName
    let place := placeOf cwd below
    match (← found.path.symlinkMetadata).type with
    | .dir => observeTree cwd (snapshot.insertIfNew place .directory) below
    | _ =>
      unless ← leadsToFile below do return snapshot
      let content ← if isModelName below then IO.FS.readBinFile found.path else pure .empty
      return snapshot.insertIfNew place (.file content)) snapshot

def settingsPaths (root : String) : List String :=
  (Path.ancestors root).flatMap fun directory =>
    [Path.join directory settingsFileName, Path.join directory ".git"]

def diskOf (cwd : List String) (snapshot : Snapshot) : Disk := ⟨snapshot.toList, ⟨cwd, 0⟩⟩

/-- Read what a check looks at: the settings first, then what they include. -/
def observeCheck (cwd : List String) (snapshot : Snapshot) (request : CheckRequest) :
    IO Snapshot := do
  let .ok root := CheckContext.rootOf request | return snapshot
  let snapshot ← (settingsPaths root).foldlM (observe cwd) snapshot
  let .ok (configured, _) := Settings.load (diskOf cwd snapshot) root | return snapshot
  let settings := CheckContext.withPaths configured request.paths
  let roots := root :: settings.includes.map (Scan.includePath root)
  roots.foldlM (fun snapshot path => do observeTree cwd (← observe cwd snapshot path) path) snapshot

def observeCommand (cwd : List String) (command : Command) : IO Snapshot := do
  let start ← (beginnings ("/" ++ "/".intercalate cwd)).foldlM (observe []) ∅
  match command with
  | .check request => observeCheck cwd start request
  | .init => observe cwd start (Path.join "." settingsFileName)
  | .overview | .rules => return start

def writeChanges (before after : Disk) : IO Unit :=
  after.entries.forM fun (place, entry) => do
    match entry with
    | .file content =>
      if before.entry? place ≠ some entry then
        IO.FS.writeBinFile ("/" ++ "/".intercalate place) content
    | .directory => return

/-- Output is coloured on a terminal unless the environment asks for none. -/
def colouring : IO Bool := do
  return (← (← IO.getStdout).isTty) && (← IO.getEnv "NO_COLOR").isNone

def showTranscript (transcript : Transcript) : IO UInt32 := do
  let colour ← colouring
  IO.print (transcript.stdout.render colour)
  IO.eprint (transcript.stderr.render colour)
  return transcript.status.code

def showRefusal (refusal : Refusal) : IO UInt32 := do
  match refusal with
  | .displayHelp => IO.print overviewText
  | .displayVersion => IO.println "icg 0.1.0"
  | _ => IO.eprintln ("error: " ++ refusal.name)
  return refusal.exitStatus.code

def runCommand (command : Command) : IO UInt32 := do
  let cwd := placeOf [] (← IO.currentDir).toString
  let disk := diskOf cwd (← observeCommand cwd command)
  let (changed, transcript) := command.run disk
  writeChanges disk changed
  showTranscript transcript

end InterfaceLint.Program

open InterfaceLint in
def main (arguments : List String) : IO UInt32 := do
  let environment := (← IO.getEnv "ICG_ROOT").map Text.Word.ofString
  match Invocation.parse environment (arguments.map Text.Word.ofString) with
  | .ok command => Program.runCommand command
  | .error refusal => Program.showRefusal refusal
