import InterfaceLint.Notice

/-!
# Finding model files

Each include names a directory, which is searched at any depth for files with
the model suffix, or a single file, which is taken whatever its name and
whatever is ignored.  An ignore entry with a wildcard is a pattern for the
whole path text; any other entry is a path below the base and covers all that
is under it.  Nothing is pruned: every file is judged by its own path.
-/

set_option autoImplicit false

namespace InterfaceLint

def modelSuffix : String := ".icg.json"

def isModelName (path : String) : Bool :=
  match (Path.components path).getLast? with
  | some (.name text) => modelSuffix.toList.isSuffixOf text.toList
  | _ => false

structure Ignores where
  patterns : List Glob.Pattern
  paths : List String

namespace Ignores

/-- Sort ignore entries into patterns and paths; a pattern that does not
compile is dropped. -/
def ofEntries (base : String) (entries : List String) : Ignores where
  patterns := (entries.filter Glob.isPattern).filterMap fun entry => (Glob.compile entry).toOption
  paths := (entries.filter fun entry => !Glob.isPattern entry).map (Path.join base)

def notices (entries : List String) : List Notice :=
  (entries.filter Glob.isPattern).filterMap fun entry =>
    match Glob.compile entry with
    | .ok _ => none
    | .error error => some (.invalidIgnore entry error)

def covers (ignores : Ignores) (path : String) : Bool :=
  ignores.paths.any (Path.startsWith path) ||
    ignores.patterns.any fun pattern => pattern.matches path

end Ignores

/-- Put a path in its place in an ascending list, once. -/
def insertPath (path : String) : List String → List String
  | [] => [path]
  | known :: paths =>
    if path < known then path :: known :: paths
    else if path = known then known :: paths
    else known :: insertPath path paths

/-- Model files in ascending order, each path once, and what went wrong. -/
structure ScanResult where
  files : List String
  skipped : Nat
  notices : List Notice

namespace Scan

def includePath (base entry : String) : String := if entry = "." then base else Path.join base entry

/-- The paths to search; the base itself when there are no includes. -/
def roots (disk : Disk) (base : String) (includes : List String) : List String :=
  if includes.isEmpty then [base]
  else (includes.map (includePath base)).filter disk.contains

def missing (disk : Disk) (base : String) (includes : List String) : List Notice :=
  ((includes.map (includePath base)).filter fun path => !disk.contains path).map .missingInclude

def modelFiles (ignores : Ignores) (met : List (String × Except DiskFault Entry)) : List String :=
  met.filterMap fun (path, entry) =>
    match entry with
    | .ok (.file _) => if isModelName path && !ignores.covers path then some path else none
    | _ => none

def faults (met : List (String × Except DiskFault Entry)) : List Notice :=
  met.filterMap fun (path, entry) =>
    match entry with
    | .ok _ => none
    | .error fault => some (.inaccessible path fault)

def filesAt (disk : Disk) (ignores : Ignores) (root : String) : List String :=
  if disk.isFile root then [root] else modelFiles ignores (disk.walk root)

def faultsAt (disk : Disk) (root : String) : List Notice :=
  if disk.isFile root then [] else faults (disk.walk root)

end Scan

def scan (disk : Disk) (base : String) (includes ignores : List String) : ScanResult :=
  let ignored := Ignores.ofEntries base ignores
  let roots := Scan.roots disk base includes
  let faults := roots.flatMap (Scan.faultsAt disk)
  { files := (roots.flatMap (Scan.filesAt disk ignored)).foldr insertPath []
    skipped := faults.length
    notices := Ignores.notices ignores ++ Scan.missing disk base includes ++ faults }

end InterfaceLint
