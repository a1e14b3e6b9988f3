import InterfaceLint.Path

/-!
# Files on disk

A disk is a flat table of places, each the list of names from the root down
to a directory or a file, together with the working directory.  A path text
is resolved name by name, so `..` and trailing separators need directories
that exist.  Names and path texts have a largest size.  A directory that is
removed while it is the working directory stays in use as an empty one, and
`..` still leads out of it.  Symbolic and hard links are left out: each place
has its own entry, and a place without one holds nothing.
-/

set_option autoImplicit false

namespace InterfaceLint

-- Derived instances compare contents this way whatever else is imported.
local instance contentDecidableEq : DecidableEq ByteArray := ByteArray.instDecidableEq

inductive Entry where
  | directory
  | file (content : ByteArray)
  deriving DecidableEq

structure Position where
  /-- The names from the root down. -/
  names : List String
  /-- How many of the last names are of directories that were removed. -/
  removed : Nat := 0
  deriving DecidableEq

namespace Position

def parent (position : Position) : Position := ⟨position.names.dropLast, position.removed - 1⟩

def isRemoved (position : Position) : Bool := position.removed ≠ 0

def present (position : Position) : List String :=
  position.names.take (position.names.length - position.removed)

def cutAt (position : Position) (count : Nat) : Position :=
  { position with removed := position.names.length - count }

end Position

structure Disk where
  entries : List (List String × Entry)
  cwd : Position
  deriving DecidableEq

inductive DiskFault where
  | notFound
  | notDirectory
  | isDirectory
  | notText
  | nulInName
  | nameTooLong
  deriving DecidableEq

def DiskFault.message : DiskFault → String
  | .notFound => "No such file or directory (os error 2)"
  | .notDirectory => "Not a directory (os error 20)"
  | .isDirectory => "Is a directory (os error 21)"
  | .notText => "stream did not contain valid UTF-8"
  | .nulInName => "file name contained an unexpected NUL byte"
  | .nameTooLong => "File name too long (os error 36)"

namespace Disk

def maxNameSize : Nat := 255

def maxPathSize : Nat := 4095

/-- What is at a place; the root is always a directory. -/
def entry? (disk : Disk) (place : List String) : Option Entry :=
  if place.isEmpty then some .directory else disk.entries.lookup place

/-- What is at a position; a removed directory is still a directory. -/
def entryAt? (disk : Disk) (position : Position) : Option Entry :=
  if position.isRemoved then some .directory else disk.entry? position.names

def enter (disk : Disk) (position : Position) (name : String) : Except DiskFault Position :=
  if position.isRemoved then .error .notFound
  else if name.utf8ByteSize > maxNameSize then .error .nameTooLong
  else if (disk.entry? (position.names ++ [name])).isSome then .ok ⟨position.names ++ [name], 0⟩
  else .error .notFound

def follow (disk : Disk) : List (List Char) → Position → Except DiskFault Position
  | [], position => .ok position
  | segment :: segments, position =>
    match disk.entryAt? position with
    | none => .error .notFound
    | some (.file _) => .error .notDirectory
    | some .directory =>
      if Path.isBlank segment then follow disk segments position
      else if segment = ['.', '.'] then follow disk segments position.parent
      else
        match disk.enter position (String.ofList segment) with
        | .error fault => .error fault
        | .ok next => follow disk segments next

def origin (disk : Disk) (path : String) : List (List Char) × Position :=
  match path.toList with
  | '/' :: rest => (Path.segments rest, ⟨[], 0⟩)
  | text => (Path.segments text, disk.cwd)

/-- Why a path text cannot be used, whatever is on the disk. -/
def pathFault? (path : String) : Option DiskFault :=
  if path.isEmpty then some .notFound
  else if path.toList.contains '\x00' then some .nulInName
  else if path.utf8ByteSize > maxPathSize then some .nameTooLong
  else none

def resolve (disk : Disk) (path : String) : Except DiskFault Position :=
  match pathFault? path with
  | some fault => .error fault
  | none =>
    let (segments, start) := disk.origin path
    disk.follow segments start

def find (disk : Disk) (path : String) : Except DiskFault Entry := do
  match disk.entryAt? (← disk.resolve path) with
  | some entry => .ok entry
  | none => .error .notFound

def contains (disk : Disk) (path : String) : Bool :=
  match disk.resolve path with
  | .ok _ => true
  | .error _ => false

def isFile (disk : Disk) (path : String) : Bool :=
  match disk.find path with
  | .ok (.file _) => true
  | _ => false

def read (disk : Disk) (path : String) : Except DiskFault ByteArray := do
  match ← disk.find path with
  | .directory => .error .isDirectory
  | .file content => .ok content

def readText (disk : Disk) (path : String) : Except DiskFault String := do
  match String.fromUTF8? (← disk.read path) with
  | some text => .ok text
  | none => .error .notText

def below (disk : Disk) (position : Position) : List (List String × Entry) :=
  if position.isRemoved then []
  else
    (disk.entries.filter fun (names, _) =>
      position.names.isPrefixOf names && names != position.names).map fun (names, entry) =>
      (names.drop position.names.length, entry)

/-- The path text that names below a root lead to. -/
def textBelow (root : String) (names : List String) : String := names.foldl Path.join root

/-- What a walk from a root meets at an entry.  A directory whose path text is
too long cannot be opened, so that nothing below it is met, and a file whose
path text is too long is passed over. -/
def meet? (root : String) (names : List String) (entry : Entry) :
    Option (String × Except DiskFault Entry) :=
  let text := textBelow root names
  if (textBelow root names.dropLast).utf8ByteSize > maxPathSize then none
  else if text.utf8ByteSize ≤ maxPathSize then some (text, .ok entry)
  else
    match entry with
    | .directory => some (text, .error .nameTooLong)
    | .file _ => none

/-- Everything at and below a path, each with its path text. -/
def walk (disk : Disk) (root : String) : List (String × Except DiskFault Entry) :=
  match disk.resolve root with
  | .error fault => [(root, .error fault)]
  | .ok position =>
    (root, disk.find root) ::
      (disk.below position).filterMap fun (names, entry) => meet? root names entry

/-! ## Changes -/

def put (disk : Disk) (place : List String) (entry : Entry) : Disk :=
  let others := disk.entries.filter fun (names, _) => names != place
  { disk with entries := others ++ [(place, entry)] }

/-- Put a file into a directory under the name that a segment gives. -/
def putFile (disk : Disk) (directory : Position) (segment : List Char) (content : ByteArray) :
    Except DiskFault Disk :=
  let name := String.ofList segment
  let names := directory.names ++ [name]
  if Path.isBlank segment || segment = ['.', '.'] then .error .isDirectory
  else if directory.isRemoved then .error .notFound
  else if name.utf8ByteSize > maxNameSize then .error .nameTooLong
  else
    match disk.entry? names with
    | some .directory => .error .isDirectory
    | _ => .ok (disk.put names (.file content))

def writeText (disk : Disk) (path text : String) : Except DiskFault Disk := do
  if let some fault := pathFault? path then throw fault
  let (segments, start) := disk.origin path
  let directory ← disk.follow (segments.dropLast ++ [[]]) start
  disk.putFile directory (segments.getLastD []) text.toUTF8

def makeWay (disk : Disk) : List (List Char) → Position → Except DiskFault (Disk × Position)
  | [], position => .ok (disk, position)
  | segment :: segments, position =>
    if Path.isBlank segment then makeWay disk segments position
    else if segment = ['.', '.'] then makeWay disk segments position.parent
    else
      match disk.enter position (String.ofList segment) with
      | .ok next =>
        match disk.entryAt? next with
        | some (.file _) => .error .notDirectory
        | _ => makeWay disk segments next
      | .error .notFound =>
        let next : Position := ⟨position.names ++ [String.ofList segment], 0⟩
        if position.isRemoved then .error .notFound
        else makeWay (disk.put next.names .directory) segments next
      | .error fault => .error fault

/-- Make a directory and those on the way to it; the empty path asks for none. -/
def makeDirectory (disk : Disk) (path : String) : Except DiskFault Disk := do
  if path.isEmpty then return disk
  if let some fault := pathFault? path then throw fault
  let (segments, start) := disk.origin path
  return (← disk.makeWay segments start).1

def makeFile (disk : Disk) (path : String) (content : ByteArray) : Except DiskFault Disk := do
  if let some fault := pathFault? path then throw fault
  let (segments, start) := disk.origin path
  let (made, directory) ← disk.makeWay segments.dropLast start
  made.putFile directory (segments.getLastD []) content

def enterDirectory? (disk : Disk) (path : String) : Option Disk :=
  match disk.resolve path, disk.find path with
  | .ok position, .ok .directory => some { disk with cwd := position }
  | _, _ => none

def removeTree (disk : Disk) (place : List String) : Disk where
  entries := disk.entries.filter fun (names, _) => !place.isPrefixOf names
  cwd := if place.isPrefixOf disk.cwd.present then disk.cwd.cutAt (place.length - 1) else disk.cwd

def removeBelow (disk : Disk) (place : List String) : Disk where
  entries := disk.entries.filter fun (names, _) => !(place.isPrefixOf names && names != place)
  cwd :=
    if place.isPrefixOf disk.cwd.present then disk.cwd.cutAt place.length else disk.cwd

/-- Whether a path text ends with the name of an entry, not with `.` or `..`. -/
def namesEntry (path : String) : Bool :=
  match ((Path.segments path.toList).filter fun segment => !segment.isEmpty).getLast? with
  | some last => last ≠ ['.'] && last ≠ ['.', '.']
  | none => false

/-- Remove what a path leads to with everything below it, and tell whether it
is gone.  A directory that the path does not name is emptied but stays. -/
def remove (disk : Disk) (path : String) : Disk × Bool :=
  match disk.resolve path with
  | .error _ => (disk, false)
  | .ok position =>
    if position.isRemoved then (disk, false)
    else if namesEntry path then (disk.removeTree position.names, true)
    else (disk.removeBelow position.names, false)

end Disk

end InterfaceLint
