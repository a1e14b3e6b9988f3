/-!
# Path texts

Paths are texts with `/` between segments.  Joining and taking parents work
on the text and normalize nothing; comparison works on components, which leave
out empty segments and inner `.` segments but keep a leading `.` and every
`..`.
-/

set_option autoImplicit false

namespace InterfaceLint.Path

def segments : List Char → List (List Char)
  | [] => [[]]
  | c :: text =>
    match segments text with
    | [] => [[c]]
    | first :: others => if c = '/' then [] :: first :: others else (c :: first) :: others

/-- What a path starts with: the root, a leading `.` segment, or neither. -/
inductive Lead where
  | none
  | root
  | current
  deriving DecidableEq

structure Split where
  lead : Lead
  body : List (List Char)
  deriving DecidableEq

def split (path : String) : Split :=
  match path.toList with
  | '/' :: rest => ⟨.root, segments rest⟩
  | ['.'] => ⟨.current, [[]]⟩
  | '.' :: '/' :: rest => ⟨.current, [] :: segments rest⟩
  | text => ⟨.none, segments text⟩

/-- Segments that are no component of their own. -/
def isBlank (segment : List Char) : Bool := segment.isEmpty || segment == ['.']

def joinSegments (body : List (List Char)) : List Char := List.intercalate ['/'] body

def trimLeft (body : List (List Char)) : List (List Char) := body.dropWhile isBlank

def trimRight (body : List (List Char)) : List (List Char) :=
  (body.reverse.dropWhile isBlank).reverse

namespace Split

def render (path : Split) : String :=
  match path.lead with
  | .root => String.ofList ('/' :: joinSegments path.body)
  | .current => String.ofList ('.' :: joinSegments path.body)
  | .none => String.ofList (joinSegments path.body)

end Split

/-! ## Components -/

inductive Component where
  | root
  | current
  | parent
  | name (text : String)
  deriving DecidableEq

def Lead.components : Lead → List Component
  | .none => []
  | .root => [.root]
  | .current => [.current]

def bodyComponents (body : List (List Char)) : List Component :=
  (body.filter fun segment => !isBlank segment).map fun segment =>
    if segment = ['.', '.'] then .parent else .name (String.ofList segment)

def components (path : String) : List Component :=
  let parts := split path
  parts.lead.components ++ bodyComponents parts.body

def startsWith (path base : String) : Bool := (components base).isPrefixOf (components path)

/-! ## Operations on the text -/

def isAbsolute (path : String) : Bool := path.toList.head? = some '/'

/-- `rest` below `base`; an absolute path stands for itself. -/
def join (base rest : String) : String :=
  if isAbsolute rest then rest
  else if base.isEmpty || base.toList.getLast? = some '/' then base ++ rest
  else base ++ "/" ++ rest

/-- The path without its last component; nothing for the root and for the
empty path. -/
def parent? (path : String) : Option String :=
  let parts := split path
  let body := trimRight parts.body
  if body.isEmpty then
    match parts.lead with
    | .current => some ""
    | _ => none
  else some (Split.render ⟨parts.lead, trimRight body.dropLast⟩)

/-- Drop the first `count` components and the blank segments between them. -/
def dropComponents : Nat → List (List Char) → List (List Char)
  | 0, body => body
  | _ + 1, [] => []
  | count + 1, segment :: body =>
    if isBlank segment then dropComponents (count + 1) body else dropComponents count body

/-- The text of `path` after the components of `base`, if it starts with them. -/
def strip? (path base : String) : Option String :=
  let parts := split path
  let known := components base
  if known.isPrefixOf (components path) then
    if known.isEmpty then some (Split.render { parts with body := trimRight parts.body })
    else
      let count := known.length - parts.lead.components.length
      let rest := trimRight (trimLeft (dropComponents count parts.body))
      some (String.ofList (joinSegments rest))
  else none

def ancestorsWithin : Nat → String → List String
  | 0, path => [path]
  | limit + 1, path =>
    match parent? path with
    | some parent => path :: ancestorsWithin limit parent
    | none => [path]

/-- The path itself and all its parents; each parent is shorter, so the length
of the text bounds their number. -/
def ancestors (path : String) : List String := ancestorsWithin path.length path

end InterfaceLint.Path
