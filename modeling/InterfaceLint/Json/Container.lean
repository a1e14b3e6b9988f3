import InterfaceLint.Json.Scalar

/-!
# Lists and objects

The separators between the elements of a list and the members of an object,
and what has to follow the last of them.  Elements are read by a reader given
as an argument; a loop makes at most as many steps as the text has characters.
-/

set_option autoImplicit false

namespace InterfaceLint.Json

/-- How deep containers may still nest and how many steps a loop may make. -/
structure Bounds where
  levels : Nat
  steps : Nat

/-- Containers nest 127 deep. -/
def Bounds.ofText (text : String) : Bounds := ⟨127, text.length + 1⟩

namespace Reader

variable {α : Type}

def nextElement (first : Bool) : Reader Bool := do
  match ← peekToken with
  | none => failAhead .endOfList
  | some ']' => pure false
  | some c =>
    if first then pure true
    else if c = ',' then
      advance
      match ← peekToken with
      | none => failAhead .endOfValue
      | some ']' => failAhead .trailingComma
      | some _ => pure true
    else failAhead .expectedListSeparator

def keyHere : Reader (Option String) := do
  match ← peek with
  | some '"' =>
    advance
    some <$> readString
  | _ => failAhead .keyNotString

def nextKey (first : Bool) : Reader (Option String) := do
  match ← peekToken with
  | none => failAhead .endOfObject
  | some '\x7d' => pure none
  | some c =>
    if first then keyHere
    else if c = ',' then
      advance
      match ← peekToken with
      | none => failAhead .endOfValue
      | some '\x7d' => failAhead .trailingComma
      | some _ => keyHere
    else failAhead .expectedObjectSeparator

def colon : Reader Unit := do
  match ← peekToken with
  | none => failAhead .endOfObject
  | some ':' => advance
  | some _ => failAhead .expectedColon

def endList : Reader Unit := do
  match ← peekToken with
  | none => failAhead .endOfList
  | some ']' => advance
  | some ',' =>
    advance
    match ← peekToken with
    | some ']' => failAhead .trailingComma
    | _ => failAhead .trailingCharacters
  | some _ => failAhead .trailingCharacters

def endObject : Reader Unit := do
  match ← peekToken with
  | none => failAhead .endOfObject
  | some '\x7d' => advance
  | some ',' => failAhead .trailingComma
  | some _ => failAhead .trailingCharacters

/-- Read a container at its opening bracket: the bracket, the content, and
the end even where the content failed, so that a fault without a position is
placed after it. -/
def enclosed (content : Reader α) (close : Reader Unit) : Reader α := do
  advance
  located (closing content close)

/-- A container one level further down, if that is not too deep. -/
def nested (bounds : Bounds) (content : Bounds → Reader α) (close : Reader Unit) : Reader α :=
  match bounds.levels with
  | 0 => failAhead .tooDeep
  | levels + 1 => enclosed (content { bounds with levels }) close

/-- Read the remaining elements of a list; `taken` holds those read so far,
last first. -/
def elements (readOne : Reader α) : Nat → Bool → List α → Reader (List α)
  | 0, _, _ => fail .endOfList
  | steps + 1, first, taken => do
    if ← nextElement first then
      let value ← readOne
      elements readOne steps false (value :: taken)
    else pure taken.reverse

def members (readOne : Reader α) : Nat → Bool → List (String × α) → Reader (List (String × α))
  | 0, _, _ => fail .endOfObject
  | steps + 1, first, taken => do
    match ← nextKey first with
    | some key =>
      colon
      let value ← readOne
      members readOne steps false ((key, value) :: taken)
    | none => pure taken.reverse

end Reader

/-! ## Any value -/

def readScalarOr (onList onObject : Reader Value) : Reader Value := do
  match ← Reader.peekToken with
  | none => Reader.failAhead .endOfValue
  | some c =>
    if c = 'n' then
      Reader.advance
      readLetters ['u', 'l', 'l']
      pure .null
    else if c = 't' then
      Reader.advance
      readLetters ['r', 'u', 'e']
      pure (.bool true)
    else if c = 'f' then
      Reader.advance
      readLetters ['a', 'l', 's', 'e']
      pure (.bool false)
    else if c = '-' then
      Reader.advance
      Value.number <$> readNumber true
    else if isDigit c then Value.number <$> readNumber false
    else if c = '"' then
      Reader.advance
      Value.text <$> readString
    else if c = '[' then onList
    else if c = '\x7b' then onObject
    else Reader.failAhead .expectedValue

def readValue (steps : Nat) : Nat → Reader Value
  | 0 => readScalarOr (Reader.failAhead .tooDeep) (Reader.failAhead .tooDeep)
  | levels + 1 =>
    readScalarOr
      (Reader.enclosed (Value.list <$> Reader.elements (readValue steps levels) steps true [])
        Reader.endList)
      (Reader.enclosed (Value.object <$> Reader.members (readValue steps levels) steps true [])
        Reader.endObject)

/-- Report the value at hand as being of the wrong kind.  A scalar is read in
full first, so its own errors come before this one. -/
def mismatch {α : Type} (expected : String) : Reader α := Reader.located do
  let here (found : Found) : Reader Value := Reader.raise (.wrongType found expected)
  let value ← readScalarOr (here .list) (here .object)
  Reader.raise (.wrongType (Found.ofValue value) expected)

end InterfaceLint.Json
