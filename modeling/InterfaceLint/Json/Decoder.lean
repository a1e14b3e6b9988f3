import InterfaceLint.Json.Skip

/-!
# Decoders

A decoder reads one type from two sources: straight from the text, where
faults are placed as they arise, and from a value that was read before, where
they have no position.  Records are read from objects by field name or from
lists by field order.
-/

set_option autoImplicit false

namespace InterfaceLint.Json

structure Decoder (α : Type) where
  read : Bounds → Reader α
  ofValue : Value → Except Fault α

namespace Decoder

variable {α : Type}

/-- Read a whole text; only blanks may follow the value. -/
def parse (decoder : Decoder α) (text : String) : Except ReadError α :=
  let whole : Reader α := do
    let value ← decoder.read (Bounds.ofText text)
    match ← Reader.peekToken with
    | none => pure value
    | some _ => Reader.failAhead .trailingCharacters
  match whole (Cursor.ofText text) with
  | .ok value _ => .ok value
  | .error error _ => .error error

def start : Reader Char := do
  match ← Reader.peekToken with
  | some c => pure c
  | none => Reader.failAhead .endOfValue

def wrongType {β : Type} (value : Value) (expected : String) : Except Fault β :=
  .error (.wrongType (Found.ofValue value) expected)

/-! ## Scalars -/

/-- A string, reported as `expected` where something else stands. -/
def textAs (expected : String) : Decoder String where
  read _ := do
    if (← start) = '"' then
      Reader.advance
      readString
    else mismatch expected
  ofValue
    | .text value => .ok value
    | other => wrongType other expected

def text : Decoder String := textAs "a string"

def flag : Decoder Bool where
  read _ := do
    let c ← start
    if c = 't' then
      Reader.advance
      readLetters ['r', 'u', 'e']
      pure true
    else if c = 'f' then
      Reader.advance
      readLetters ['a', 'l', 's', 'e']
      pure false
    else mismatch "a boolean"
  ofValue
    | .bool value => .ok value
    | other => wrongType other "a boolean"

def countOf (number : Number) : Except Fault UInt64 :=
  match number with
  | .natural value => .ok value
  | .negative value => .error (.wrongValue (.number (.negative value)) "usize")
  | .real value => .error (.wrongType (.number (.real value)) "usize")

/-- A natural number below `2 ^ 64`. -/
def count : Decoder UInt64 where
  read _ := do
    let c ← start
    if c = '-' then
      Reader.advance
      let number ← readNumber true
      Reader.located (Reader.ofExcept (countOf number))
    else if isDigit c then
      let number ← readNumber false
      Reader.located (Reader.ofExcept (countOf number))
    else mismatch "usize"
  ofValue
    | .number number => countOf number
    | other => wrongType other "usize"

/-! ## Options, lists and maps -/

def optional (inner : Decoder α) : Decoder (Option α) where
  read bounds := do
    match ← Reader.peekToken with
    | some 'n' =>
      Reader.advance
      readLetters ['u', 'l', 'l']
      pure none
    | _ => some <$> inner.read bounds
  ofValue
    | .null => .ok none
    | other => some <$> inner.ofValue other

def list (inner : Decoder α) : Decoder (List α) where
  read bounds := do
    if (← start) = '[' then
      Reader.nested bounds
        (fun bounds => Reader.elements (inner.read bounds) bounds.steps true [])
        Reader.endList
    else mismatch "a sequence"
  ofValue
    | .list items => items.mapM inner.ofValue
    | other => wrongType other "a sequence"

def map (inner : Decoder α) : Decoder (List (String × α)) where
  read bounds := do
    if (← start) = '\x7b' then
      Reader.nested bounds
        (fun bounds => Reader.members (inner.read bounds) bounds.steps true [])
        Reader.endObject
    else mismatch "a map"
  ofValue
    | .object members => members.mapM fun (key, value) => (key, ·) <$> inner.ofValue value
    | other => wrongType other "a map"

def mapResult {β : Type} (convert : α → β) (inner : Decoder α) : Decoder β where
  read bounds := convert <$> inner.read bounds
  ofValue value := convert <$> inner.ofValue value

/-! ## Names out of a fixed set -/

def endChoice : Reader Unit := do
  match ← Reader.peekToken with
  | some '\x7d' => Reader.advance
  | some _ => Reader.fail .expectedValue
  | none => Reader.fail .endOfObject

def choiceKey : Reader String := do
  match ← Reader.peekToken with
  | none => Reader.failAhead .endOfObject
  | some '\x7d' => Reader.failAhead .expectedValue
  | some '"' =>
    Reader.advance
    readString
  | some _ => Reader.failAhead .keyNotString

/-- A name, written as a string or as the only key of an object whose member
is null. -/
def choice (ofName : String → Except Fault α) : Decoder α where
  read bounds := do
    match ← Reader.peekToken with
    | none => Reader.failAhead .endOfValue
    | some '"' =>
      Reader.advance
      let name ← readString
      Reader.located (Reader.ofExcept (ofName name))
    | some '\x7b' =>
      match bounds.levels with
      | 0 => Reader.failAhead .tooDeep
      | _ + 1 =>
        Reader.advance
        let name ← choiceKey
        let value ← Reader.located (Reader.ofExcept (ofName name))
        Reader.colon
        if (← start) = 'n' then
          Reader.advance
          readLetters ['u', 'l', 'l']
        else mismatch "unit"
        endChoice
        pure value
    | some _ => Reader.failAhead .expectedValue
  ofValue
    | .text name => ofName name
    | .object [(name, content)] => do
      let value ← ofName name
      match content with
      | .null | .object [] => pure value
      | other => wrongType other "unit"
    | .object _ => .error (.wrongValue .object "map with a single key")
    | other => wrongType other "string or map"

end Decoder

end InterfaceLint.Json
