import InterfaceLint.Json.Fault

/-!
# Reading position in a text

A reader consumes characters from the front of a cursor.  Columns are counted
in bytes, so an error inside a multi-byte character is placed by bytes too.
-/

set_option autoImplicit false

namespace InterfaceLint.Json

namespace Position

def start : Position := ⟨1, 0⟩

def after (position : Position) (c : Char) : Position :=
  if c = '\n' then ⟨position.line + 1, 0⟩ else ⟨position.line, position.column + c.utf8Size⟩

def afterByte (position : Position) (c : Char) : Position :=
  if c = '\n' then ⟨position.line + 1, 0⟩ else ⟨position.line, position.column + 1⟩

/-- The position after `count` bytes of a text, or at its end if it is shorter. -/
def afterBytes (position : Position) : Nat → List Char → Position
  | _, [] => position
  | count, c :: rest =>
    if count < c.utf8Size then ⟨position.line, position.column + count⟩
    else afterBytes (position.after c) (count - c.utf8Size) rest

end Position

structure Cursor where
  rest : List Char
  position : Position
  deriving DecidableEq

/-- A reader consumes text and gives a value or an error; after an error the
cursor still tells how far it came. -/
abbrev Reader (α : Type) : Type := EStateM ReadError Cursor α

def isBlank (c : Char) : Bool := c == ' ' || c == '\n' || c == '\t' || c == '\r'

def isDigit (c : Char) : Bool := '0' ≤ c && c ≤ '9'

namespace Cursor

def ofText (text : String) : Cursor := ⟨text.toList, .start⟩

def skipBlanks : List Char → Position → Cursor
  | [], position => ⟨[], position⟩
  | c :: rest, position =>
    if isBlank c then skipBlanks rest (position.after c) else ⟨c :: rest, position⟩

def ahead (cursor : Cursor) : Position :=
  match cursor.rest with
  | [] => cursor.position
  | c :: _ => cursor.position.afterByte c

end Cursor

namespace Reader

variable {α : Type}

def fail (fault : Fault) : Reader α := fun cursor =>
  .error ⟨fault, some cursor.position⟩ cursor

def failAhead (fault : Fault) : Reader α := fun cursor =>
  .error ⟨fault, some cursor.ahead⟩ cursor

def raise (fault : Fault) : Reader α := fun cursor => .error ⟨fault, none⟩ cursor

/-- Give an error that has no position the one reached. -/
def located (reader : Reader α) : Reader α := fun cursor =>
  match reader cursor with
  | .ok value rest => .ok value rest
  | .error error rest => .error ⟨error.fault, error.position.or (some rest.position)⟩ rest

/-- Run `close` after `reader` whether or not it failed; the first error counts. -/
def closing (reader : Reader α) (close : Reader Unit) : Reader α := fun cursor =>
  match reader cursor with
  | .ok value rest =>
    match close rest with
    | .ok _ rest => .ok value rest
    | .error error rest => .error error rest
  | .error error rest =>
    match close rest with
    | .ok _ rest => .error error rest
    | .error _ rest => .error error rest

def ofExcept (result : Except Fault α) : Reader α :=
  match result with
  | .ok value => pure value
  | .error fault => raise fault

def peek : Reader (Option Char) := fun cursor => .ok cursor.rest.head? cursor

def advance : Reader Unit := fun cursor =>
  match cursor.rest with
  | [] => .ok () cursor
  | c :: rest => .ok () ⟨rest, cursor.position.after c⟩

def blanks : Reader Unit := fun cursor => .ok () (Cursor.skipBlanks cursor.rest cursor.position)

def peekToken : Reader (Option Char) := do
  blanks
  peek

end Reader

end InterfaceLint.Json
