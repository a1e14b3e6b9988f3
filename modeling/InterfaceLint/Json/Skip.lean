import InterfaceLint.Json.Container

/-!
# Passing over a value

A value nobody asks for is checked for its grammar only: no depth limit, no
number range and no surrogate check.  The open brackets are kept in a list,
innermost first.
-/

set_option autoImplicit false

namespace InterfaceLint.Json

inductive Bracket where
  | list
  | object
  deriving DecidableEq

def Bracket.endFault : Bracket → Fault
  | .list => .endOfList
  | .object => .endOfObject

def Bracket.separatorFault : Bracket → Fault
  | .list => .expectedListSeparator
  | .object => .expectedObjectSeparator

def Bracket.closes : Bracket → Char → Bool
  | .list, c => c == ']'
  | .object, c => c == '\x7d'

def passString : List Char → Position → EStateM.Result ReadError Cursor Unit
  | [], position => .error ⟨.endOfString, some position⟩ ⟨[], position⟩
  | c :: rest, position =>
    if c = '"' then .ok () ⟨rest, position.after c⟩
    else if c = '\\' then
      match rest with
      | [] => .error ⟨.endOfString, some (position.after c)⟩ ⟨[], position.after c⟩
      | 'u' :: first :: second :: third :: fourth :: rest =>
        match hexCode? first second third fourth with
        | none =>
          let error := hexError (first :: second :: third :: fourth :: rest) (position.plus 2)
          .error error ⟨rest, position⟩
        | some _ => passString rest (position.plus 6)
      | 'u' :: rest => .error (hexError rest (position.plus 2)) ⟨rest, position.plus 2⟩
      | letter :: rest =>
        match escaped? letter with
        | some _ => passString rest (position.plus 2)
        | none =>
          .error ⟨.invalidEscape, some ((position.after c).afterByte letter)⟩ ⟨rest, position⟩
    else if c < ' ' then .error ⟨.controlCharacter, some position⟩ ⟨c :: rest, position⟩
    else passString rest (position.after c)

def skipString : Reader Unit := fun cursor => passString cursor.rest cursor.position

def digitNext : Reader Bool := do
  match ← Reader.peek with
  | some c => pure (isDigit c)
  | none => pure false

def skipDigits : Reader Unit := do
  let _ ← readDigits
  pure ()

/-- At the end of the text this fails there, elsewhere after the next byte. -/
def skipExponent : Reader Unit := do
  Reader.advance
  match ← Reader.peek with
  | some '+' | some '-' => Reader.advance
  | _ => pure ()
  if ← digitNext then skipDigits else Reader.failAhead .invalidNumber

def skipExponentPart : Reader Unit := do
  match ← Reader.peek with
  | some 'e' | some 'E' => skipExponent
  | _ => pure ()

def skipFraction : Reader Unit := do
  Reader.advance
  if ← digitNext then
    skipDigits
    skipExponentPart
  else Reader.failAhead .invalidNumber

def skipNumber : Reader Unit := do
  match ← Reader.peek with
  | some '0' =>
    Reader.advance
    if ← digitNext then Reader.failAhead .invalidNumber
  | _ => if ← digitNext then skipDigits else Reader.failAhead .invalidNumber
  match ← Reader.peek with
  | some '.' => skipFraction
  | _ => skipExponentPart

def skipToken : Reader (Option Bracket) := do
  match ← Reader.peekToken with
  | none => Reader.failAhead .endOfValue
  | some c =>
    if c = '[' then
      Reader.advance
      pure (some .list)
    else if c = '\x7b' then
      Reader.advance
      pure (some .object)
    else
      if c = 'n' then
        Reader.advance
        readLetters ['u', 'l', 'l']
      else if c = 't' then
        Reader.advance
        readLetters ['r', 'u', 'e']
      else if c = 'f' then
        Reader.advance
        readLetters ['a', 'l', 's', 'e']
      else if c = '-' then
        Reader.advance
        skipNumber
      else if isDigit c then skipNumber
      else if c = '"' then
        Reader.advance
        skipString
      else Reader.failAhead .expectedValue
      pure none

def skipKey : Reader Unit := do
  match ← Reader.peekToken with
  | none => Reader.failAhead .endOfObject
  | some '"' =>
    Reader.advance
    skipString
    Reader.colon
  | some _ => Reader.failAhead .keyNotString

/-- Close the brackets that end here.  The result is the list of brackets
still open when another value follows, or nothing when all are closed;
`complete` says whether a value has just ended. -/
def closeBrackets : Bool → List Bracket → Reader (Option (List Bracket))
  | _, [] => pure none
  | complete, bracket :: opened => do
    match ← Reader.peekToken with
    | none => Reader.failAhead bracket.endFault
    | some c =>
      if bracket.closes c then
        Reader.advance
        closeBrackets true opened
      else if complete then
        if c = ',' then
          Reader.advance
          pure (some (bracket :: opened))
        else Reader.failAhead bracket.separatorFault
      else pure (some (bracket :: opened))

/-- Pass over one value inside the given open brackets, and over what follows
it until all of them are closed. -/
def skipWithin : Nat → List Bracket → Reader Unit
  | 0, _ => Reader.fail .endOfValue
  | steps + 1, opened => do
    let remaining ← match ← skipToken with
      | some bracket => closeBrackets false (bracket :: opened)
      | none => closeBrackets true opened
    match remaining with
    | none => pure ()
    | some opened =>
      if opened.head? = some .object then skipKey
      skipWithin steps opened

def skipValue (steps : Nat) : Reader Unit := skipWithin steps []

end InterfaceLint.Json
