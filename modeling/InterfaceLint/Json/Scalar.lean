import InterfaceLint.Json.Cursor

/-!
# Scalars: words, strings and numbers

The first character of a scalar tells its kind; the readers here start after
it, except for the digits of a number.
-/

set_option autoImplicit false

namespace InterfaceLint.Json

/-! ## Words -/

def readLetters : List Char → Reader Unit
  | [] => pure ()
  | letter :: letters => do
    match ← Reader.peek with
    | none => Reader.fail .endOfValue
    | some c =>
      if c = letter then
        Reader.advance
        readLetters letters
      else Reader.failAhead .expectedWord

/-! ## Strings -/

def hexValue? (c : Char) : Option Nat :=
  if '0' ≤ c && c ≤ '9' then some (c.toNat - '0'.toNat)
  else if 'a' ≤ c && c ≤ 'f' then some (c.toNat - 'a'.toNat + 10)
  else if 'A' ≤ c && c ≤ 'F' then some (c.toNat - 'A'.toNat + 10)
  else none

def hexCode? (first second third fourth : Char) : Option Nat := do
  let first ← hexValue? first
  let second ← hexValue? second
  let third ← hexValue? third
  let fourth ← hexValue? fourth
  return ((first * 16 + second) * 16 + third) * 16 + fourth

def escaped? (c : Char) : Option Char :=
  if c = '"' then some '"'
  else if c = '\\' then some '\\'
  else if c = '/' then some '/'
  else if c = 'b' then some '\x08'
  else if c = 'f' then some '\x0c'
  else if c = 'n' then some '\n'
  else if c = 'r' then some '\r'
  else if c = 't' then some '\t'
  else none

def isLeadingSurrogate (code : Nat) : Bool := 0xD800 ≤ code && code ≤ 0xDBFF

def isTrailingSurrogate (code : Nat) : Bool := 0xDC00 ≤ code && code ≤ 0xDFFF

def pairedChar (leading trailing : Nat) : Char :=
  Char.ofNat (0x10000 + (leading - 0xD800) * 0x400 + (trailing - 0xDC00))

/-- The error for a text that does not start with four hexadecimal digits: it
is placed after four bytes, or at the end of a shorter text. -/
def hexError (text : List Char) (position : Position) : ReadError :=
  let size := (text.take 4).foldl (fun size c => size + c.utf8Size) 0
  ⟨if size < 4 then .endOfString else .invalidEscape, some (position.afterBytes 4 text)⟩

/-- The error for a text that does not continue a surrogate pair with a
backslash, a `u` and four hexadecimal digits. -/
def pairError : List Char → Position → ReadError
  | [], position => ⟨.endOfString, some position⟩
  | '\\' :: [], position => ⟨.endOfString, some (position.after '\\')⟩
  | '\\' :: 'u' :: rest, position => hexError rest ((position.after '\\').after 'u')
  | '\\' :: c :: _, position => ⟨.brokenSurrogatePair, some ((position.after '\\').afterByte c)⟩
  | c :: _, position => ⟨.brokenSurrogatePair, some (position.afterByte c)⟩

/-- The position after an escape of the given length in ASCII characters. -/
def Position.plus (position : Position) (columns : Nat) : Position :=
  ⟨position.line, position.column + columns⟩

/-- Read the characters of a string up to the closing quote.  `taken` holds
those read so far, last first. -/
def scanString (taken : List Char) :
    List Char → Position → EStateM.Result ReadError Cursor String
  | [], position => .error ⟨.endOfString, some position⟩ ⟨[], position⟩
  | c :: rest, position =>
    if c = '"' then .ok (String.ofList taken.reverse) ⟨rest, position.after c⟩
    else if c = '\\' then
      match rest with
      | [] => .error ⟨.endOfString, some (position.after c)⟩ ⟨[], position.after c⟩
      | 'u' :: first :: second :: third :: fourth :: rest =>
        match hexCode? first second third fourth with
        | none =>
          let error := hexError (first :: second :: third :: fourth :: rest) (position.plus 2)
          .error error ⟨rest, position⟩
        | some code =>
          if isTrailingSurrogate code then
            .error ⟨.loneSurrogate, some (position.plus 6)⟩ ⟨rest, position.plus 6⟩
          else if isLeadingSurrogate code then
            match rest with
            | '\\' :: 'u' :: fifth :: sixth :: seventh :: eighth :: rest =>
              match hexCode? fifth sixth seventh eighth with
              | none =>
                let digits := fifth :: sixth :: seventh :: eighth :: rest
                .error (hexError digits (position.plus 8)) ⟨rest, position⟩
              | some trailing =>
                if isTrailingSurrogate trailing then
                  scanString (pairedChar code trailing :: taken) rest (position.plus 12)
                else .error ⟨.loneSurrogate, some (position.plus 12)⟩ ⟨rest, position.plus 12⟩
            | rest => .error (pairError rest (position.plus 6)) ⟨rest, position.plus 6⟩
          else scanString (Char.ofNat code :: taken) rest (position.plus 6)
      | 'u' :: rest => .error (hexError rest (position.plus 2)) ⟨rest, position.plus 2⟩
      | letter :: rest =>
        match escaped? letter with
        | some plain => scanString (plain :: taken) rest (position.plus 2)
        | none =>
          .error ⟨.invalidEscape, some ((position.after c).afterByte letter)⟩ ⟨rest, position⟩
    else if c < ' ' then
      .error ⟨.controlCharacter, some (position.after c)⟩ ⟨rest, position.after c⟩
    else scanString (c :: taken) rest (position.after c)

def readString : Reader String := fun cursor => scanString [] cursor.rest cursor.position

/-! ## Numbers -/

def readDigits : Reader (List Nat) := fun cursor =>
  let digits := cursor.rest.takeWhile isDigit
  .ok (digits.map fun c => c.toNat - '0'.toNat)
    ⟨cursor.rest.dropWhile isDigit, cursor.position.plus digits.length⟩

def greatestNatural : Nat := Nat.pow 2 64 - 1

def greatestExponent : Nat := Nat.pow 2 31 - 1

/-- Append digits to a number as long as it stays at most `limit`; the digits
from the first that does not fit are left. -/
def appendDigits (limit : Nat) (number : Nat) : List Nat → Nat × List Nat
  | [] => (number, [])
  | digit :: digits =>
    if number * 10 + digit ≤ limit then appendDigits limit (number * 10 + digit) digits
    else (number, digit :: digits)

def realNumber (negative : Bool) (significand : Nat) (power : Int) : Reader Number :=
  match Decimal.Magnitude.ofDecimal? significand power with
  | some magnitude => pure (.real ⟨negative, magnitude⟩)
  | none => Reader.fail .numberOutOfRange

/-- Read an exponent from its mark on.  An exponent that is too large gives
zero when it is negative or the significand is zero. -/
def readExponent (negative : Bool) (significand : Nat) (power : Int) : Reader Number := do
  Reader.advance
  let sign ← Reader.peek
  if sign = some '+' || sign = some '-' then Reader.advance
  match ← Reader.peek with
  | none => Reader.fail .endOfValue
  | some c =>
    if isDigit c then
      let start := (← get).position
      let digits ← readDigits
      let (exponent, excess) := appendDigits greatestExponent 0 digits
      if excess.isEmpty then
        realNumber negative significand
          (if sign = some '-' then power - exponent else power + exponent)
      else if significand ≠ 0 ∧ sign ≠ some '-' then
        throw ⟨.numberOutOfRange, some (start.plus (digits.length - excess.length + 1))⟩
      else pure (.real ⟨negative, .zero⟩)
    else Reader.failAhead .invalidNumber

/-- Read a fraction from its point on.  Digits beyond the range of the
significand are dropped. -/
def readFraction (negative : Bool) (significand : Nat) (power : Int) : Reader Number := do
  Reader.advance
  let digits ← readDigits
  if digits.isEmpty then
    match ← Reader.peek with
    | none => Reader.failAhead .endOfValue
    | some _ => Reader.failAhead .invalidNumber
  else
    let (significand, excess) := appendDigits greatestNatural significand digits
    let power := power - (digits.length - excess.length : Nat)
    match ← Reader.peek with
    | some 'e' | some 'E' => readExponent negative significand power
    | _ => realNumber negative significand power

/-- A number without fraction and exponent: an integer if it fits 64 bits. -/
def wholeNumber (negative : Bool) (significand : Nat) : Reader Number :=
  if negative then
    if 0 < significand ∧ significand ≤ Nat.pow 2 63 then pure (.negative (-(significand : Int)))
    else realNumber true significand 0
  else pure (.natural (UInt64.ofNat significand))

def readAfterDigits (negative : Bool) (digits : List Nat) : Reader Number := do
  let (significand, excess) := appendDigits greatestNatural 0 digits
  let power : Int := excess.length
  match ← Reader.peek with
  | some '.' => readFraction negative significand power
  | some 'e' | some 'E' => readExponent negative significand power
  | _ =>
    if excess.isEmpty then wholeNumber negative significand
    else realNumber negative significand power

def readNumber (negative : Bool) : Reader Number := do
  match ← Reader.peek with
  | none => Reader.fail .endOfValue
  | some c =>
    if c = '0' then
      Reader.advance
      match ← Reader.peek with
      | some next =>
        if isDigit next then Reader.failAhead .invalidNumber else readAfterDigits negative [0]
      | none => readAfterDigits negative [0]
    else if isDigit c then readAfterDigits negative (← readDigits)
    else Reader.failAhead .invalidNumber

end InterfaceLint.Json
