import InterfaceLint.Text.Quoted

/-!
# Words that may not be text

A command line word is a sequence of bytes.  It is read as characters where
the bytes are well formed; a run of bytes that starts a character and breaks
off is kept as it is.
-/

set_option autoImplicit false

namespace InterfaceLint.Text

/-- One character of a word, or the bytes of one that is malformed. -/
inductive Glyph where
  | char (c : Char)
  | stray (bytes : List UInt8)
  deriving DecidableEq

namespace Glyph

def char? : Glyph → Option Char
  | .char c => some c
  | .stray _ => none

def shown : Glyph → Char
  | .char c => c
  | .stray _ => Char.ofNat 0xFFFD

def quoteByte (byte : UInt8) : String :=
  let digits := "0123456789ABCDEF".toList
  "\\x" ++ String.ofList [digits.getD (byte.toNat / 16) '0', digits.getD (byte.toNat % 16) '0']

def quoted : Glyph → String
  | .char c => quoteChar c
  | .stray bytes => String.join (bytes.map quoteByte)

end Glyph

abbrev Word := List Glyph

namespace Word

/-- How many bytes a character with this first byte has; zero for a byte that
starts none. -/
def charLength (lead : UInt8) : Nat :=
  if lead < 0x80 then 1
  else if 0xC2 ≤ lead && lead ≤ 0xDF then 2
  else if 0xE0 ≤ lead && lead ≤ 0xEF then 3
  else if 0xF0 ≤ lead && lead ≤ 0xF4 then 4
  else 0

/-- Whether a byte continues a character; the second byte also rules out
overlong forms, surrogates and code points that are too large. -/
def continues (lead : UInt8) (isSecond : Bool) (byte : UInt8) : Bool :=
  let low : UInt8 :=
    if isSecond && lead == 0xE0 then 0xA0
    else if isSecond && lead == 0xF0 then 0x90
    else 0x80
  let high : UInt8 :=
    if isSecond && lead == 0xED then 0x9F
    else if isSecond && lead == 0xF4 then 0x8F
    else 0xBF
  low ≤ byte && byte ≤ high

def assemble (lead : UInt8) (tail : List UInt8) : Glyph :=
  let bits := match tail.length with
    | 0 => lead.toNat
    | 1 => lead.toNat % 32
    | 2 => lead.toNat % 16
    | _ => lead.toNat % 8
  .char (Char.ofNat (tail.foldl (fun code byte => code * 64 + byte.toNat % 64) bits))

/-- Take a byte as the first of a character: what it completes, and what it
leaves open. -/
def opening (byte : UInt8) : Word × List UInt8 :=
  match charLength byte with
  | 0 => ([.stray [byte]], [])
  | 1 => ([assemble byte []], [])
  | _ => ([], [byte])

def feed (opened : List UInt8) (byte : UInt8) : Word × List UInt8 :=
  match opened with
  | [] => opening byte
  | lead :: tail =>
    if continues lead tail.isEmpty byte then
      if tail.length + 2 = charLength lead then ([assemble lead (tail ++ [byte])], [])
      else ([], lead :: tail ++ [byte])
    else
      let (completed, next) := opening byte
      (.stray opened :: completed, next)

def decode : List UInt8 → List UInt8 → Word
  | [], [] => []
  | opened, [] => [.stray opened]
  | opened, byte :: rest =>
    let (completed, next) := feed opened byte
    completed ++ decode next rest

def ofBytes (bytes : List UInt8) : Word := decode [] bytes

def ofString (text : String) : Word := text.toList.map Glyph.char

def text? (word : Word) : Option String := (word.mapM Glyph.char?).map String.ofList

/-- The word as text, each malformed run replaced by one replacement mark. -/
def lossy (word : Word) : String := String.ofList (word.map Glyph.shown)

def quoted (word : Word) : String := "\"" ++ String.join (word.map Glyph.quoted) ++ "\""

end Word

end InterfaceLint.Text
