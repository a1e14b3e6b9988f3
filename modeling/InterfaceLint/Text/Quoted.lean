import InterfaceLint.Text.Unprintable

/-!
# Quoted text

Text is shown between double quotes.  Quotes, backslashes and the usual line
controls get a backslash, and a character without a visible form of its own
is shown by its code point.
-/

set_option autoImplicit false

namespace InterfaceLint.Text

def hexDigit (value : Nat) : Char :=
  "0123456789abcdef".toList.getD (value % 16) '0'

def hexText (value : Nat) : String := String.ofList (Nat.toDigits 16 value)

def quoteChar (c : Char) : String :=
  if c = '\x00' then "\\0"
  else if c = '\t' then "\\t"
  else if c = '\r' then "\\r"
  else if c = '\n' then "\\n"
  else if c = '\\' then "\\\\"
  else if c = '"' then "\\\""
  else if ' ' ≤ c ∧ c ≤ '~' then c.toString
  else if unprintable.has c then "\\u\x7b" ++ hexText c.toNat ++ "\x7d"
  else c.toString

def quote (text : String) : String :=
  "\"" ++ String.join (text.toList.map quoteChar) ++ "\""

end InterfaceLint.Text
