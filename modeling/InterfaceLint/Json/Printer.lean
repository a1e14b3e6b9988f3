import InterfaceLint.Json.Value
import InterfaceLint.Text.Quoted

/-!
# Printing JSON

Values are printed over several lines, each level indented by two blanks.
Empty lists and objects take no line of their own.
-/

set_option autoImplicit false

namespace InterfaceLint.Json

def printChar (c : Char) : String :=
  if c = '"' then "\\\""
  else if c = '\\' then "\\\\"
  else if c = '\x08' then "\\b"
  else if c = '\x0c' then "\\f"
  else if c = '\n' then "\\n"
  else if c = '\r' then "\\r"
  else if c = '\t' then "\\t"
  else if c < ' ' then
    "\\u00" ++ String.ofList [Text.hexDigit (c.toNat / 16), Text.hexDigit c.toNat]
  else c.toString

def printString (text : String) : String :=
  "\"" ++ String.join (text.toList.map printChar) ++ "\""

def newline (level : Nat) : String := "\n" ++ String.ofList (List.replicate (2 * level) ' ')

mutual

def Value.print (level : Nat) : Value → String
  | .null => "null"
  | .bool value => if value then "true" else "false"
  | .number value => value.render
  | .text value => printString value
  | .list [] => "[]"
  | .list (item :: items) =>
    "[" ++ newline (level + 1) ++ item.print (level + 1) ++ printItems (level + 1) items ++
      newline level ++ "]"
  | .object [] => "\x7b\x7d"
  | .object ((key, value) :: members) =>
    "\x7b" ++ newline (level + 1) ++ printString key ++ ": " ++ value.print (level + 1) ++
      printMembers (level + 1) members ++ newline level ++ "\x7d"

def printItems (level : Nat) : List Value → String
  | [] => ""
  | item :: items => "," ++ newline level ++ item.print level ++ printItems level items

def printMembers (level : Nat) : List (String × Value) → String
  | [] => ""
  | (key, value) :: members =>
    "," ++ newline level ++ printString key ++ ": " ++ value.print level ++
      printMembers level members

end

/-- A value over several lines, without a line break at the end. -/
def Value.pretty (value : Value) : String := value.print 0

end InterfaceLint.Json
