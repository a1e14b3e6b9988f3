import InterfaceLint.Json.Value
import InterfaceLint.Text.Quoted

/-!
# What can go wrong while reading JSON

A fault is a cause; its position is known only once the reader reaches a point
that reports positions, so an error carries it separately.
-/

set_option autoImplicit false

namespace InterfaceLint.Json

/-- Line and column, the column counted in bytes from the last line break. -/
structure Position where
  line : Nat
  column : Nat
  deriving DecidableEq

inductive Found where
  | null
  | bool (value : Bool)
  | number (value : Number)
  | text (value : String)
  | list
  | object
  deriving DecidableEq

namespace Found

def ofValue : Value → Found
  | .null => .null
  | .bool value => .bool value
  | .number value => .number value
  | .text value => .text value
  | .list _ => .list
  | .object _ => .object

def describe : Found → String
  | .null => "null"
  | .bool value => if value then "boolean `true`" else "boolean `false`"
  | .number (.real value) => "floating point `" ++ value.render realLayout ++ "`"
  | .number value => "integer `" ++ value.render ++ "`"
  | .text value => "string " ++ Text.quote value
  | .list => "sequence"
  | .object => "map"

end Found

inductive Fault where
  | endOfValue
  | endOfString
  | endOfList
  | endOfObject
  | expectedColon
  | expectedListSeparator
  | expectedObjectSeparator
  | expectedWord
  | expectedValue
  | invalidEscape
  | invalidNumber
  | numberOutOfRange
  | loneSurrogate
  | brokenSurrogatePair
  | controlCharacter
  | keyNotString
  | trailingComma
  | trailingCharacters
  | tooDeep
  | wrongType (found : Found) (expected : String)
  | wrongValue (found : Found) (expected : String)
  | wrongLength (length : Nat) (expected : String)
  | missingField (name : String)
  | repeatedField (name : String)
  | unknownVariant (name : String) (variants : List String)
  deriving DecidableEq

def oneOf (names : List String) : String :=
  let ticked := names.map fun name => "`" ++ name ++ "`"
  match ticked with
  | [] => "there are no variants"
  | [only] => "expected " ++ only
  | [first, second] => "expected " ++ first ++ " or " ++ second
  | many => "expected one of " ++ ", ".intercalate many

def Fault.message : Fault → String
  | .endOfValue => "EOF while parsing a value"
  | .endOfString => "EOF while parsing a string"
  | .endOfList => "EOF while parsing a list"
  | .endOfObject => "EOF while parsing an object"
  | .expectedColon => "expected `:`"
  | .expectedListSeparator => "expected `,` or `]`"
  | .expectedObjectSeparator => "expected `,` or `\x7d`"
  | .expectedWord => "expected ident"
  | .expectedValue => "expected value"
  | .invalidEscape => "invalid escape"
  | .invalidNumber => "invalid number"
  | .numberOutOfRange => "number out of range"
  | .loneSurrogate => "lone leading surrogate in hex escape"
  | .brokenSurrogatePair => "unexpected end of hex escape"
  | .controlCharacter => "control character (\\u0000-\\u001F) found while parsing a string"
  | .keyNotString => "key must be a string"
  | .trailingComma => "trailing comma"
  | .trailingCharacters => "trailing characters"
  | .tooDeep => "recursion limit exceeded"
  | .wrongType found expected => "invalid type: " ++ found.describe ++ ", expected " ++ expected
  | .wrongValue found expected => "invalid value: " ++ found.describe ++ ", expected " ++ expected
  | .wrongLength length expected =>
    "invalid length " ++ toString length ++ ", expected " ++ expected
  | .missingField name => "missing field `" ++ name ++ "`"
  | .repeatedField name => "duplicate field `" ++ name ++ "`"
  | .unknownVariant name variants => "unknown variant `" ++ name ++ "`, " ++ oneOf variants

/-- A fault with the position it was reported at, if it has one. -/
structure ReadError where
  fault : Fault
  position : Option Position
  deriving DecidableEq

def ReadError.message (error : ReadError) : String :=
  match error.position with
  | none => error.fault.message
  | some position =>
    error.fault.message ++ " at line " ++ toString position.line ++ " column " ++
      toString position.column

end InterfaceLint.Json
