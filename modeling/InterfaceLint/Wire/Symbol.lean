import InterfaceLint.Json.Record
import InterfaceLint.Symbol

/-!
# Symbols in exported files

Each type has a decoder and an encoder.  The encoder leaves out an absent
source line and the empty attribute list of a type; the decoder fills in the
defaults.
-/

set_option autoImplicit false

namespace InterfaceLint

open Json

/-! ## Decoders -/

def Location.decoder : Decoder Location :=
  Record.decoder {
    name := "Location"
    blank := { file := "", line := 0, col := 0 }
    fields := [
      .mandatory "file" .text fun record value => { record with file := value },
      .mandatory "line" .count fun record value => { record with line := value },
      .mandatory "col" .count fun record value => { record with col := value },
      .defaulted "sourceLine" (.optional .text) fun record value =>
        { record with sourceLine := value }] }

def TypeKind.decoder : Decoder TypeKind := .choice fun name => .ok (TypeKind.ofCode name)

def Attribute.decoder : Decoder Attribute :=
  Record.decoder {
    name := "AttributeData"
    blank := { className := none }
    fields := [
      .defaulted "class" (.optional .text) fun record value => { record with className := value }] }

def TypeParameter.decoder : Decoder TypeParameter :=
  Record.decoder {
    name := "TypeParameter"
    blank := { name := "" }
    fields := [
      .mandatory "name" .text fun record value => { record with name := value },
      .defaulted "constraints" (.list .text) fun record value =>
        { record with constraints := value }] }

def TypeSymbol.decoder : Decoder TypeSymbol :=
  Record.decoder {
    name := "TypeSymbol"
    blank := { name := "" }
    fields := [
      .mandatory "name" .text fun record value => { record with name := value },
      .defaulted "typeKind" TypeKind.decoder fun record value => { record with kind := value },
      .defaulted "attributes" (.list Attribute.decoder) fun record value =>
        { record with attributes := value }] }

def Method.decoder : Decoder Method :=
  Record.decoder {
    name := "MethodSymbol"
    blank := { id := "", name := "" }
    fields := [
      .mandatory "id" .text fun record value => { record with id := value },
      .mandatory "name" .text fun record value => { record with name := value },
      .defaulted "typeParameters" (.list TypeParameter.decoder) fun record value =>
        { record with typeParameters := value },
      .defaulted "attributes" (.list Attribute.decoder) fun record value =>
        { record with attributes := value },
      .defaulted "locations" (.list Location.decoder) fun record value =>
        { record with locations := value },
      .defaulted "generated" .flag fun record value => { record with generated := value }] }

def Symbol.decoder : Decoder Symbol :=
  Tagged.decoder {
    name := "Symbol"
    tag := "kind"
    variants := [
      ("method", fun value => Symbol.method <$> Method.decoder.ofValue value),
      ("type", fun value => Symbol.type <$> TypeSymbol.decoder.ofValue value)] }

/-! ## Encoders -/

namespace Json.Value

def ofCount (value : UInt64) : Value := .number (.natural value)

def ofText? : Option String → Value
  | some value => .text value
  | none => .null

def ofTexts (texts : List String) : Value := .list (texts.map .text)

end Json.Value

def Location.toValue (location : Location) : Value :=
  .object ([("file", .text location.file), ("line", .ofCount location.line),
    ("col", .ofCount location.col)] ++
    match location.sourceLine with
    | some text => [("sourceLine", .text text)]
    | none => [])

def Attribute.toValue (applied : Attribute) : Value :=
  .object [("class", .ofText? applied.className)]

def TypeParameter.toValue (parameter : TypeParameter) : Value :=
  .object [("name", .text parameter.name), ("constraints", .ofTexts parameter.constraints)]

def TypeKind.toValue (kind : TypeKind) : Value := .text kind.code

/-- The members of a type, without the tag that tells it from a method. -/
def TypeSymbol.members (type : TypeSymbol) : List (String × Value) :=
  [("name", .text type.name), ("typeKind", type.kind.toValue)] ++
    if type.attributes.isEmpty then []
    else [("attributes", .list (type.attributes.map Attribute.toValue))]

/-- The members of a method, without the tag that tells it from a type. -/
def Method.members (method : Method) : List (String × Value) :=
  [("id", .text method.id), ("name", .text method.name),
    ("typeParameters", .list (method.typeParameters.map TypeParameter.toValue)),
    ("attributes", .list (method.attributes.map Attribute.toValue)),
    ("locations", .list (method.locations.map Location.toValue)),
    ("generated", .bool method.generated)]

def TypeSymbol.toValue (type : TypeSymbol) : Value := .object type.members

def Method.toValue (method : Method) : Value := .object method.members

def Symbol.toValue : Symbol → Value
  | .method declared => .object (("kind", .text "method") :: declared.members)
  | .type resolved => .object (("kind", .text "type") :: resolved.members)

end InterfaceLint
