import InterfaceLint.Wire.Symbol
import InterfaceLint.Document

/-!
# Documents in exported files
-/

set_option autoImplicit false

namespace InterfaceLint

open Json

def Call.decoder : Decoder Call :=
  Record.decoder {
    name := "CallExpression"
    blank := { target := none, location := { file := "", line := 0, col := 0 } }
    fields := [
      .defaulted "target" (.optional .text) fun record value => { record with target := value },
      .defaulted "typeArguments" (.list .text) fun record value =>
        { record with typeArguments := value },
      .defaulted "enclosingMethod" (.optional .text) fun record value =>
        { record with enclosingMethod := value },
      .mandatory "location" Location.decoder fun record value => { record with location := value },
      .defaulted "generated" .flag fun record value => { record with generated := value }] }

def Document.decoder : Decoder Document :=
  Record.decoder {
    name := "ModelDocument"
    blank := {}
    fields := [
      .defaulted "assembly" (.optional .text) fun record value => { record with assembly := value },
      .defaulted "symbols" (.list Symbol.decoder) fun record value =>
        { record with symbols := value },
      .defaulted "calls" (.list Call.decoder) fun record value => { record with calls := value }] }

def Call.toValue (call : Call) : Value :=
  .object [("target", .ofText? call.target), ("typeArguments", .ofTexts call.typeArguments),
    ("enclosingMethod", .ofText? call.enclosingMethod), ("location", call.location.toValue),
    ("generated", .bool call.generated)]

def Document.toValue (document : Document) : Value :=
  .object [("assembly", .ofText? document.assembly),
    ("symbols", .list (document.symbols.map Symbol.toValue)),
    ("calls", .list (document.calls.map Call.toValue))]

def Document.parse (text : String) : Except ReadError Document := Document.decoder.parse text

end InterfaceLint
