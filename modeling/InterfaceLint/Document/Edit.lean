import InterfaceLint.Document

/-!
# Documents under construction

A document can be built up by small changes.  A change names the symbol or
call it is about by position and does not apply where there is none, or where
the symbol is of the wrong kind.
-/

set_option autoImplicit false

namespace InterfaceLint

inductive Edit where
  | addType (name : String) (kind : TypeKind)
  | addMethod (id name : String)
  | addAttribute (position : Nat) (applied : Attribute)
  | addTypeParameter (position : Nat) (parameter : TypeParameter)
  | addLocation (position : Nat) (location : Location)
  | setMethodGenerated (position : Nat) (generated : Bool)
  | addCall (target : String) (location : Location)
  | addTypeArgument (position : Nat) (name : String)
  | setEnclosingMethod (position : Nat) (id : String)
  | setCallGenerated (position : Nat) (generated : Bool)
  | removeSymbol (position : Nat)
  | removeCall (position : Nat)

namespace Document

def updateSymbol (document : Document) (position : Nat) (change : Symbol → Option Symbol) :
    Option Document := do
  let symbol ← document.symbols[position]?
  let changed ← change symbol
  return { document with symbols := document.symbols.set position changed }

def updateMethod (document : Document) (position : Nat) (change : Method → Method) :
    Option Document :=
  document.updateSymbol position fun symbol =>
    symbol.method?.map fun method => .method (change method)

def updateCall (document : Document) (position : Nat) (change : Call → Call) : Option Document := do
  let call ← document.calls[position]?
  return { document with calls := document.calls.set position (change call) }

def withAttribute (applied : Attribute) : Symbol → Symbol
  | .method declared => .method { declared with attributes := declared.attributes ++ [applied] }
  | .type resolved => .type { resolved with attributes := resolved.attributes ++ [applied] }

def edited? (document : Document) : Edit → Option Document
  | .addType name kind =>
    some { document with symbols := document.symbols ++ [.type { name, kind }] }
  | .addMethod id name =>
    some { document with symbols := document.symbols ++ [.method { id, name }] }
  | .addAttribute position applied =>
    document.updateSymbol position fun symbol => some (withAttribute applied symbol)
  | .addTypeParameter position parameter =>
    document.updateMethod position fun method =>
      { method with typeParameters := method.typeParameters ++ [parameter] }
  | .addLocation position location =>
    document.updateMethod position fun method =>
      { method with locations := method.locations ++ [location] }
  | .setMethodGenerated position generated =>
    document.updateMethod position fun method => { method with generated }
  | .addCall target location =>
    some { document with calls := document.calls ++ [{ target := some target, location }] }
  | .addTypeArgument position name =>
    document.updateCall position fun call =>
      { call with typeArguments := call.typeArguments ++ [name] }
  | .setEnclosingMethod position id =>
    document.updateCall position fun call => { call with enclosingMethod := some id }
  | .setCallGenerated position generated =>
    document.updateCall position fun call => { call with generated }
  | .removeSymbol position =>
    if position < document.symbols.length then
      some { document with symbols := document.symbols.eraseIdx position }
    else none
  | .removeCall position =>
    if position < document.calls.length then
      some { document with calls := document.calls.eraseIdx position }
    else none

end Document

end InterfaceLint
