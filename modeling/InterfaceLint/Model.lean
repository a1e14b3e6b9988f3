import InterfaceLint.Document
import Std.Data.HashMap

/-!
# Models

A model is a document together with an index that gives the position of each
symbol by its key.  Building one fails on a key that occurs twice.
-/

set_option autoImplicit false

namespace InterfaceLint

/-- Positions in a list of symbols, by key. -/
abbrev SymbolIndex := Std.HashMap String Nat

/-- A document and the index of its symbols. -/
structure Model where
  document : Document
  index : SymbolIndex

structure RepeatedKey where
  key : String
  deriving DecidableEq

def RepeatedKey.message (error : RepeatedKey) : String :=
  "Duplicate symbol id \"" ++ error.key ++ "\""

namespace SymbolIndex

/-- Enter symbols that stand from `position` on, or name the first whose key is
already there. -/
def insertAll (index : SymbolIndex) (position : Nat) : List Symbol → Except RepeatedKey SymbolIndex
  | [] => .ok index
  | symbol :: symbols =>
    if index.contains symbol.key then .error ⟨symbol.key⟩
    else insertAll (index.insert symbol.key position) (position + 1) symbols

end SymbolIndex

namespace Model

def ofDocument (document : Document) : Except RepeatedKey Model := do
  let index ← SymbolIndex.insertAll ∅ 0 document.symbols
  return { document, index }

def assembly (model : Model) : Option String := model.document.assembly

def calls (model : Model) : List Call := model.document.calls

def symbolCount (model : Model) : Nat := model.document.symbols.length

def symbol? (model : Model) (key : String) : Option Symbol :=
  model.index[key]?.bind fun position => model.document.symbols[position]?

def method? (model : Model) (id : String) : Option Method := (model.symbol? id).bind Symbol.method?

def type? (model : Model) (name : String) : Option TypeSymbol :=
  (model.symbol? name).bind Symbol.type?

def methods (model : Model) : List Method := model.document.symbols.filterMap Symbol.method?

/-- The method a call goes to, if it is resolved and exported. -/
def target? (model : Model) (call : Call) : Option Method := call.target.bind model.method?

def enclosing? (model : Model) (call : Call) : Option Method :=
  call.enclosingMethod.bind model.method?

end Model

end InterfaceLint
