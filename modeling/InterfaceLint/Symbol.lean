import InterfaceLint.Location

/-!
# Symbols of a compilation

A compiler exports the methods and types it resolved.  A method is known by
an identifier the compiler assigns, a type by its full name; both kinds of key
live in one key space.
-/

set_option autoImplicit false

namespace InterfaceLint

/-! ## Kinds of types -/

/-- Classification of a resolved type; `unknownType` stands for every kind that is
not listed. -/
inductive TypeKind where
  | classType
  | structType
  | interfaceType
  | enumType
  | delegateType
  | typeParameter
  | arrayType
  | pointerType
  | dynamicType
  | errorType
  | unknownType
  deriving DecidableEq

namespace TypeKind

def isInterface (kind : TypeKind) : Bool := kind = .interfaceType

def code : TypeKind → String
  | .classType => "class"
  | .structType => "struct"
  | .interfaceType => "interface"
  | .enumType => "enum"
  | .delegateType => "delegate"
  | .typeParameter => "typeParameter"
  | .arrayType => "array"
  | .pointerType => "pointer"
  | .dynamicType => "dynamic"
  | .errorType => "error"
  | .unknownType => "unknown"

def label : TypeKind → String
  | .typeParameter => "type parameter"
  | .errorType => "error type"
  | .unknownType => "unknown type"
  | kind => kind.code

def all : List TypeKind :=
  [.classType, .structType, .interfaceType, .enumType, .delegateType, .typeParameter,
    .arrayType, .pointerType, .dynamicType, .errorType, .unknownType]

/-- The kind with the given spelling, `unknownType` for any other text. -/
def ofCode (text : String) : TypeKind :=
  (all.find? fun kind => kind.code = text).getD .unknownType

def withArticle (kind : TypeKind) : String :=
  let vowel := match kind.label.toList with
    | c :: _ => "aeiou".toList.contains c
    | [] => false
  (if vowel then "an " else "a ") ++ kind.label

end TypeKind

/-! ## Declarations -/

/-- An attribute on a declaration, by the full name of its class; without one
when the compiler could not bind it. -/
structure Attribute where
  className : Option String
  deriving DecidableEq

structure TypeParameter where
  name : String
  constraints : List String := []
  deriving DecidableEq

structure TypeSymbol where
  name : String
  kind : TypeKind := .unknownType
  attributes : List Attribute := []
  deriving DecidableEq

/-- A resolved method.  It has no locations when it comes from metadata. -/
structure Method where
  id : String
  name : String
  typeParameters : List TypeParameter := []
  attributes : List Attribute := []
  locations : List Location := []
  generated : Bool := false
  deriving DecidableEq

namespace Method

def arity (method : Method) : Nat := method.typeParameters.length

def isGeneric (method : Method) : Bool := 0 < method.arity

def firstTypeParameter? (method : Method) : Option TypeParameter := method.typeParameters.head?

def location? (method : Method) : Option Location := method.locations.head?

end Method

inductive Symbol where
  | method (declared : Method)
  | type (resolved : TypeSymbol)
  deriving DecidableEq

namespace Symbol

def key : Symbol → String
  | .method declared => declared.id
  | .type resolved => resolved.name

def method? : Symbol → Option Method
  | .method declared => some declared
  | .type _ => none

def type? : Symbol → Option TypeSymbol
  | .method _ => none
  | .type resolved => some resolved

def attributes : Symbol → List Attribute
  | .method declared => declared.attributes
  | .type resolved => resolved.attributes

end Symbol

end InterfaceLint
