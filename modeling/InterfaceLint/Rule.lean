import InterfaceLint.Severity
import InterfaceLint.Template

/-!
# Rules and their descriptions

Two rules are checked on a model and have a descriptor.  A third one covers
model files that cannot be read; it can neither be selected nor configured.
-/

set_option autoImplicit false

namespace InterfaceLint

inductive Rule where
  /-- A marked generic method is called with a type argument that is no interface. -/
  | interfaceArgument
  /-- The marker stands on a method that cannot honour it. -/
  | markerDeclaration
  /-- A model file cannot be read. -/
  | unreadableModel
  deriving DecidableEq

structure Descriptor where
  id : String
  title : String
  /-- A template for the message. -/
  format : String
  category : String
  defaultSeverity : Severity := .error
  enabledByDefault : Bool := true

def Descriptor.message (descriptor : Descriptor) (arguments : List String) : String :=
  Template.fill descriptor.format arguments

namespace Rule

/-- The rules checked on a model, in the order of their ids. -/
def analyzed : List Rule := [.interfaceArgument, .markerDeclaration]

def interfaceArgumentDescriptor : Descriptor :=
  { id := "ICG001"
    title := "Enforce interface generic type argument"
    format := "The generic type parameter must be an interface"
    category := "TypeConstraints" }

def markerDeclarationDescriptor : Descriptor :=
  { id := "ICG002"
    title := "OnlyAllowInterfaceCallsAttribute must be used with generic methods having an " ++
      "interface type constraint"
    format := "Method '\x7b0\x7d' must be generic and have an interface type constraint"
    category := "Usage" }

def descriptor? : Rule → Option Descriptor
  | .interfaceArgument => some interfaceArgumentDescriptor
  | .markerDeclaration => some markerDeclarationDescriptor
  | .unreadableModel => none

def descriptors : List Descriptor := analyzed.filterMap descriptor?

def id (rule : Rule) : String :=
  match rule.descriptor? with
  | some descriptor => descriptor.id
  | none => "parse-error"

def rank : Rule → Nat
  | .interfaceArgument => 0
  | .markerDeclaration => 1
  | .unreadableModel => 2

def sameUpToCase (left right : String) : Bool :=
  left.toList.map Char.toLower == right.toList.map Char.toLower

/-- The checked rule with the given id, in any case. -/
def ofId? (text : String) : Option Rule := analyzed.find? fun rule => sameUpToCase rule.id text

end Rule

end InterfaceLint
