import InterfaceLint.Disk
import InterfaceLint.Finding
import InterfaceLint.Model
import InterfaceLint.Wire.Document

/-!
# Model files
-/

set_option autoImplicit false

namespace InterfaceLint

/-- Why a model cannot be used. -/
inductive ModelError where
  | unreadable (path : String) (fault : DiskFault)
  | malformed (error : Json.ReadError)
  | repeatedKey (error : RepeatedKey)
  deriving DecidableEq

def ModelError.message : ModelError → String
  | .unreadable path fault => "Failed to read model file: " ++ path ++ ": " ++ fault.message
  | .malformed error => "Invalid semantic model: " ++ error.message
  | .repeatedKey error => error.message

namespace Model

def parse (text : String) : Except ModelError Model := do
  let document ← (Document.parse text).mapError .malformed
  (Model.ofDocument document).mapError .repeatedKey

def load (disk : Disk) (path : String) : Except ModelError Model := do
  let text ← (disk.readText path).mapError (.unreadable path)
  parse text

end Model

structure LoadedModel where
  path : String
  model : Model

/-- The models of some files and the files that could not be read, both in
the order of the files. -/
structure LoadedModels where
  models : List LoadedModel
  failures : List UnreadableModel

def loaded? : String × Except ModelError Model → Option LoadedModel
  | (path, .ok model) => some { path, model }
  | (_, .error _) => none

def failed? : String × Except ModelError Model → Option UnreadableModel
  | (_, .ok _) => none
  | (path, .error error) => some { path, error := error.message }

def loadModels (disk : Disk) (files : List String) : LoadedModels :=
  let attempts := files.map fun path => (path, Model.load disk path)
  { models := attempts.filterMap loaded?, failures := attempts.filterMap failed? }

end InterfaceLint
