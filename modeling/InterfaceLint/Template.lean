/-!
# Message templates

A template is a text with placeholders, a number in braces each.  Arguments
are filled in one after the other, each over the whole text made so far.
-/

set_option autoImplicit false

namespace InterfaceLint.Template

/-- Replace every occurrence of `needle`, leftmost first and without overlap.
The count says how many characters of the last occurrence are still to be
passed over. -/
def replaceFrom (needle value : List Char) : Nat → List Char → List Char
  | _, [] => []
  | passed + 1, _ :: text => replaceFrom needle value passed text
  | 0, c :: text =>
    if needle.isPrefixOf (c :: text) then
      value ++ replaceFrom needle value (needle.length - 1) text
    else c :: replaceFrom needle value 0 text

def replaceAll (needle value text : List Char) : List Char := replaceFrom needle value 0 text

def placeholder (index : Nat) : List Char := '\x7b' :: Nat.toDigits 10 index ++ ['\x7d']

def fillFrom (text : List Char) (index : Nat) : List String → List Char
  | [] => text
  | argument :: arguments =>
    fillFrom (replaceAll (placeholder index) argument.toList text) (index + 1) arguments

def fill (template : String) (arguments : List String) : String :=
  String.ofList (fillFrom template.toList 0 arguments)

end InterfaceLint.Template
