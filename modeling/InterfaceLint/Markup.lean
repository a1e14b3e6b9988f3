/-!
# Styled text

Output is a sequence of spans, each with a style.  The same spans give plain
text or text with terminal escapes, so layout never depends on colouring.
-/

set_option autoImplicit false

namespace InterfaceLint

inductive Colour where
  | red
  | green
  | yellow
  | blue
  | cyan
  deriving DecidableEq

def Colour.code : Colour → String
  | .red => "31"
  | .green => "32"
  | .yellow => "33"
  | .blue => "34"
  | .cyan => "36"

structure Style where
  bold : Bool := false
  dimmed : Bool := false
  colour : Option Colour := none
  deriving DecidableEq

namespace Style

def plain : Style := {}

def codes (style : Style) : List String :=
  (if style.bold then ["1"] else []) ++ (if style.dimmed then ["2"] else []) ++
    (style.colour.map Colour.code).toList

end Style

structure Span where
  text : String
  style : Style := .plain
  deriving DecidableEq

abbrev Markup := List Span

def escapeChar : Char := '\x1b'

namespace Span

def plain (text : String) : Span := ⟨text, .plain⟩

def coloured (colour : Colour) (text : String) : Span := ⟨text, { colour := some colour }⟩

/-- Styled text stands between an escape with the codes and one that resets
them; without colouring it is the text alone. -/
def render (colouring : Bool) (span : Span) : String :=
  if colouring && !span.style.codes.isEmpty then
    escapeChar.toString ++ "[" ++ ";".intercalate span.style.codes ++ "m" ++ span.text ++
      escapeChar.toString ++ "[0m"
  else span.text

end Span

namespace Markup

def render (colouring : Bool) (markup : Markup) : String :=
  String.join (markup.map (Span.render colouring))

def lineEnd : Span := .plain "\n"

end Markup

end InterfaceLint
