/-!
# Glob patterns

A pattern is compiled to tokens and matched against a whole path text.  A
single star stands for any text, separators included; a double star is a path
component of its own and stands for any number of leading components; square
brackets list characters and ranges, after an exclamation mark those that do
not match.
-/

set_option autoImplicit false

namespace InterfaceLint.Glob

inductive ClassItem where
  | single (c : Char)
  | range (low high : Char)
  deriving DecidableEq

inductive Token where
  | char (c : Char)
  | anyChar
  | anySequence
  | anyComponents
  | oneOf (items : List ClassItem)
  | noneOf (items : List ClassItem)
  deriving DecidableEq

structure Pattern where
  tokens : List Token
  deriving DecidableEq

inductive Fault where
  | tooManyStars
  | partialComponent
  | invalidClass
  deriving DecidableEq

def Fault.describe : Fault → String
  | .tooManyStars => "wildcards are either regular `*` or recursive `**`"
  | .partialComponent => "recursive wildcards must form a single path component"
  | .invalidClass => "invalid range pattern"

structure Error where
  index : Nat
  fault : Fault
  deriving DecidableEq

def Error.message (error : Error) : String :=
  "Pattern syntax error near position " ++ toString error.index ++ ": " ++ error.fault.describe

/-! ## Compilation -/

/-- The entries of a character class; a dash between two characters makes a
range. -/
def classItems : List Char → List ClassItem
  | low :: '-' :: high :: rest => .range low high :: classItems rest
  | c :: rest => .single c :: classItems rest
  | [] => []

def beforeBracket? (text : List Char) : Option (List Char) :=
  if text.contains ']' then some (text.takeWhile (· ≠ ']')) else none

/-- The class after an opening bracket and how many characters it takes.  The
first character of a class is never its end. -/
def class? : List Char → Option (Token × Nat)
  | '!' :: first :: rest =>
    (beforeBracket? rest).map fun others =>
      (.noneOf (classItems (first :: others)), others.length + 3)
  | '!' :: [] => none
  | first :: rest =>
    (beforeBracket? rest).map fun others =>
      (.oneOf (classItems (first :: others)), others.length + 2)
  | [] => none

/-- Add a double star; one that follows another is dropped, except right at
the start. -/
def addComponents (taken : List Token) : List Token :=
  if 1 < taken.length && taken.head? == some .anyComponents then taken
  else .anyComponents :: taken

/-- Compile a text.  `passed` counts characters that belong to the token
before, `previous` is the character just passed and `taken` holds the tokens
so far, last first. -/
def compileFrom : Nat → Nat → Option Char → List Token → List Char → Except Error (List Token)
  | _, _, _, taken, [] => .ok taken.reverse
  | passed + 1, index, _, taken, c :: rest => compileFrom passed (index + 1) (some c) taken rest
  | 0, index, previous, taken, c :: rest =>
    if c = '?' then compileFrom 0 (index + 1) (some c) (.anyChar :: taken) rest
    else if c = '*' then
      let others := (rest.takeWhile (· = '*')).length
      if others = 0 then compileFrom 0 (index + 1) (some c) (.anySequence :: taken) rest
      else if 1 < others then .error ⟨index + 2, .tooManyStars⟩
      else if previous ≠ none ∧ previous ≠ some '/' then .error ⟨index - 1, .partialComponent⟩
      else
        match (rest.drop 1).head? with
        | none => compileFrom 1 (index + 1) (some c) (addComponents taken) rest
        | some next =>
          if next = '/' then compileFrom 2 (index + 1) (some c) (addComponents taken) rest
          else .error ⟨index + 2, .partialComponent⟩
    else if c = '[' then
      match class? rest with
      | some (token, length) => compileFrom length (index + 1) (some c) (token :: taken) rest
      | none => .error ⟨index, .invalidClass⟩
    else compileFrom 0 (index + 1) (some c) (.char c :: taken) rest

def compile (text : String) : Except Error Pattern := do
  return ⟨← compileFrom 0 0 none [] text.toList⟩

/-- Only a text with a wildcard is a pattern; any other is a literal path. -/
def isPattern (text : String) : Bool := text.toList.any fun c => c == '*' || c == '?'

/-! ## Matching -/

def ClassItem.has (c : Char) : ClassItem → Bool
  | .single own => c == own
  | .range low high => low ≤ c && c ≤ high

def Token.accepts (c : Char) : Token → Bool
  | .char own => c == own
  | .anyChar => true
  | .oneOf items => items.any (ClassItem.has c)
  | .noneOf items => !items.any (ClassItem.has c)
  | .anySequence | .anyComponents => false

/-- How an attempt to match ends.  An attempt that runs out of text ends the
whole match, since a later start leaves even less. -/
inductive Outcome where
  | matched
  | mismatched
  | exhausted
  deriving DecidableEq

/-- Try `next` after ever longer beginnings of the text, after separators only
if asked, and last at its end. -/
def tryLonger (next : List Char → Outcome) (atSeparators : Bool) : List Char → Outcome
  | [] => next []
  | c :: text =>
    if atSeparators && c != '/' then tryLonger next atSeparators text
    else
      match next text with
      | .mismatched => tryLonger next atSeparators text
      | outcome => outcome

def matchTokens : List Token → List Char → Outcome
  | [], [] => .matched
  | [], _ :: _ => .mismatched
  | .anySequence :: tokens, text =>
    match matchTokens tokens text with
    | .mismatched => tryLonger (matchTokens tokens) false text
    | outcome => outcome
  | .anyComponents :: tokens, text =>
    match matchTokens tokens text with
    | .mismatched => tryLonger (matchTokens tokens) true text
    | outcome => outcome
  | _ :: _, [] => .exhausted
  | token :: tokens, c :: text =>
    if token.accepts c then matchTokens tokens text else .mismatched

def Pattern.matches (pattern : Pattern) (path : String) : Bool :=
  matchTokens pattern.tokens path.toList = .matched

end InterfaceLint.Glob
