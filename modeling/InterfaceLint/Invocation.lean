import InterfaceLint.Command

/-!
# Command line invocations

Words are taken from left to right.  The value of an option and the paths are
held back until the next option or the end, and only then looked at, so an
unknown option is reported before a wrong value that stands right in front of
it.  The first fault counts.
-/

set_option autoImplicit false

namespace InterfaceLint

open Text (Glyph Word)

inductive Refusal where
  | displayHelp
  | displayVersion
  | invalidSubcommand
  | unknownArgument
  | invalidValue
  | tooManyValues
  | argumentConflict
  deriving DecidableEq

namespace Refusal

def name : Refusal → String
  | .displayHelp => "DisplayHelp"
  | .displayVersion => "DisplayVersion"
  | .invalidSubcommand => "InvalidSubcommand"
  | .unknownArgument => "UnknownArgument"
  | .invalidValue => "InvalidValue"
  | .tooManyValues => "TooManyValues"
  | .argumentConflict => "ArgumentConflict"

/-- Help and version are answers, not faults. -/
def exitStatus : Refusal → ExitStatus
  | .displayHelp | .displayVersion => .success
  | _ => .error

end Refusal

namespace Invocation

/-! ## Words -/

inductive Shape where
  /-- Two dashes alone, after which no word is an option. -/
  | separator
  /-- A long option, with the value after an equals sign if there is one. -/
  | long (name : Word) (value : Option Word)
  /-- A run of short options. -/
  | short (flags : Word)
  | plain
  deriving DecidableEq

def shape (word : Word) : Shape :=
  match word with
  | [.char '-', .char '-'] => .separator
  | .char '-' :: .char '-' :: rest =>
    let name := rest.takeWhile fun glyph => glyph ≠ .char '='
    let value := if rest.contains (.char '=') then some (rest.drop (name.length + 1)) else none
    .long name value
  | [.char '-'] => .plain
  | .char '-' :: rest => .short rest
  | _ => .plain

/-! ## Options without a value -/

def isHelpFlag (glyph : Glyph) : Bool := glyph = .char 'h'

/-- The refusal for a run of short options, when only help and possibly the
version can be asked for; the first option of the run decides. -/
def refuseShort (versioned : Bool) (flags : Word) : Refusal :=
  match flags with
  | glyph :: _ =>
    if isHelpFlag glyph then .displayHelp
    else if versioned && glyph = .char 'V' then .displayVersion
    else .unknownArgument
  | [] => .unknownArgument

def refuseLong (versioned : Bool) (name : Word) (value : Option Word) : Refusal :=
  let answerTo (refusal : Refusal) : Refusal := if value.isSome then .tooManyValues else refusal
  if name = Word.ofString "help" then answerTo .displayHelp
  else if versioned && name = Word.ofString "version" then answerTo .displayVersion
  else .unknownArgument

/-! ## Options of a check -/

inductive Pending where
  | nothing
  | root (value : Option Word)
  | rule (value : Option Word)
  | format (value : Option Word)
  | paths (values : List Word)
  deriving DecidableEq

structure CheckState where
  paths : List Word := []
  root : Option Word := none
  verbose : Bool := false
  rules : List Rule := []
  format : Option OutputFormat := none
  pending : Pending := .nothing
  deriving DecidableEq

def ruleOf? (word : Word) : Option Rule :=
  match word.text? with
  | some "call-site" | some "ICG001" | some "icg001" => some .interfaceArgument
  | some "declaration" | some "ICG002" | some "icg002" => some .markerDeclaration
  | _ => none

def formatOf? (word : Word) : Option OutputFormat :=
  match word.text? with
  | some "text" => some .text
  | some "json" => some .json
  | _ => none

namespace CheckState

def setRoot (state : CheckState) (value : Word) : Except Refusal CheckState :=
  if state.root.isSome then .error .argumentConflict
  else if value.isEmpty then .error .invalidValue
  else .ok { state with root := some value }

def addRule (state : CheckState) (value : Word) : Except Refusal CheckState :=
  match ruleOf? value with
  | some rule => .ok { state with rules := state.rules ++ [rule] }
  | none => .error .invalidValue

def setFormat (state : CheckState) (value : Word) : Except Refusal CheckState :=
  if state.format.isSome then .error .argumentConflict
  else
    match formatOf? value with
    | some format => .ok { state with format := some format }
    | none => .error .invalidValue

def addPaths (state : CheckState) (values : List Word) : Except Refusal CheckState :=
  if values.any List.isEmpty then .error .invalidValue
  else .ok { state with paths := state.paths ++ values }

def flush (state : CheckState) : Except Refusal CheckState :=
  let cleared := { state with pending := .nothing }
  match state.pending with
  | .nothing => .ok cleared
  | .root (some value) => cleared.setRoot value
  | .rule (some value) => cleared.addRule value
  | .format (some value) => cleared.setFormat value
  | .root none | .rule none | .format none => .error .invalidValue
  | .paths values => cleared.addPaths values

def holdPath (state : CheckState) (word : Word) : Except Refusal CheckState :=
  match state.pending with
  | .paths values => .ok { state with pending := .paths (values ++ [word]) }
  | _ => do return { ← state.flush with pending := .paths [word] }

/-- Take a plain word: the value an option waits for, or a path. -/
def takePlain (state : CheckState) (word : Word) : Except Refusal CheckState :=
  match state.pending with
  | .root none => .ok { state with pending := .root (some word) }
  | .rule none => .ok { state with pending := .rule (some word) }
  | .format none => .ok { state with pending := .format (some word) }
  | _ => state.holdPath word

def takeVerbose (state : CheckState) : Except Refusal CheckState := do
  let state ← state.flush
  if state.verbose then .error .argumentConflict else return { state with verbose := true }

def takeShort (state : CheckState) : Word → Except Refusal CheckState
  | [] => .ok state
  | glyph :: flags =>
    if glyph = .char 'v' then do takeShort (← state.takeVerbose) flags
    else if isHelpFlag glyph then do
      let _ ← state.flush
      .error .displayHelp
    else .error .unknownArgument

def takeOption (state : CheckState) (waiting : Pending)
    (apply : CheckState → Word → Except Refusal CheckState) :
    Option Word → Except Refusal CheckState
  | some value => do apply (← state.flush) value
  | none => do return { ← state.flush with pending := waiting }

def takeLong (state : CheckState) (name : Word) (value : Option Word) :
    Except Refusal CheckState :=
  match name.text? with
  | some "root" => state.takeOption (.root none) setRoot value
  | some "rule" => state.takeOption (.rule none) addRule value
  | some "format" => state.takeOption (.format none) setFormat value
  | some "verbose" => if value.isSome then .error .tooManyValues else state.takeVerbose
  | some "help" =>
    if value.isSome then .error .tooManyValues
    else do
      let _ ← state.flush
      .error .displayHelp
  | _ => .error .unknownArgument

/-- Take the words of a check; after the separator all are paths. -/
def takeWords (state : CheckState) : Bool → List Word → Except Refusal CheckState
  | _, [] => state.flush
  | true, word :: words => do takeWords (← state.holdPath word) true words
  | false, word :: words =>
    match shape word with
    | .separator => takeWords state true words
    | .long name value => do takeWords (← state.takeLong name value) false words
    | .short flags => do takeWords (← state.takeShort flags) false words
    | .plain => do takeWords (← state.takePlain word) false words

/-- The root comes from the environment when no option gives one. -/
def request (state : CheckState) (environment : Option Word) : Except Refusal CheckRequest := do
  let root ← match state.root, environment with
    | some root, _ => .ok (some root)
    | none, some root => if root.isEmpty then .error .invalidValue else .ok (some root)
    | none, none => .ok none
  return {
    paths := state.paths
    root
    verbose := state.verbose
    rules := state.rules
    format := state.format.getD .text }

end CheckState

/-! ## Commands -/

def refuseExtra : Bool → List Word → Option Refusal
  | _, [] => none
  | true, _ :: _ => some .unknownArgument
  | false, word :: words =>
    match shape word with
    | .separator => refuseExtra true words
    | .long name value => some (refuseLong false name value)
    | .short flags => some (refuseShort false flags)
    | .plain => some .unknownArgument

def commandNames : List String := ["check", "rules", "init", "help"]

def isCommand (word : Word) : Bool :=
  match word.text? with
  | some text => commandNames.contains text
  | none => false

/-- The answer to a request for help on commands: at most one, by its name. -/
def helpOn : List Word → Refusal
  | [] => .displayHelp
  | [word] => if isCommand word then .displayHelp else .invalidSubcommand
  | _ => .invalidSubcommand

def bare (command : Command) (words : List Word) : Except Refusal Command :=
  match refuseExtra false words with
  | some refusal => .error refusal
  | none => .ok command

def commandOf (environment : Option Word) (name : String) (words : List Word) :
    Except Refusal Command :=
  match name with
  | "check" => do
    let state ← CheckState.takeWords {} false words
    return .check (← state.request environment)
  | "rules" => bare .rules words
  | "init" => bare .init words
  | "help" => .error (helpOn words)
  | _ => .error .invalidSubcommand

def afterSeparator : List Word → Except Refusal Command
  | [] => .ok .overview
  | word :: _ => .error (if isCommand word then .unknownArgument else .invalidSubcommand)

def parse (environment : Option Word) : List Word → Except Refusal Command
  | [] => .ok .overview
  | word :: words =>
    match shape word with
    | .separator => afterSeparator words
    | .long name value => .error (refuseLong true name value)
    | .short flags => .error (refuseShort true flags)
    | .plain =>
      match word.text? with
      | some name => commandOf environment name words
      | none => .error .invalidSubcommand

end Invocation

end InterfaceLint
