import InterfaceLint.Json.Printer
import InterfaceLint.Settings
import InterfaceLint.Wire.Symbol

/-!
# Settings in configuration files
-/

set_option autoImplicit false

namespace InterfaceLint

open Json

def Level.ofName (name : String) : Except Fault Level :=
  match Level.all.find? fun level => level.name = name with
  | some level => .ok level
  | none => .error (.unknownVariant name (Level.all.map Level.name))

def Level.decoder : Decoder Level := .choice Level.ofName

def Levels.decoder : Decoder Levels := (Decoder.map Level.decoder).mapResult Levels.ofList

def Settings.decoder : Decoder Settings :=
  Record.decoder {
    name := "Config"
    blank := {}
    fields := [
      .defaulted "includes" (.list .text) fun record value => { record with includes := value },
      .defaulted "ignores" (.list .text) fun record value => { record with ignores := value },
      .defaulted "analyzeGenerated" .flag fun record value =>
        { record with analyzeGenerated := value },
      .defaulted "rules" Levels.decoder fun record value => { record with levels := value }] }

def Levels.toValue (levels : Levels) : Value :=
  .object (levels.entries.map fun (id, level) => (id, .text level.name))

def Settings.toValue (settings : Settings) : Value :=
  .object [("includes", .ofTexts settings.includes), ("ignores", .ofTexts settings.ignores),
    ("analyzeGenerated", .bool settings.analyzeGenerated), ("rules", settings.levels.toValue)]

/-- Read settings from the text of a configuration file; they are not
validated. -/
def Settings.parse (text : String) : Except ReadError Settings := Settings.decoder.parse text

def Settings.defaultText : String := (Settings.toValue {}).pretty

end InterfaceLint
