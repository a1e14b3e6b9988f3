import InterfaceLint.Analysis
import InterfaceLint.ModelFile
import InterfaceLint.Proofs.Json.Decoding
import InterfaceLint.Wire.Document
import InterfaceLint.Wire.Settings

/-!
# Exported files and settings read back

What a document, a symbol or settings are exported as is decoded to just them:
left-out members come back as their defaults, the tag of a symbol picks its
kind again, and the ascending order makes a table of levels equal to the one
exported.  A model loaded from an exported document is the model built from it.
-/

set_option autoImplicit false

namespace InterfaceLint

open Json Json.Decoder

/-! ## Parts of a symbol -/

theorem ofText?_decodes (content : Option String) (levels : Nat) :
    (optional text).Decodes levels (.ofText? content) content := by
  cases content with
  | none => exact optional_decodes_null text levels
  | some content => exact (text_decodes content levels).optional (by simp)

theorem ofTexts_decodes (contents : List String) (levels : Nat) :
    (list text).Decodes (levels + 1) (.ofTexts contents) contents :=
  list_decodes (fun content => text_decodes content levels) contents

theorem Location.decoder_decodes (location : Location) (levels : Nat) :
    Location.decoder.Decodes (levels + 1) location.toValue location := by
  obtain ⟨file, line, col, sourceLine⟩ := location
  cases sourceLine with
  | none =>
      refine Record.Fills.decodes ?_
      refine .give rfl rfl (text_decodes file levels) ?_
      refine .give rfl rfl (count_decodes line levels) ?_
      refine .give rfl rfl (count_decodes col levels) ?_
      exact .done rfl
  | some content =>
      refine Record.Fills.decodes ?_
      refine .give rfl rfl (text_decodes file levels) ?_
      refine .give rfl rfl (count_decodes line levels) ?_
      refine .give rfl rfl (count_decodes col levels) ?_
      refine .give rfl rfl (ofText?_decodes (some content) levels) ?_
      exact .done rfl

theorem TypeKind.ofCode_code (kind : TypeKind) : TypeKind.ofCode kind.code = kind := by
  cases kind <;> decide

theorem TypeKind.decoder_decodes (kind : TypeKind) (levels : Nat) :
    TypeKind.decoder.Decodes levels kind.toValue kind := by
  refine choice_decodes ?_ levels
  rw [kind.ofCode_code]

theorem Attribute.decoder_decodes (applied : Attribute) (levels : Nat) :
    Attribute.decoder.Decodes (levels + 1) applied.toValue applied := by
  refine Record.Fills.decodes ?_
  refine .give rfl rfl (ofText?_decodes applied.className levels) ?_
  exact .done rfl

theorem attributes_decodes (attributes : List Attribute) (levels : Nat) :
    (list Attribute.decoder).Decodes (levels + 2) (.list (attributes.map Attribute.toValue))
      attributes :=
  list_decodes (fun applied => applied.decoder_decodes levels) attributes

theorem TypeParameter.decoder_decodes (parameter : TypeParameter) (levels : Nat) :
    TypeParameter.decoder.Decodes (levels + 2) parameter.toValue parameter := by
  refine Record.Fills.decodes ?_
  refine .give rfl rfl (text_decodes parameter.name _) ?_
  refine .give rfl rfl (ofTexts_decodes parameter.constraints levels) ?_
  exact .done rfl

/-! ## Symbols -/

/-- A type without attributes is exported without them and read with none. -/
theorem TypeSymbol.decoder_decodes (type : TypeSymbol) (levels : Nat) :
    TypeSymbol.decoder.Decodes (levels + 3) type.toValue type := by
  obtain ⟨name, kind, attributes⟩ := type
  cases attributes with
  | nil =>
      refine Record.Fills.decodes ?_
      refine .give rfl rfl (text_decodes name _) ?_
      refine .give rfl rfl (kind.decoder_decodes _) ?_
      exact .done rfl
  | cons applied attributes =>
      refine Record.Fills.decodes ?_
      refine .give rfl rfl (text_decodes name _) ?_
      refine .give rfl rfl (kind.decoder_decodes _) ?_
      refine .give rfl rfl (attributes_decodes (applied :: attributes) levels) ?_
      exact .done rfl

theorem Method.decoder_decodes (method : Method) (levels : Nat) :
    Method.decoder.Decodes (levels + 4) method.toValue method := by
  have parameters := list_decodes (fun parameter : TypeParameter =>
    parameter.decoder_decodes levels) method.typeParameters
  have locations := list_decodes (fun location : Location =>
    location.decoder_decodes (levels + 1)) method.locations
  refine Record.Fills.decodes ?_
  refine .give rfl rfl (text_decodes method.id _) ?_
  refine .give rfl rfl (text_decodes method.name _) ?_
  refine .give rfl rfl parameters ?_
  refine .give rfl rfl (attributes_decodes method.attributes _) ?_
  refine .give rfl rfl locations ?_
  refine .give rfl rfl (flag_decodes method.generated _) ?_
  exact .done rfl

theorem Symbol.decoder_decodes (symbol : Symbol) (levels : Nat) :
    Symbol.decoder.Decodes (levels + 4) symbol.toValue symbol := by
  cases symbol with
  | method declared =>
      have decodes := declared.decoder_decodes levels
      have exportable : ∀ member ∈ declared.members, Exportable (levels + 3) member.2 := by
        cases decodes.exportable with
        | object each => exact each
      have built : Symbol.method <$> Method.decoder.ofValue declared.toValue =
          .ok (.method declared) := by
        rw [decodes.ofValue]
        rfl
      exact Tagged.decoder_decodes rfl built (by simp [Method.members]) exportable
  | type resolved =>
      have decodes := (resolved.decoder_decodes levels).mono (by omega : levels + 3 ≤ levels + 4)
      have exportable : ∀ member ∈ resolved.members, Exportable (levels + 3) member.2 := by
        cases decodes.exportable with
        | object each => exact each
      have built : Symbol.type <$> TypeSymbol.decoder.ofValue resolved.toValue =
          .ok (.type resolved) := by
        rw [decodes.ofValue]
        rfl
      have untagged : ∀ member ∈ resolved.members, member.1 ≠ "kind" := by
        unfold TypeSymbol.members
        split <;> simp
      exact Tagged.decoder_decodes rfl built untagged exportable

/-! ## Documents -/

theorem Call.decoder_decodes (call : Call) (levels : Nat) :
    Call.decoder.Decodes (levels + 2) call.toValue call := by
  refine Record.Fills.decodes ?_
  refine .give rfl rfl (ofText?_decodes call.target _) ?_
  refine .give rfl rfl (ofTexts_decodes call.typeArguments levels) ?_
  refine .give rfl rfl (ofText?_decodes call.enclosingMethod _) ?_
  refine .give rfl rfl (call.location.decoder_decodes levels) ?_
  refine .give rfl rfl (flag_decodes call.generated _) ?_
  exact .done rfl

theorem Document.decoder_decodes (document : Document) :
    Document.decoder.Decodes 6 document.toValue document := by
  have symbols := list_decodes (fun symbol : Symbol => symbol.decoder_decodes 0) document.symbols
  have calls := list_decodes (fun call : Call => call.decoder_decodes 2) document.calls
  refine Record.Fills.decodes ?_
  refine .give rfl rfl (ofText?_decodes document.assembly _) ?_
  refine .give rfl rfl symbols ?_
  refine .give rfl rfl calls ?_
  exact .done rfl

/-! ## Settings -/

theorem Level.decoder_decodes (level : Level) (levels : Nat) :
    Level.decoder.Decodes levels (.text level.name) level := by
  have known : Level.ofName level.name = .ok level := by cases level <;> rfl
  exact choice_decodes known levels

namespace Levels

/-- An id above all those of a table goes to its end. -/
theorem insertEntry_of_above {id : String} {level : Level} {entries : List (String × Level)}
    (above : ∀ entry ∈ entries, entry.1 < id) :
    insertEntry id level entries = entries ++ [(id, level)] := by
  induction entries with
  | nil => rfl
  | cons head entries induction =>
      obtain ⟨here, later⟩ := List.forall_mem_cons.mp above
      have notBelow : ¬id < head.1 := fun below => String.lt_irrefl _ (String.lt_trans here below)
      have notSame : id ≠ head.1 := fun same => String.lt_irrefl _ (same ▸ here)
      simp [insertEntry, notBelow, notSame, induction later]

theorem eq_of_entries {left right : Levels} (same : left.entries = right.entries) :
    left = right := by
  cases left
  cases right
  cases same
  rfl

/-- Putting the entries of a table in, one after the other, gives the table. -/
theorem ofList_entries (levels : Levels) : ofList levels.entries = levels := by
  have inserted : ∀ (entries : List (String × Level)) (start : Levels),
      (start.entries ++ entries).Pairwise (fun left right => left.1 < right.1) →
        (entries.foldl (fun levels entry => levels.insert entry.1 entry.2) start).entries =
          start.entries ++ entries := by
    intro entries
    induction entries with
    | nil => intro start _; simp
    | cons entry entries induction =>
        intro start ascending
        have above : ∀ known ∈ start.entries, known.1 < entry.1 := fun known listed =>
          (List.pairwise_append.mp ascending).2.2 known listed entry List.mem_cons_self
        have next : (start.insert entry.1 entry.2).entries = start.entries ++ [entry] :=
          insertEntry_of_above above
        have continues := induction (start.insert entry.1 entry.2) (by simpa [next] using ascending)
        simpa [next] using continues
  exact eq_of_entries (inserted levels.entries empty levels.ascending)

theorem decoder_decodes (table : Levels) (levels : Nat) :
    Levels.decoder.Decodes (levels + 1) table.toValue table := by
  have entries := (map_decodes (fun level : Level => level.decoder_decodes levels)
    table.entries).mapResult ofList
  rwa [ofList_entries] at entries

end Levels

theorem Settings.decoder_decodes (settings : Settings) :
    Settings.decoder.Decodes 2 settings.toValue settings := by
  refine Record.Fills.decodes ?_
  refine .give rfl rfl (ofTexts_decodes settings.includes 0) ?_
  refine .give rfl rfl (ofTexts_decodes settings.ignores 0) ?_
  refine .give rfl rfl (flag_decodes settings.analyzeGenerated _) ?_
  refine .give rfl rfl (settings.levels.decoder_decodes 0) ?_
  exact .done rfl

/-! ## Models -/

/-- Loading the text fails just when the model of the document cannot be built,
with the same message, and the model loaded has the findings of the one built. -/
structure LoadsLike (document : Document) (text : String) : Prop where
  fails : ∀ message : String,
    (∃ error, Model.parse text = .error error ∧ error.message = message) ↔
      ∃ error, Model.ofDocument document = .error error ∧ error.message = message
  analyzes : ∀ built, Model.ofDocument document = .ok built →
    ∃ loaded, Model.parse text = .ok loaded ∧
      ∀ options : AnalysisOptions, loaded.analyze options = built.analyze options

theorem parse_eq_of_heldBy {document : Document} {text : String}
    (held : HeldBy document.toValue text) :
    Model.parse text = (Model.ofDocument document).mapError .repeatedKey := by
  have read : Document.parse text = .ok document :=
    (document.decoder_decodes.roundTrips (by omega)).laidOut text held
  rw [Model.parse, read]
  rfl

theorem loadsLike_of_heldBy {document : Document} {text : String}
    (held : HeldBy document.toValue text) : LoadsLike document text where
  fails := by
    intro message
    rw [parse_eq_of_heldBy held]
    cases Model.ofDocument document with
    | ok built => simp [Except.mapError]
    | error error =>
        constructor
        · rintro ⟨_, same, rfl⟩
          cases same
          exact ⟨error, rfl, rfl⟩
        · rintro ⟨_, same, rfl⟩
          cases same
          exact ⟨.repeatedKey error, rfl, rfl⟩
  analyzes := by
    intro built possible
    refine ⟨built, ?_, fun options => rfl⟩
    rw [parse_eq_of_heldBy held, possible]
    rfl

/-- Documents, symbols and settings are read back from what they are exported
as, printed or laid out in any other way, and a model is loaded from an exported
document as it is built from the document. -/
theorem exported_values_read_back :
    (∀ document : Document, Document.decoder.RoundTrips document.toValue document) ∧
      (∀ symbol : Symbol, Symbol.decoder.RoundTrips symbol.toValue symbol) ∧
      (∀ settings : Settings, Settings.decoder.RoundTrips settings.toValue settings) ∧
      ∀ document : Document, LoadsLike document document.toValue.pretty ∧
        ∀ text, HeldBy document.toValue text → LoadsLike document text := by
  refine ⟨fun document => ?_, fun symbol => ?_, fun settings => ?_, fun document => ?_⟩
  · exact document.decoder_decodes.roundTrips (by omega)
  · exact (symbol.decoder_decodes 0).roundTrips (by omega)
  · exact settings.decoder_decodes.roundTrips (by omega)
  · have printed := document.decoder_decodes.exportable.heldBy_pretty
    exact ⟨loadsLike_of_heldBy printed, fun text held => loadsLike_of_heldBy held⟩

end InterfaceLint
