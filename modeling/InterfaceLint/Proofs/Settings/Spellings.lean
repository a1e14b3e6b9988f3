import InterfaceLint.Proofs.Settings.Options
import InterfaceLint.Proofs.Text.ByteOrder

/-!
# Rules under several spellings

A table of levels can name a rule under several spellings of its id, which
differ in the case of letters, and can have ids that name no rule.  What the
options of an analysis come to is said of the table as a set of entries: any
`off` disables the rule, and of the other entries the one whose id has the
greatest bytes gives the severity.  This determines the options, so nothing
else of the settings matters to them.
-/

set_option autoImplicit false

namespace InterfaceLint

/-! ## The last of the picked entries -/

section

variable {α β : Type} {pick : α → Option β} {key : α → String} {items : List α}

theorem getLast?_filterMap_eq_none_iff :
    (items.filterMap pick).getLast? = none ↔ ∀ item ∈ items, pick item = none := by
  rw [List.getLast?_eq_none_iff, List.filterMap_eq_nil_iff]

theorem getLast?_filterMap_eq_some_iff_split {result : β} :
    (items.filterMap pick).getLast? = some result ↔
      ∃ front item back, items = front ++ item :: back ∧ pick item = some result ∧
        ∀ other ∈ back, pick other = none := by
  constructor
  · intro last
    obtain ⟨picks, split⟩ := List.getLast?_eq_some_iff.mp last
    obtain ⟨front, tail, rfl, _, atEnd⟩ := List.filterMap_eq_append_iff.mp split
    obtain ⟨skipped, item, back, rfl, _, picked, none⟩ := List.filterMap_eq_cons_iff.mp atEnd
    refine ⟨front ++ skipped, item, back, ?_, picked, List.filterMap_eq_nil_iff.mp none⟩
    rw [List.append_assoc]
  · rintro ⟨front, item, back, rfl, picked, none⟩
    rw [List.filterMap_append, List.filterMap_cons_some picked, List.filterMap_eq_nil_iff.mpr none,
      List.getLast?_concat]

/-- Where keys ascend, what is picked last is picked at the greatest key. -/
theorem getLast?_filterMap_eq_some_iff
    (ascending : items.Pairwise fun left right => key left < key right) {result : β} :
    (items.filterMap pick).getLast? = some result ↔
      ∃ item ∈ items, pick item = some result ∧
        ∀ other ∈ items, pick other ≠ none → key other ≤ key item := by
  rw [getLast?_filterMap_eq_some_iff_split]
  constructor
  · rintro ⟨front, item, back, rfl, picked, none⟩
    refine ⟨item, by simp, picked, fun other listed different => ?_⟩
    rcases List.mem_append.mp listed with before | after
    · exact ((List.pairwise_append.mp ascending).2.2 other before item List.mem_cons_self).le
    · rcases List.mem_cons.mp after with rfl | after
      · exact le_rfl
      · exact absurd (none other after) different
  · rintro ⟨item, listed, picked, greatest⟩
    obtain ⟨front, back, rfl⟩ := List.append_of_mem listed
    refine ⟨front, item, back, rfl, picked, fun other after => ?_⟩
    by_contra different
    have above := (List.pairwise_cons.mp (List.pairwise_append.mp ascending).2.1).1 other after
    exact absurd (greatest other (by simp [after]) different) (not_le.mpr above)

end

/-! ## The table as a set of entries -/

namespace Settings

def Gives (settings : Settings) (rule : Rule) (key : String) (level : Level) : Prop :=
  (key, level) ∈ settings.levels.entries ∧ Rule.sameUpToCase rule.id key = true

/-- What the options of an analysis have to be. -/
structure ReadAs (settings : Settings) (selected : List Rule) (options : AnalysisOptions) :
    Prop where
  enabled : ∀ rule ∈ Rule.analyzed,
    (options.enabled rule = true ↔
      (selected = [] ∨ rule ∈ selected) ∧ ∀ key, ¬ settings.Gives rule key .off)
  overridden : ∀ rule ∈ Rule.analyzed, ∀ severity,
    (options.severity? rule = some severity ↔
      ∃ key level, settings.Gives rule key level ∧ level.severity? = some severity ∧
        ∀ other otherLevel, settings.Gives rule other otherLevel → otherLevel ≠ .off →
          Text.bytes other ≤ Text.bytes key)
  notOverridden : ∀ rule ∈ Rule.analyzed,
    (options.severity? rule = none ↔ ∀ key level, settings.Gives rule key level → level = .off)
  /-- The rule on files that cannot be read is out of reach. -/
  unreadable : options.enabled .unreadableModel = false ∧
    options.severity? .unreadableModel = none
  analyzeGenerated : options.analyzeGenerated = settings.analyzeGenerated

theorem mem_levelsOf_iff {settings : Settings} {rule : Rule} (analyzed : rule ∈ Rule.analyzed)
    {level : Level} : level ∈ settings.levelsOf rule ↔ ∃ key, settings.Gives rule key level := by
  simp only [levelsOf, List.mem_filterMap, Prod.exists, Rule.levelIn?, analyzed, true_and,
    Option.ite_none_right_eq_some, Option.some.injEq, Gives]
  constructor
  · rintro ⟨key, _, listed, spelled, rfl⟩
    exact ⟨key, listed, spelled⟩
  · rintro ⟨key, listed, spelled⟩
    exact ⟨key, level, listed, spelled, rfl⟩

end Settings

def Rule.severityIn? (rule : Rule) (entry : String × Level) : Option Severity :=
  (rule.levelIn? entry).bind Level.severity?

theorem Rule.severityIn?_eq_some_iff {rule : Rule} (analyzed : rule ∈ Rule.analyzed)
    {entry : String × Level} {severity : Severity} :
    rule.severityIn? entry = some severity ↔
      sameUpToCase rule.id entry.1 = true ∧ entry.2.severity? = some severity := by
  by_cases spelled : sameUpToCase rule.id entry.1 = true
  · simp [severityIn?, levelIn?, analyzed, spelled]
  · simp [severityIn?, levelIn?, spelled]

theorem Rule.severityIn?_eq_none_iff {rule : Rule} (analyzed : rule ∈ Rule.analyzed)
    {entry : String × Level} :
    rule.severityIn? entry = none ↔
      (sameUpToCase rule.id entry.1 = true → entry.2 = .off) := by
  have silent : entry.2.severity? = none ↔ entry.2 = .off := by
    cases entry.2 <;> simp [Level.severity?]
  by_cases spelled : sameUpToCase rule.id entry.1 = true
  · simp [severityIn?, levelIn?, analyzed, spelled, silent]
  · simp [severityIn?, levelIn?, spelled]

namespace Settings

theorem override?_eq (settings : Settings) (rule : Rule) :
    settings.override? rule = (settings.levels.entries.filterMap rule.severityIn?).getLast? := by
  rw [override?, levelsOf, List.filterMap_filterMap]
  rfl

theorem options_readAs (settings : Settings) (selected : List Rule) :
    settings.ReadAs selected (settings.options selected) where
  enabled := by
    intro rule analyzed
    rw [options_enabled_iff]
    constructor
    · intro enables
      refine ⟨enables.chosen, fun key given => enables.notOff ?_⟩
      exact (mem_levelsOf_iff analyzed).mpr ⟨key, given⟩
    · rintro ⟨chosen, notOff⟩
      refine ⟨analyzed, chosen, fun listed => ?_⟩
      obtain ⟨key, given⟩ := (mem_levelsOf_iff analyzed).mp listed
      exact notOff key given
  overridden := by
    intro rule analyzed severity
    rw [options_severity?, override?_eq,
      getLast?_filterMap_eq_some_iff settings.levels.ascending]
    simp only [Rule.severityIn?_eq_some_iff analyzed, ne_eq, Rule.severityIn?_eq_none_iff analyzed,
      Prod.exists, Prod.forall, Text.bytes_le_iff, Gives, Classical.not_imp]
    constructor
    · rintro ⟨key, level, listed, ⟨spelled, asked⟩, greatest⟩
      refine ⟨key, level, ⟨listed, spelled⟩, asked, ?_⟩
      rintro other otherLevel ⟨otherListed, otherSpelled⟩ notOff
      exact greatest other otherLevel otherListed ⟨otherSpelled, notOff⟩
    · rintro ⟨key, level, ⟨listed, spelled⟩, asked, greatest⟩
      refine ⟨key, level, listed, ⟨spelled, asked⟩, ?_⟩
      rintro other otherLevel otherListed ⟨otherSpelled, notOff⟩
      exact greatest other otherLevel ⟨otherListed, otherSpelled⟩ notOff
  notOverridden := by
    intro rule analyzed
    rw [options_severity?, override?_eq, getLast?_filterMap_eq_none_iff]
    simp only [Rule.severityIn?_eq_none_iff analyzed, Prod.forall, Gives, and_imp]
  unreadable := by
    constructor
    · rw [Bool.eq_false_iff, ne_eq, options_enabled_iff]
      exact fun enables => absurd enables.analyzed (by decide)
    · rw [options_severity?, override?_eq, getLast?_filterMap_eq_none_iff]
      intro entry _
      simp [Rule.severityIn?, Rule.levelIn?, Rule.analyzed]
  analyzeGenerated := settings.options_analyzeGenerated selected

theorem ReadAs.unique {settings : Settings} {selected : List Rule}
    {options other : AnalysisOptions} (read : settings.ReadAs selected options)
    (otherRead : settings.ReadAs selected other) : options = other := by
  have analyzedOrNot (rule : Rule) : rule ∈ Rule.analyzed ∨ rule = .unreadableModel := by
    cases rule <;> decide
  have enabled : options.enabled = other.enabled := by
    funext rule
    rcases analyzedOrNot rule with analyzed | rfl
    · rw [Bool.eq_iff_iff, read.enabled rule analyzed, otherRead.enabled rule analyzed]
    · rw [read.unreadable.1, otherRead.unreadable.1]
  have severities : options.severity? = other.severity? := by
    funext rule
    rcases analyzedOrNot rule with analyzed | rfl
    · ext severity
      rw [read.overridden rule analyzed, otherRead.overridden rule analyzed]
    · rw [read.unreadable.2, otherRead.unreadable.2]
  have generated : options.analyzeGenerated = other.analyzeGenerated :=
    read.analyzeGenerated.trans otherRead.analyzeGenerated.symm
  cases options
  cases other
  simp_all

/-- The reading asks which rules are selected and what the table gives to rules. -/
theorem ReadAs.congr {settings other : Settings} {selected others : List Rule}
    {options : AnalysisOptions} (read : settings.ReadAs selected options)
    (selection : ∀ rule, rule ∈ others ↔ rule ∈ selected)
    (given : ∀ rule ∈ Rule.analyzed, ∀ key level,
      other.Gives rule key level ↔ settings.Gives rule key level)
    (generated : other.analyzeGenerated = settings.analyzeGenerated) :
    other.ReadAs others options where
  enabled := by
    intro rule analyzed
    have empty : others = [] ↔ selected = [] := by
      simp only [List.eq_nil_iff_forall_not_mem, selection]
    rw [read.enabled rule analyzed, empty, selection]
    simp only [given rule analyzed]
  overridden := by
    intro rule analyzed severity
    rw [read.overridden rule analyzed]
    simp only [given rule analyzed]
  notOverridden := by
    intro rule analyzed
    rw [read.notOverridden rule analyzed]
    simp only [given rule analyzed]
  unreadable := read.unreadable
  analyzeGenerated := read.analyzeGenerated.trans generated.symm

end Settings

/-- The options of an analysis are what the table says as a set of entries.  They
depend on which rules are selected and on the entries that name a rule, and on no
order, repetition or other entry. -/
theorem options_of_spellings (settings : Settings) (selected : List Rule) :
    settings.ReadAs selected (settings.options selected) ∧
      (∀ others : List Rule, (∀ rule, rule ∈ others ↔ rule ∈ selected) →
        settings.options others = settings.options selected) ∧
      ∀ other : Settings, other.analyzeGenerated = settings.analyzeGenerated →
        (∀ key level, (∃ rule ∈ Rule.analyzed, Rule.sameUpToCase rule.id key = true) →
          ((key, level) ∈ other.levels.entries ↔ (key, level) ∈ settings.levels.entries)) →
        other.options selected = settings.options selected := by
  have read := settings.options_readAs selected
  refine ⟨read, ?_, ?_⟩
  · intro others selection
    have same := (read.congr selection (fun _ _ _ _ => Iff.rfl) rfl)
    exact (settings.options_readAs others).unique same
  · intro other generated known
    have given : ∀ rule ∈ Rule.analyzed, ∀ key level,
        other.Gives rule key level ↔ settings.Gives rule key level := by
      intro rule analyzed key level
      exact and_congr_left fun spelled => known key level ⟨rule, analyzed, spelled⟩
    exact (other.options_readAs selected).unique (read.congr (fun _ => Iff.rfl) given generated)

def collidingSettings : Settings :=
  { levels := .ofList [("ICG002", .warning), ("Icg002", .info), ("icg002", .off), ("x", .error)] }

example : (collidingSettings.options []).severity? .markerDeclaration = some .info ∧
    (collidingSettings.options []).enabled .markerDeclaration = false := by decide

theorem options_of_spellings_colliding :
    let known : Settings :=
      { levels := .ofList [("ICG002", .warning), ("Icg002", .info), ("icg002", .off)] }
    let selected : List Rule := [.markerDeclaration, .interfaceArgument]
    collidingSettings.ReadAs selected (collidingSettings.options selected) ∧
      collidingSettings.options (selected ++ selected.reverse) =
        collidingSettings.options selected ∧
      known.options selected = collidingSettings.options selected := by
  intro known selected
  obtain ⟨read, selection, unknown⟩ := options_of_spellings collidingSettings selected
  refine ⟨read, selection _ (by simp), unknown known rfl ?_⟩
  rintro key level ⟨rule, _, spelled⟩
  have more : collidingSettings.levels.entries = known.levels.entries ++ [("x", .error)] := by
    decide
  rw [more, List.mem_append, or_iff_left]
  intro last
  cases List.mem_singleton.mp last
  revert spelled
  cases rule <;> decide

end InterfaceLint
