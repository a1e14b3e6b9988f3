import InterfaceLint.Settings

/-!
# What settings make of the rules

The options of an analysis are folded over the table of levels, which can name
one rule under several spellings.  Here they are read off the table as a whole:
a rule is off when any spelling says so, and of the severities the one at the
greatest spelling counts.
-/

set_option autoImplicit false

namespace InterfaceLint

/-! ## Ids in any case -/

namespace Rule

theorem sameUpToCase_iff {left right : String} :
    sameUpToCase left right = true ↔
      left.toList.map Char.toLower = right.toList.map Char.toLower :=
  beq_iff_eq

theorem analyzed_apart : ∀ left ∈ analyzed, ∀ right ∈ analyzed,
    sameUpToCase left.id right.id = true → left = right := by
  decide

theorem named_of_ofId?_eq_some {text : String} {rule : Rule} (found : ofId? text = some rule) :
    rule ∈ analyzed ∧ sameUpToCase rule.id text = true := by
  unfold ofId? at found
  have named := List.find?_some found
  exact ⟨List.mem_of_find?_eq_some found, named⟩

theorem ofId?_eq_some_iff {text : String} {rule : Rule} :
    ofId? text = some rule ↔ rule ∈ analyzed ∧ sameUpToCase rule.id text = true := by
  constructor
  · exact named_of_ofId?_eq_some
  · intro names
    obtain ⟨listed, named⟩ := names
    cases found : ofId? text with
    | none =>
        have unnamed := List.find?_eq_none.mp found rule listed
        exact absurd named unnamed
    | some other =>
        obtain ⟨otherListed, otherNamed⟩ := named_of_ofId?_eq_some found
        have same : sameUpToCase other.id rule.id = true := by
          rw [sameUpToCase_iff] at named otherNamed ⊢
          exact otherNamed.trans named.symm
        rw [analyzed_apart other otherListed rule listed same]

def levelIn? (rule : Rule) (entry : String × Level) : Option Level :=
  if rule ∈ analyzed ∧ sameUpToCase rule.id entry.1 = true then some entry.2 else none

theorem levelIn?_of_named {rule : Rule} {id : String} (named : ofId? id = some rule)
    (level : Level) : rule.levelIn? (id, level) = some level :=
  if_pos (ofId?_eq_some_iff.mp named)

theorem levelIn?_of_not_named {rule : Rule} {id : String} (notNamed : ofId? id ≠ some rule)
    (level : Level) : rule.levelIn? (id, level) = none :=
  if_neg fun names => notNamed (ofId?_eq_some_iff.mpr names)

end Rule

/-! ## One level after the other -/

namespace AnalysisOptions

theorem applyLevel_of_not_named {id : String} {rule : Rule} (notNamed : Rule.ofId? id ≠ some rule)
    (options : AnalysisOptions) (level : Level) :
    (options.applyLevel id level).enabled rule = options.enabled rule ∧
      (options.applyLevel id level).severity? rule = options.severity? rule := by
  unfold applyLevel
  cases named : Rule.ofId? id with
  | none => exact ⟨rfl, rfl⟩
  | some other =>
      have different : rule ≠ other := by
        intro same
        exact notNamed (same ▸ named)
      cases severity : level.severity? <;> simp [disable, override, different]

theorem applyLevel_enabled (options : AnalysisOptions) (id : String) (level : Level)
    (rule : Rule) :
    (options.applyLevel id level).enabled rule = true ↔
      options.enabled rule = true ∧ rule.levelIn? (id, level) ≠ some .off := by
  by_cases named : Rule.ofId? id = some rule
  · rw [Rule.levelIn?_of_named named]
    cases level <;> simp [applyLevel, named, Level.severity?, disable, override]
  · rw [Rule.levelIn?_of_not_named named, (applyLevel_of_not_named named options level).1]
    simp

theorem applyLevel_severity? (options : AnalysisOptions) (id : String) (level : Level)
    (rule : Rule) :
    (options.applyLevel id level).severity? rule =
      ((rule.levelIn? (id, level)).bind Level.severity?).or (options.severity? rule) := by
  by_cases named : Rule.ofId? id = some rule
  · rw [Rule.levelIn?_of_named named]
    cases level <;> simp [applyLevel, named, Level.severity?, disable, override]
  · rw [Rule.levelIn?_of_not_named named, (applyLevel_of_not_named named options level).2]
    rfl

theorem applyLevel_analyzeGenerated (options : AnalysisOptions) (id : String) (level : Level) :
    (options.applyLevel id level).analyzeGenerated = options.analyzeGenerated := by
  unfold applyLevel
  split
  · rfl
  · split <;> rfl

def applyLevels (options : AnalysisOptions) (entries : List (String × Level)) : AnalysisOptions :=
  entries.foldl (fun options (id, level) => options.applyLevel id level) options

theorem applyLevels_enabled (rule : Rule) (entries : List (String × Level)) :
    ∀ options : AnalysisOptions,
      (options.applyLevels entries).enabled rule = true ↔
        options.enabled rule = true ∧ .off ∉ entries.filterMap rule.levelIn? := by
  induction entries with
  | nil =>
      intro options
      simp [applyLevels]
  | cons entry entries induction =>
      obtain ⟨id, level⟩ := entry
      intro options
      have rest := induction (options.applyLevel id level)
      rw [applyLevel_enabled] at rest
      rw [applyLevels, List.foldl_cons]
      refine rest.trans ?_
      cases given : rule.levelIn? (id, level) with
      | none => simp [List.filterMap_cons_none given]
      | some own =>
          have different : some own ≠ some Level.off ↔ ¬ Level.off = own := by
            rw [ne_eq, Option.some.injEq, eq_comm]
          rw [List.filterMap_cons_some given, List.mem_cons, not_or, and_assoc, different]

theorem applyLevels_severity? (rule : Rule) (entries : List (String × Level)) :
    ∀ options : AnalysisOptions,
      (options.applyLevels entries).severity? rule =
        ((entries.filterMap rule.levelIn?).filterMap Level.severity?).getLast?.or
          (options.severity? rule) := by
  induction entries with
  | nil =>
      intro options
      rfl
  | cons entry entries induction =>
      obtain ⟨id, level⟩ := entry
      intro options
      have rest := induction (options.applyLevel id level)
      rw [applyLevel_severity?] at rest
      refine rest.trans ?_
      -- A severity at this entry is the last one unless a later entry has one.
      cases given : rule.levelIn? (id, level) with
      | none => rw [List.filterMap_cons_none given, Option.bind_none, Option.none_or]
      | some own =>
          rw [List.filterMap_cons_some given, Option.bind_some]
          cases severity : own.severity? with
          | none => rw [List.filterMap_cons_none severity, Option.none_or]
          | some value =>
              rw [List.filterMap_cons_some severity, List.getLast?_cons]
              cases ((entries.filterMap rule.levelIn?).filterMap Level.severity?).getLast? <;> rfl

theorem applyLevels_analyzeGenerated (entries : List (String × Level)) :
    ∀ options : AnalysisOptions,
      (options.applyLevels entries).analyzeGenerated = options.analyzeGenerated := by
  induction entries with
  | nil =>
      intro options
      rfl
  | cons entry entries induction =>
      intro options
      exact (induction _).trans (applyLevel_analyzeGenerated options entry.1 entry.2)

theorem restrict_enabled (options : AnalysisOptions) (selected : List Rule) (rule : Rule) :
    (options.restrict selected).enabled rule = true ↔
      options.enabled rule = true ∧ (selected = [] ∨ rule ∈ selected) := by
  unfold restrict
  cases selected with
  | nil => simp
  | cons first others => simp

theorem restrict_severity? (options : AnalysisOptions) (selected : List Rule) :
    (options.restrict selected).severity? = options.severity? := by
  unfold restrict
  split <;> rfl

theorem restrict_analyzeGenerated (options : AnalysisOptions) (selected : List Rule) :
    (options.restrict selected).analyzeGenerated = options.analyzeGenerated := by
  unfold restrict
  split <;> rfl

end AnalysisOptions

/-! ## The options as a whole -/

theorem Rule.enabledByDefault_iff {rule : Rule} :
    rule.enabledByDefault = true ↔ rule ∈ Rule.analyzed := by
  cases rule <;> decide

namespace Settings

def levelsOf (settings : Settings) (rule : Rule) : List Level :=
  settings.levels.entries.filterMap rule.levelIn?

/-- A rule is selected, or nothing is, and no spelling of its id is off. -/
structure Enables (settings : Settings) (selected : List Rule) (rule : Rule) : Prop where
  analyzed : rule ∈ Rule.analyzed
  chosen : selected = [] ∨ rule ∈ selected
  notOff : .off ∉ settings.levelsOf rule

/-- The severity at the last spelling that has one. -/
def override? (settings : Settings) (rule : Rule) : Option Severity :=
  ((settings.levelsOf rule).filterMap Level.severity?).getLast?

theorem options_enabled_iff {settings : Settings} {selected : List Rule} {rule : Rule} :
    (settings.options selected).enabled rule = true ↔ settings.Enables selected rule := by
  have folded := AnalysisOptions.applyLevels_enabled rule settings.levels.entries
    (AnalysisOptions.restrict { AnalysisOptions.default with
      analyzeGenerated := settings.analyzeGenerated } selected)
  refine folded.trans ?_
  rw [AnalysisOptions.restrict_enabled]
  constructor
  · intro survives
    obtain ⟨⟨enabled, chosen⟩, notOff⟩ := survives
    exact ⟨Rule.enabledByDefault_iff.mp enabled, chosen, notOff⟩
  · intro enables
    exact ⟨⟨Rule.enabledByDefault_iff.mpr enables.analyzed, enables.chosen⟩, enables.notOff⟩

theorem options_severity? (settings : Settings) (selected : List Rule) (rule : Rule) :
    (settings.options selected).severity? rule = settings.override? rule := by
  have folded := AnalysisOptions.applyLevels_severity? rule settings.levels.entries
    (AnalysisOptions.restrict { AnalysisOptions.default with
      analyzeGenerated := settings.analyzeGenerated } selected)
  rw [AnalysisOptions.restrict_severity?] at folded
  exact folded.trans (Option.or_none)

theorem options_analyzeGenerated (settings : Settings) (selected : List Rule) :
    (settings.options selected).analyzeGenerated = settings.analyzeGenerated :=
  (AnalysisOptions.applyLevels_analyzeGenerated settings.levels.entries _).trans
    (AnalysisOptions.restrict_analyzeGenerated _ selected)

end Settings

end InterfaceLint
